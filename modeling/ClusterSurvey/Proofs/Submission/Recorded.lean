import ClusterSurvey.Proofs.Submission.Attempts
import ClusterSurvey.Proofs.Submission.Line

/-!
# A submission that reports success was recorded

Whatever goes wrong on the line, an attempt that is answered is answered for a delivery that was opened
for one of the submission's requests.  So a success tells that the result has been filed and recorded, and
a rejection that its key is not expected, so that none of the requests has changed anything.  A result
that was recorded by a request whose answer got lost is filed again by the next one, but counted once.
-/

namespace ClusterSurvey

namespace Service

variable {outcome : Except CollectError Unit}

/-- No answer to a delivery points on. -/
theorem pointsOn_answer (outcome : Except CollectError Unit) :
    pointsOn (answer outcome).status = false := by
  cases outcome with
  | ok u => rfl
  | error e => cases e <;> rfl

/-- Only what was taken is answered with success. -/
theorem eq_ok_of_isSuccess (h : isSuccess (answer outcome).status = true) : outcome = .ok () := by
  cases outcome with
  | ok u => rfl
  | error e => cases e <;> cases h

/-- Only what was refused for its key is answered neither with success nor with a fault of the service. -/
theorem refused_of_status (unsuccessful : isSuccess (answer outcome).status = false)
    (faultless : isServerError (answer outcome).status = false) :
    (∃ reason, outcome = .error (.invalidKey reason)) ∨ ∃ j, outcome = .error (.unexpected j) := by
  cases outcome with
  | ok u => cases unsuccessful
  | error e =>
    cases e with
    | unexpected j => exact .inr ⟨j, rfl⟩
    | invalidKey reason => exact .inl ⟨reason, rfl⟩
    | persistence path cause => cases faultless
    | alreadyWaited => cases faultless

end Service

/-- The address to which a request goes is the one that was given. -/
theorem parse_of_requestUrl {url mediaType : String} {u : Net.Url}
    (h : requestUrl url mediaType = .ok u) : Net.Url.parse url = .ok u := by
  unfold requestUrl at h
  split at h
  · cases h
  · next v hv =>
    split_ifs at h
    cases h
    exact hv

namespace Line

variable {root advertise : String} {expected : List ResultKey} {k : ResultKey} {body : ByteArray}
variable {parcel : Parcel} {l : Line}

/-! ### Attempts -/

/-- An attempt to hand over the result of a key is answered, if at all, with the status that belongs to
the outcome of a delivery which was opened for one of the requests. -/
theorem Carries.attempt (authority : Net.IsAuthority advertise) (valid : k.isValid = true)
    (unreserved : k.IsUnreserved) (h : Carries root expected k parcel.payload l) :
    Carries root expected k parcel.payload (attemptAt Line.peer (k.address advertise) parcel l).2 ∧
      ∀ status answer, (attemptAt Line.peer (k.address advertise) parcel l).1 = .answered status answer →
        ∃ id outcome, (attemptAt Line.peer (k.address advertise) parcel l).2.Owns id ∧
          (attemptAt Line.peer (k.address advertise) parcel l).2.collector.outcome? id = some outcome ∧
            status = (Service.answer outcome).status := by
  unfold attemptAt
  split
  · exact ⟨h, nofun⟩
  · next u hu =>
    obtain ⟨v, hv, named⟩ := ResultKey.named_of_isUnreserved authority valid unreserved
    obtain rfl : u = v := Except.ok.inj ((parse_of_requestUrl hu).symm.trans hv)
    obtain ⟨after, told⟩ := h.peer (o := (parcel.errand u).outgoing) named rfl
    have final (answer : Net.Answer)
        (hanswer : Net.Answer.ofOctets? (Line.peer (parcel.errand u).outgoing l).1 = some answer) :
        pointsOn answer.head.status = false := by
      obtain ⟨id, outcome, -, -, hstatus⟩ := told answer hanswer
      rw [hstatus, Service.pointsOn_answer]
    obtain ⟨hline, hanswered⟩ := Errand.run_of_final final u.text maxRedirects
    rw [hline]
    refine ⟨after, fun status answer hout => ?_⟩
    obtain ⟨answer, hanswer, rfl⟩ := hanswered status answer hout
    exact told answer hanswer

/-! ### What goes on afterwards -/

theorem happen_cases (l : Line) (e : Collector.Event) :
    l.happen e = l ∨ ∃ c, l.collector.step? e = some c ∧
      l.happen e = { l with collector := c, log := l.log ++ [e] } := by
  unfold happen
  split
  · next c hc =>
    split
    · exact .inr ⟨c, hc, rfl⟩
    · exact .inl rfl
  · exact .inl rfl

/-- What happens at the service afterwards is added to what has happened there, and no request comes in
on the line. -/
theorem goOn_cases (l : Line) (events : List Collector.Event) :
    ∃ more, l.collector.run? more = some (l.goOn events).collector ∧
      (l.goOn events).log = l.log ++ more ∧ (l.goOn events).own = l.own := by
  induction events generalizing l with
  | nil => exact ⟨[], rfl, (List.append_nil _).symm, rfl⟩
  | cons e es ih =>
    obtain ⟨more, hrun, hlog, hown⟩ := ih (l.happen e)
    show ∃ more, l.collector.run? more = some ((l.happen e).goOn es).collector ∧
      ((l.happen e).goOn es).log = l.log ++ more ∧ ((l.happen e).goOn es).own = l.own
    obtain hsame | ⟨c, hc, heq⟩ := l.happen_cases e
    · rw [hsame] at hrun hlog hown ⊢
      exact ⟨more, hrun, hlog, hown⟩
    · rw [heq] at hrun hlog hown ⊢
      refine ⟨e :: more, ?_, ?_, hown⟩
      · rw [Collector.run?, Machine.run?, hc]
        exact hrun
      · rw [hlog, List.append_assoc, List.singleton_append]

/-- A line on which the result of a key has come through: a delivery of it has been moved into place, and
the key has been received. -/
structure HasDelivered (root : String) (expected : List ResultKey) (k : ResultKey) (l : Line) : Prop where
  filed : ∃ id, l.Owns id ∧ (k, id) ∈ (Collector.start root expected).filings l.log
  received : l.collector.ledger.receipt? k = some .received

/-- The stage of a delivery that has been answered. -/
private theorem stage_of_outcome? {c : Collector} {id : Nat} {d : Delivery}
    {outcome : Except CollectError Unit} (hd : c.deliveries[id]? = some d)
    (answered : c.outcome? id = some outcome) : d.stage = .ended outcome := by
  rw [Collector.outcome?, hd, Option.bind_some, Delivery.outcome?] at answered
  split at answered
  · next o ho => rw [ho, Option.some.inj answered]
  · cases answered

/-- The result has come through when a delivery of it is answered with success. -/
theorem Carries.hasDelivered (h : Carries root expected k body l) {id : Nat} (owns : l.Owns id)
    (taken : l.collector.outcome? id = some (.ok ())) : HasDelivered root expected k l := by
  obtain ⟨d, hd, hkey, hkind⟩ := h.deliveries id owns
  have accounted := Collector.accountedFor_run h.run id d hd
  rw [Collector.IsAccountedFor, stage_of_outcome? hd taken] at accounted
  obtain ⟨hfiled, hreceived⟩ := accounted.resolve_left (by simp [hkind])
  rw [hkey] at hfiled hreceived
  exact ⟨⟨id, owns, hfiled⟩, hreceived⟩

/-- What has come through stays so. -/
theorem HasDelivered.goOn (h : HasDelivered root expected k l)
    (run : (Collector.start root expected).run? l.log = some l.collector)
    (events : List Collector.Event) : HasDelivered root expected k (l.goOn events) := by
  obtain ⟨more, hrun, hlog, hown⟩ := l.goOn_cases events
  obtain ⟨id, owns, hfiled⟩ := h.filed
  have ordered := Collector.orderly_run run
  obtain ⟨added, ordered'⟩ := ordered.run hrun
  constructor
  · refine ⟨id, by rwa [Owns, hown], ?_⟩
    rw [hlog, Collector.filings, Machine.history_append Collector.filingOf more run]
    exact List.mem_append_left _ hfiled
  · rw [ordered'.balanced.received, List.map_append]
    exact List.mem_append_left _ ((ordered.balanced.received k).mp h.received)

/-! ### What is left unchanged -/

/-- The key of a delivery that was refused is not expected, since it is valid. -/
private theorem Carries.unexpected_of_refused (h : Carries root expected k body l)
    (valid : k.isValid = true) {id : Nat} {outcome : Except CollectError Unit} (owns : l.Owns id)
    (answered : l.collector.outcome? id = some outcome)
    (refused : (∃ reason, outcome = .error (.invalidKey reason)) ∨
      ∃ j, outcome = .error (.unexpected j)) : k ∉ expected := by
  obtain ⟨d, hd, rfl, -⟩ := h.deliveries id owns
  have accounted := Collector.accountedFor_run h.run id d hd
  rw [Collector.IsAccountedFor, stage_of_outcome? hd answered] at accounted
  obtain ⟨reason, rfl⟩ | ⟨j, rfl⟩ := refused
  · rw [valid] at accounted
    cases accounted
  · exact accounted

/-- Whether an event is none of a delivery that a request on the line has opened, or changes nothing:
only the list of deliveries is another one. -/
def Passes (l : Line) (c : Collector) (e : Collector.Event) : Prop :=
  ∀ id c', l.Owns id → c.subject? e = some id → c.step? e = some c' →
    ∃ answered, c' = { c with deliveries := answered }

/-- Deliveries stay over a whole run, and keep their keys. -/
private theorem key_of_run {c c' : Collector} {events : List Collector.Event}
    (h : c.run? events = some c') {id : Nat} {d : Delivery} (hd : c.deliveries[id]? = some d) :
    ∃ d', c'.deliveries[id]? = some d' ∧ d'.key = d.key := by
  refine Machine.run?_induction (P := fun _ c' => ∃ d', c'.deliveries[id]? = some d' ∧ d'.key = d.key)
    ⟨d, hd, rfl⟩ ?_ h
  rintro es s e s' - ⟨x, hx, hkey⟩ he
  obtain ⟨y, hy, hkey', -⟩ := Collector.kept_move (Collector.move_of_step? he) hx
  exact ⟨y, hy, hkey'.trans hkey⟩

/-- Requests with the result of a key that is not expected change nothing. -/
theorem Carries.passes (h : Carries root expected k body l) (foreign : k ∉ expected) :
    Machine.Along Collector.step? l.Passes (Collector.start root expected) l.log := by
  refine Machine.along_of_split fun before e after c hsplit hbefore id c' owns subject he => ?_
  obtain ⟨d, hd⟩ := Collector.delivery_of_subject he subject
  have hafter : c'.run? after = some l.collector := by
    have hrun := h.run
    rw [hsplit, Collector.run?, Machine.run?_append] at hrun
    obtain ⟨s, hs, hrest⟩ := Option.bind_eq_some_iff.mp hrun
    obtain rfl : c = s := Option.some.inj (hbefore.symm.trans hs)
    obtain ⟨t, ht, hrest⟩ := Option.bind_eq_some_iff.mp hrest
    obtain rfl : c' = t := Option.some.inj (he.symm.trans ht)
    exact hrest
  obtain ⟨x, hx, hkey⟩ := key_of_run hafter hd
  obtain ⟨y, hy, hykey, -⟩ := h.deliveries id owns
  obtain rfl : x = y := Option.some.inj (hx.symm.trans hy)
  exact Collector.idle_of_unexpected (Collector.orderly_run hbefore) foreign he subject hd
    (hkey.symm.trans hykey)

/-! ### What a submission reports -/

/-- Whether nothing but the requests on a line has written to a place: neither has another delivery or
failure been moved there, nor has somebody else changed what lies there or what was to be moved. -/
structure WritesAlone (root : String) (expected : List ResultKey) (p : Place) (l : Line) : Prop where
  own : ∀ j id, (j, id) ∈ (Collector.start root expected).filings l.log → j.place = p → l.Owns id
  undisturbed : Machine.Along Collector.step? (Collector.SparesPlace p)
    (Collector.start root expected) l.log

/-- What lies at the place of a key whose result has come through, and to which nothing else has written,
is what was sent. -/
theorem Carries.content?_place (h : Carries root expected k body l) (valid : k.isValid = true)
    (delivered : HasDelivered root expected k l) (alone : l.WritesAlone root expected k.place) :
    l.collector.tree.content? k.place = some body := by
  obtain ⟨id, -, hfiled⟩ := delivered.filed
  obtain ⟨j, i, d, hmem, hplace, hd, -, hcontent⟩ :=
    Collector.liesAt_run h.run valid alone.undisturbed hfiled rfl
  rw [hcontent, h.whole j i d hmem (alone.own j i hmem hplace) hd]

/-- What the result of a submission tells about the service. -/
structure Report (root : String) (expected : List ResultKey) (k : ResultKey) (payload : ByteArray)
    (result : Except SubmitError Acceptance) (l : Line) : Prop where
  /-- What has been accepted was expected and has been received, and was counted once over all attempts;
  if nothing else has written to its place, it lies there as it was sent. -/
  accepted : ∀ a, result = .ok a → k ∈ expected ∧
    l.collector.ledger.receipt? k = some .received ∧
    ((Collector.start root expected).countings l.log).count k = 1 ∧
    (l.WritesAlone root expected k.place → l.collector.tree.content? k.place = some payload)
  /-- If it was rejected, then no attempt has changed anything. -/
  rejected : ∀ status text, result = .error (.rejected status text) →
    Machine.Along Collector.step? l.Passes (Collector.start root expected) l.log
  /-- If no attempt had a final answer, then it was counted once at most. -/
  exhausted : ∀ attempts last, result = .error (.exhausted attempts last) →
    ((Collector.start root expected).countings l.log).count k ≤ 1

/-- The report of a submission by its last attempt. -/
private theorem report_of_ending (authority : Net.IsAuthority advertise) (valid : k.isValid = true)
    (unreserved : k.IsUnreserved) (h : Carries root expected k parcel.payload l)
    {ending : Except SubmitError Acceptance × Line}
    (ends : (submission (k.address advertise) parcel).EndsWith parcel l ending)
    (later : List Collector.Event) :
    Report root expected k parcel.payload ending.1 (ending.2.goOn later) := by
  obtain ⟨hline, n, hverdict⟩ := ends
  have hline : ending.2 = (attemptAt peer (k.address advertise) parcel l).2 := hline
  rw [hline]
  generalize ending.1 = result at hverdict
  obtain ⟨carries, told⟩ := h.attempt authority valid unreserved
  have after := carries.goOn later
  have count := Collector.count_countings after.run k
  constructor
  · rintro a rfl
    have hfinal := hverdict.resolve_right (by simp)
    obtain ⟨status, answer, hout, hsuccess⟩ := AttemptOutcome.of_accepted hfinal
    obtain ⟨id, outcome, owns, houtcome, rfl⟩ := told status answer hout
    obtain rfl := Service.eq_ok_of_isSuccess hsuccess
    have delivered := (carries.hasDelivered owns houtcome).goOn carries.run later
    refine ⟨?_, delivered.received, ?_, after.content?_place valid delivered⟩
    · by_contra foreign
      have hnone := (Collector.orderly_run after.run).receipt?_eq_none_iff.mpr foreign
      rw [delivered.received] at hnone
      cases hnone
    · rw [count, if_pos delivered.received]
  · rintro status text rfl
    have hfinal := hverdict.resolve_right (by simp)
    obtain ⟨answer, hout, hsuccess, hfault⟩ := AttemptOutcome.of_rejected hfinal
    obtain ⟨id, outcome, owns, houtcome, rfl⟩ := told status answer hout
    exact after.passes (carries.unexpected_of_refused valid owns houtcome
      (Service.refused_of_status hsuccess hfault))
  · rintro attempts last rfl
    rw [count]
    split <;> omega

/-- Whatever goes wrong on a line, a submission that reports success was recorded, one that reports a
rejection has changed nothing, and no result is counted twice. -/
theorem report_submit (authority : Net.IsAuthority advertise) (valid : k.isValid = true)
    (unreserved : k.IsUnreserved) {c : Collector} {events : List Collector.Event}
    (run : (Collector.start root expected).run? events = some c) (turns : List Turn)
    (policy : RetryPolicy) (parcel : Parcel) (later : List Collector.Event) :
    let ending := (submission (k.address advertise) parcel).submit policy (unused c events turns)
    Report root expected k parcel.payload ending.1 (ending.2.goOn later) := by
  have begins : Carries root expected k parcel.payload (unused c events turns) :=
    ⟨run, by simp [unused], by simp [unused, Owns], nofun, by simp [unused, Owns]⟩
  have attempted (l : Line) (h : Carries root expected k parcel.payload l) :
      Carries root expected k parcel.payload
        ((submission (k.address advertise) parcel).attempt parcel l).2 :=
    (h.attempt authority valid unreserved).1
  obtain ⟨l, carries, ends⟩ :=
    Submission.tryAgain_endsWith attempted (fun _ _ h => h) begins (policy.maxAttempts - 1) 0
  exact report_of_ending authority valid unreserved carries ends later

/-- A line on which a request never comes in, the body of the next one breaks off, and the answer to a
third one gets lost after its result has been recorded. -/
def lossyTurns : List Turn :=
  let body := Text.octets "42"
  let answered := Text.octets " OK\r\ncontent-length: 0\r\n\r\n"
  [⟨[], .empty, 0⟩,
    ⟨[.arrival "000000", .event (.write 0 (Text.octets "4")), .event (.breakOff 0 "connection reset")],
      Text.octets " Internal Server Error\r\ncontent-length: 0\r\n\r\n", 100⟩,
    ⟨[.arrival "000001", .event (.write 1 body), .event (.commit 1), .event (.record 1)], answered, 5⟩,
    ⟨[.arrival "000002", .event (.write 2 body), .event (.commit 2), .event (.record 2)], answered, 100⟩]

/-- A submission over such a line. -/
def lossySubmission : Except SubmitError Acceptance × Line :=
  (submission ((ResultKey.mk "n" "kernel").address "survey.example:8443")
    ⟨Text.octets "42", "text/plain"⟩).submit .default
    (unused (.start "out" [⟨"n", "kernel"⟩]) [] lossyTurns)

/-- Nothing else has written to a place if every delivery that was moved anywhere is one of the line, and the
tree was left alone. -/
private theorem writesAlone_of_owned (p : Place)
    (owned : ((Collector.start root expected).filings l.log).map (·.2) ⊆ l.own.map (·.1))
    (calm : l.log.all (fun | .disturb _ => false | _ => true) = true) :
    l.WritesAlone root expected p where
  own j id hmem _ := by
    obtain ⟨q, hq, heq⟩ := List.mem_map.mp (owned (List.mem_map_of_mem hmem))
    obtain rfl : q.1 = id := heq
    exact ⟨q.2, hq⟩
  undisturbed := by
    refine Machine.along_of_forall fun e he s => ?_
    cases e with
    | disturb tree => cases List.all_eq_true.mp calm _ he
    | _ => trivial

/-- The fourth attempt is accepted.  Two requests have been filed, but the key was counted once, and what
was sent lies at its place. -/
theorem report_lossySubmission :
    ∃ a, lossySubmission.1 = .ok a ∧ a.attempts = 4 ∧
      Report "out" [⟨"n", "kernel"⟩] ⟨"n", "kernel"⟩ (Text.octets "42") lossySubmission.1
        lossySubmission.2 ∧
      ((Collector.start "out" [⟨"n", "kernel"⟩]).filings lossySubmission.2.log).map (·.2) = [1, 2] ∧
      lossySubmission.2.WritesAlone "out" [⟨"n", "kernel"⟩] ["n", "kernel"] := by
  have chars : "survey.example:8443".toList.all
      (fun c => 0x20 < c.toNat ∧ Net.endsAuthority true c = false) = true := rfl
  have authority : Net.IsAuthority "survey.example:8443" :=
    ⟨fun c hc => of_decide_eq_true (List.all_eq_true.mp chars c hc), _, rfl⟩
  have valid : (ResultKey.mk "n" "kernel").isValid = true := by decide +kernel
  have unreserved : (ResultKey.mk "n" "kernel").IsUnreserved := by decide +kernel
  have run : (Collector.start "out" [⟨"n", "kernel"⟩]).run? [] = some (.start "out" [⟨"n", "kernel"⟩]) :=
    rfl
  have report := report_submit authority valid unreserved run lossyTurns .default
    ⟨Text.octets "42", "text/plain"⟩ []
  dsimp only at report
  rw [← lossySubmission] at report
  have seen : (lossySubmission.1.toOption.map (·.attempts),
      ((Collector.start "out" [⟨"n", "kernel"⟩]).filings lossySubmission.2.log).map (·.2),
      lossySubmission.2.own.map (·.1),
      lossySubmission.2.log.all (fun | .disturb _ => false | _ => true)) =
        (some 4, [1, 2], [0, 1, 2], true) := by
    decide +kernel
  obtain ⟨hattempts, hseen⟩ := Prod.mk.inj seen
  obtain ⟨hfilings, hseen⟩ := Prod.mk.inj hseen
  obtain ⟨hown, calm⟩ := Prod.mk.inj hseen
  obtain ⟨a, hresult, attempts⟩ := Option.map_eq_some_iff.mp hattempts
  have accepted : lossySubmission.1 = .ok a := by
    generalize lossySubmission.1 = result at hresult
    cases result with
    | error e => cases hresult
    | ok b => exact congrArg Except.ok (Option.some.inj hresult)
  refine ⟨a, accepted, attempts, report, hfilings, writesAlone_of_owned _ ?_ calm⟩
  rw [hfilings, hown]
  decide

end Line

end ClusterSurvey
