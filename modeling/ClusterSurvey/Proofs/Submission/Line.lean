import ClusterSurvey.Proofs.Collector.Outcomes
import ClusterSurvey.Proofs.Net.Answer
import ClusterSurvey.Proofs.Submission.Address
import ClusterSurvey.Submission.Exchange

/-!
# A line on which everything can go wrong

Between a submission and the service lies a line.  A request may never come in, its body may break off,
the service may fail to file it, and the answer may be lost or come through in part; what one request has
begun may go on when the next one is sent, and in between others deliver their results, failures are
reported, and the tree is changed.  All of this is written down for each request; what cannot happen is
passed over.
-/

namespace ClusterSurvey

/-- What can happen while somebody waits for an answer. -/
inductive Happening where
  /-- The request comes in, and a delivery with this mark is opened for it. -/
  | arrival (mark : String)
  /-- Anything else happens at the service, to this delivery or beside it. -/
  | event (e : Collector.Event)

/-- What becomes of a request. -/
structure Turn where
  /-- What happens before it is answered. -/
  happenings : List Happening
  /-- What the answer has behind its status. -/
  rest : ByteArray
  /-- How many octets of the answer come through. -/
  count : Nat

/-- A line to a service. -/
structure Line where
  /-- The service. -/
  collector : Collector
  /-- What has happened there. -/
  log : List Collector.Event
  /-- The deliveries for which requests on the line have come in, each with the body that was sent. -/
  own : List (Nat × ByteArray)
  /-- The delivery that was opened for the request which waits for an answer, if it has come in. -/
  current : Option Nat
  /-- What will become of the next requests; further ones never come in. -/
  turns : List Turn

/-- The statuses with which deliveries are answered. -/
theorem Service.status_answer_mem (o : Except CollectError Unit) :
    (Service.answer o).status ∈ [200, 400, 403, 500] := by
  cases o with
  | ok u => exact .head _
  | error e =>
    cases e with
    | unexpected key => exact .tail _ (.tail _ (.head _))
    | invalidKey reason => exact .tail _ (.head _)
    | persistence path cause => exact .tail _ (.tail _ (.tail _ (.head _)))
    | alreadyWaited => exact .tail _ (.tail _ (.tail _ (.head _)))

/-- The key whose result a request posts, if it posts one. -/
def Outgoing.key? (o : Outgoing) : Option ResultKey :=
  if o.method = "POST" then Service.keyNamed? o.name else none

namespace Line

/-- A line to a service on which nothing has been sent. -/
def unused (c : Collector) (events : List Collector.Event) (turns : List Turn) : Line :=
  ⟨c, events, [], none, turns⟩

/-- What has come of the body of a delivery. -/
def received (l : Line) (id : Nat) : ByteArray :=
  (l.collector.deliveries[id]?.map (·.body)).getD .empty

/-- Whether an event is in keeping with what was sent on the line: the body of a request comes as it was
sent, and is not taken for complete before all of it has come. -/
def admits (l : Line) : Collector.Event → Bool
  | .write id data =>
    (l.own.lookup id).all fun body =>
      (l.received id ++ data).data = (body.extract 0 (l.received id ++ data).size).data
  | .commit id => (l.own.lookup id).all fun body => (l.received id).data = body.data
  | _ => true

/-- The line after an event at the service. -/
def happen (l : Line) (e : Collector.Event) : Line :=
  match l.collector.step? e with
  | some c => if l.admits e then { l with collector := c, log := l.log ++ [e] } else l
  | none => l

/-- The line after a request has come in.  One that posts no result of a key, or for which no delivery can
be opened yet, does not come in. -/
def arrive (l : Line) (o : Outgoing) (mark : String) : Line :=
  match o.key? with
  | none => l
  | some key =>
    match l.collector.step? (.openResult key false .empty mark) with
    | none => l
    | some c =>
      { l with
        collector := c
        log := l.log ++ [.openResult key false .empty mark]
        own := l.own ++ [(l.collector.deliveries.length, o.body)]
        current := some l.collector.deliveries.length }

/-- The line after something has happened while a request waits for its answer. -/
def follow (o : Outgoing) (l : Line) : Happening → Line
  | .arrival mark => l.arrive o mark
  | .event e => l.happen e

/-- What comes through of the answer to the request that waits for one. -/
def answer (l : Line) (t : Turn) : ByteArray :=
  match l.current.bind l.collector.outcome? with
  | some outcome => Net.answerOctets (Service.answer outcome).status t.rest t.count
  | none => .empty

/-- The service as it is seen from the other end of the line. -/
def peer : Peer Line := fun o l =>
  match l.turns with
  | [] => (.empty, l)
  | t :: turns =>
    let l := t.happenings.foldl (follow o) { l with current := none, turns }
    (l.answer t, l)

/-- A submission over a line to an address.  What happens while it pauses is written down for the next
request. -/
def submission (url : String) (parcel : Parcel) : Submission Line where
  produce l := (.ok parcel, l)
  attempt := attemptAt peer url
  pause _ l := l

/-- The line after further events at the service. -/
def goOn (l : Line) (events : List Collector.Event) : Line := events.foldl happen l

/-- Whether a request on the line has opened a delivery. -/
def Owns (l : Line) (id : Nat) : Prop := ∃ body, (id, body) ∈ l.own

end Line

namespace Line

variable {root : String} {expected : List ResultKey} {k : ResultKey} {body : ByteArray}
variable {l : Line} {o : Outgoing} {e : Collector.Event}

/-- What has come of the body of a delivery that is there. -/
theorem received_eq {id : Nat} {d : Delivery} (hd : l.collector.deliveries[id]? = some d) :
    l.received id = d.body := by
  rw [received, hd]
  rfl

/-! ### Lines that carry the result of one key -/

/-- A line on which nothing but this result of a key has been sent. -/
structure Carries (root : String) (expected : List ResultKey) (k : ResultKey) (body : ByteArray)
    (l : Line) : Prop where
  run : (Collector.start root expected).run? l.log = some l.collector
  bodies : ∀ p ∈ l.own, p.2 = body
  deliveries : ∀ id, l.Owns id → ∃ d, l.collector.deliveries[id]? = some d ∧ d.key = k ∧
    d.isFailure = false
  current : ∀ id, l.current = some id → l.Owns id
  whole : ∀ j id d, (j, id) ∈ (Collector.start root expected).filings l.log → l.Owns id →
    l.collector.deliveries[id]? = some d → d.body = body

private theorem filings_concat {c : Collector} (hrun : (Collector.start root expected).run? l.log =
    some l.collector) (he : l.collector.step? e = some c) :
    (Collector.start root expected).filings (l.log ++ [e]) =
      (Collector.start root expected).filings l.log ++ l.collector.filingOf e :=
  Machine.history_concat Collector.filingOf hrun he

private theorem run?_log {c : Collector} (hrun : (Collector.start root expected).run? l.log =
    some l.collector) (he : l.collector.step? e = some c) :
    (Collector.start root expected).run? (l.log ++ [e]) = some c := by
  rw [Collector.run?, Machine.run?_concat]
  exact Option.bind_eq_some_iff.mpr ⟨l.collector, hrun, he⟩

namespace Carries

/-- What was sent for a delivery. -/
private theorem lookup_own (h : Carries root expected k body l) {id : Nat} (owns : l.Owns id) :
    l.own.lookup id = some body := by
  obtain ⟨b, hb⟩ := owns
  cases hl : l.own.lookup id with
  | none => exact absurd rfl (bne_iff_ne.mp (List.lookup_eq_none_iff.mp hl _ hb))
  | some b' =>
    obtain ⟨before, after, hsplit, -⟩ := List.lookup_eq_some_iff.mp hl
    have hmem : (id, b') ∈ l.own := hsplit ▸ List.mem_append_right before List.mem_cons_self
    exact congrArg some (h.bodies (id, b') hmem)

/-- The body of a delivery that has been moved into place stays what was sent. -/
private theorem whole_step {c : Collector} (h : Carries root expected k body l)
    (he : l.collector.step? e = some c) (admitted : l.admits e = true) {j : ResultKey} {id : Nat}
    {d : Delivery} (filed : (j, id) ∈ (Collector.start root expected).filings (l.log ++ [e]))
    (owns : l.Owns id) (hd : c.deliveries[id]? = some d) : d.body = body := by
  have m := Collector.move_of_step? he
  rw [filings_concat h.run he] at filed
  rcases List.mem_append.mp filed with hold | hnew
  · obtain ⟨x, hx, -, hw, -⟩ := (Collector.traced_run h.run).moved j id hold
    obtain ⟨d', hd', -, hbody, -⟩ := Collector.settled_move m hx hw
    obtain rfl : d = d' := Option.some.inj (hd.symm.trans hd')
    rw [hbody, h.whole j id x hold owns hx]
  · obtain ⟨rfl, x, d', hx, hd', hbody⟩ := Collector.body_of_filing m hnew
    obtain rfl : d = d' := Option.some.inj (hd.symm.trans hd')
    rw [admits, h.lookup_own owns, received_eq hx] at admitted
    rw [hbody]
    exact ByteArray.ext (of_decide_eq_true admitted)

/-- Whatever happens at the service, the line goes on to carry the result. -/
theorem happen (h : Carries root expected k body l) (e : Collector.Event) :
    Carries root expected k body (l.happen e) := by
  unfold Line.happen
  split
  · next c he =>
    split
    · next admitted =>
      refine ⟨run?_log h.run he, h.bodies, fun id owns => ?_, h.current,
        fun j id d filed owns hd => h.whole_step he admitted filed owns hd⟩
      obtain ⟨d, hd, hkey, hkind⟩ := h.deliveries id owns
      obtain ⟨d', hd', hkey', hkind'⟩ := Collector.kept_move (Collector.move_of_step? he) hd
      exact ⟨d', hd', hkey'.trans hkey, hkind'.trans hkind⟩
    · exact h
  · exact h

/-- So it does when a request with the result comes in. -/
theorem arrive (h : Carries root expected k body l) (named : ∀ j, o.key? = some j → j = k)
    (carried : o.body = body) (mark : String) : Carries root expected k body (l.arrive o mark) := by
  unfold Line.arrive
  split
  · exact h
  · next key hkey =>
    obtain rfl := named key hkey
    split
    · exact h
    · next c he =>
      have m := Collector.move_of_step? he
      obtain ⟨x, hx, hkey, hkind, -⟩ := Collector.openResult_move_deliveries m
      have hlast : c.deliveries[l.collector.deliveries.length]? = some x := by
        rw [hx, List.getElem?_concat_length]
      have owns_cases {id : Nat} (owns : ∃ b, (id, b) ∈
          l.own ++ [(l.collector.deliveries.length, o.body)]) :
          l.Owns id ∨ id = l.collector.deliveries.length := by
        obtain ⟨b, hb⟩ := owns
        rcases List.mem_append.mp hb with hold | hnew
        · exact .inl ⟨b, hold⟩
        · exact .inr (Prod.mk.inj (List.mem_singleton.mp hnew)).1
      refine ⟨run?_log h.run he, fun p hp => ?_, fun id owns => ?_, ?_, fun j id d filed owns hd => ?_⟩
      · rcases List.mem_append.mp hp with hold | hnew
        · exact h.bodies p hold
        · rw [List.mem_singleton.mp hnew]
          exact carried
      · obtain hold | rfl := owns_cases owns
        · obtain ⟨d, hd, hdkey, hdkind⟩ := h.deliveries id hold
          obtain ⟨d', hd', hkey', hkind'⟩ := Collector.kept_move m hd
          exact ⟨d', hd', hkey'.trans hdkey, hkind'.trans hdkind⟩
        · exact ⟨x, hlast, hkey, hkind⟩
      · rintro id ⟨⟩
        exact ⟨o.body, List.mem_append_right _ List.mem_cons_self⟩
      · obtain hold | rfl := owns_cases owns
        · exact h.whole_step he rfl filed hold hd
        · -- What has just been opened has not been moved.
          rw [filings_concat h.run he, List.mem_append] at filed
          obtain ⟨y, hy, -⟩ := (Collector.traced_run h.run).moved j _ (filed.resolve_right nofun)
          rw [List.getElem?_eq_none (Nat.le_refl _)] at hy
          cases hy

/-- Until a request with the result is answered the line goes on to carry it. -/
private theorem follow (h : Carries root expected k body l) (named : ∀ j, o.key? = some j → j = k)
    (carried : o.body = body) (happenings : List Happening) :
    Carries root expected k body (happenings.foldl (Line.follow o) l) := by
  induction happenings generalizing l with
  | nil => exact h
  | cons x xs ih =>
    refine ih ?_
    cases x with
    | arrival mark => exact h.arrive named carried mark
    | event e => exact h.happen e

/-- And it does so afterwards. -/
theorem goOn (h : Carries root expected k body l) (events : List Collector.Event) :
    Carries root expected k body (l.goOn events) := by
  induction events generalizing l with
  | nil => exact h
  | cons e es ih => exact ih (h.happen e)

/-- A request with the result is answered on such a line, if at all, with the status that belongs to the
outcome of a delivery which was opened for it. -/
theorem peer (h : Carries root expected k body l) (named : ∀ j, o.key? = some j → j = k)
    (carried : o.body = body) :
    Carries root expected k body (Line.peer o l).2 ∧
      ∀ answer, Net.Answer.ofOctets? (Line.peer o l).1 = some answer →
        ∃ id outcome, (Line.peer o l).2.Owns id ∧
          (Line.peer o l).2.collector.outcome? id = some outcome ∧
            answer.head.status = (Service.answer outcome).status := by
  unfold Line.peer
  split
  · exact ⟨h, nofun⟩
  · next t turns _ =>
    have waiting : Carries root expected k body { l with current := none, turns } :=
      ⟨h.run, h.bodies, h.deliveries, nofun, h.whole⟩
    have after := waiting.follow named carried t.happenings
    dsimp only
    generalize t.happenings.foldl (Line.follow o) { l with current := none, turns } = l' at after
    refine ⟨after, fun answer hanswer => ?_⟩
    unfold Line.answer at hanswer
    split at hanswer
    · next outcome houtcome =>
      obtain ⟨id, hid, hresult⟩ := Option.bind_eq_some_iff.mp houtcome
      exact ⟨id, outcome, after.current id hid, hresult,
        Net.status_of_answerOctets (Service.status_answer_mem outcome) hanswer⟩
    · cases hanswer

end Carries

end Line

end ClusterSurvey
