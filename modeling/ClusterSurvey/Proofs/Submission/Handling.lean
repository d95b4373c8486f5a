import ClusterSurvey.Proofs.Service.Session
import ClusterSurvey.Proofs.Submission.Line

/-!
# A line on which nothing interferes

What the service does when it handles a request is among the things that can happen on a line: the
request comes in, its body comes piece by piece and may break off, and it is filed and recorded if it does
not.  A request of which this becomes is answered as the service answers it (`peer_handling`, the result of
this module): a line is the service itself as long as nothing interferes.
-/

namespace ClusterSurvey

namespace Line

variable {l : Line} {o : Outgoing} {k : ResultKey} {body : ByteArray} {id : Nat}

/-- What happens at a service that handles a request without a break. -/
def handling (c : Collector) (pieces : List ByteArray) (broken : Option String) : List Happening :=
  let id := c.deliveries.length
  .arrival c.nextMark :: pieces.map (fun data => .event (.write id data)) ++
    match broken with
    | some text => [.event (.breakOff id text)]
    | none => [.event (.commit id), .event (.record id)]

/-- A line on which a delivery is under way for a request that waits for its answer: what has come of its
body, what is to come and what will be missing are together what was sent. -/
structure Awaits (l : Line) (id : Nat) (body : ByteArray) (pieces : List ByteArray)
    (missing : ByteArray) : Prop where
  current : l.current = some id
  sent : l.own.lookup id = some body
  parts : ∀ d, l.collector.deliveries[id]? = some d → d.isWriting = true →
    d.isFailure = false ∧ body = pieces.foldl (· ++ ·) d.body ++ missing

/-- An event that is in keeping with what was sent happens if it can. -/
private theorem happen_of_admits {e : Collector.Event}
    (admitted : ∀ c, l.collector.step? e = some c → l.admits e = true) :
    (l.happen e).collector = l.collector.step e ∧ (l.happen e).own = l.own ∧
      (l.happen e).current = l.current := by
  unfold happen Collector.step
  cases he : l.collector.step? e with
  | none => exact ⟨rfl, rfl, rfl⟩
  | some c =>
    dsimp only
    rw [if_pos (admitted c he)]
    exact ⟨rfl, rfl, rfl⟩

private theorem foldl_append (b : ByteArray) (pieces : List ByteArray) :
    pieces.foldl (· ++ ·) b = b ++ Collector.joined pieces := by
  induction pieces using List.reverseRecOn with
  | nil => simp [Collector.joined]
  | append_singleton ps p ih =>
    rw [List.foldl_append, ih, Collector.joined_concat, ← ByteArray.append_assoc]
    rfl

/-- Where a delivery is being written, the next piece of its body is added to it. -/
private theorem step_write {c : Collector} {d : Delivery} {data : ByteArray}
    (hd : (c.step (.write id data)).deliveries[id]? = some d) (writing : d.isWriting = true)
    (remote : ∀ x, c.deliveries[id]? = some x → x.isWriting = true → x.isFailure = false) :
    ∃ x, c.deliveries[id]? = some x ∧ x.isWriting = true ∧ d = { x with body := x.body ++ data } := by
  unfold Collector.step at hd
  simp only [Collector.step?] at hd
  cases hx : c.deliveries[id]? with
  | none =>
    rw [hx] at hd
    dsimp only [Option.getD_none] at hd
    rw [hx] at hd
    cases hd
  | some x =>
    rw [hx] at hd
    dsimp only at hd
    split at hd
    · next hw =>
      rw [Option.getD_some, Collector.deliveries_write, Collector.getElem?_set_self_of_some hx] at hd
      exact ⟨x, rfl, hw.1, (Option.some.inj hd).symm⟩
    · next hw =>
      rw [Option.getD_none, hx] at hd
      obtain rfl := Option.some.inj hd
      exact absurd ⟨writing, by rw [remote x hx writing]; rfl⟩ hw

namespace Awaits

variable {data missing : ByteArray} {pieces : List ByteArray}

/-- What has come of a body that is being written is a part of what was sent, and so is the next piece. -/
private theorem admits_write (h : l.Awaits id body (data :: pieces) missing) {c : Collector}
    (hc : l.collector.step? (.write id data) = some c) : l.admits (.write id data) = true := by
  cases Collector.does_of_step? hc with
  | acted i d hd acts =>
    cases acts with
    | write data writing remote =>
      obtain ⟨-, hbody⟩ := h.parts d hd writing
      rw [List.foldl_cons, foldl_append, ByteArray.append_assoc] at hbody
      rw [admits, h.sent, received_eq hd, hbody, Option.all_some, decide_eq_true_iff]
      exact congrArg ByteArray.data (ByteArray.extract_append_eq_left rfl).symm
  | other same unsubjected => cases unsubjected

/-- The pieces of a body come one after the other. -/
private theorem writes (h : l.Awaits id body pieces missing) :
    ((pieces.map fun data => Happening.event (.write id data)).foldl (follow o) l).collector =
        pieces.foldl (fun c data => c.step (.write id data)) l.collector ∧
      ((pieces.map fun data => Happening.event (.write id data)).foldl (follow o) l).Awaits id body []
        missing := by
  induction pieces generalizing l with
  | nil => exact ⟨rfl, h⟩
  | cons data pieces ih =>
    obtain ⟨hcollector, hown, hcurrent⟩ := happen_of_admits fun c hc => h.admits_write hc
    have next : (l.happen (.write id data)).Awaits id body pieces missing := by
      refine ⟨hcurrent.trans h.current, hown ▸ h.sent, fun d hd writing => ?_⟩
      rw [hcollector] at hd
      obtain ⟨x, hx, hw, rfl⟩ := step_write hd writing fun x hx hw => (h.parts x hx hw).1
      exact h.parts x hx hw
    rw [List.map_cons, List.foldl_cons, List.foldl_cons, ← hcollector]
    exact ih next

/-- A body of which nothing is missing is filed and recorded. -/
private theorem finish (h : l.Awaits id body [] .empty) :
    ((l.happen (.commit id)).happen (.record id)).collector = l.collector.finish id ∧
      ((l.happen (.commit id)).happen (.record id)).current = some id := by
  have admitted (c : Collector) (hc : l.collector.step? (.commit id) = some c) :
      l.admits (.commit id) = true := by
    cases Collector.does_of_step? hc with
    | acted i d hd acts =>
      cases acts with
      | commit writing =>
        have hbody : body = d.body := (h.parts d hd writing).2.trans ByteArray.append_empty
        rw [admits, h.sent, received_eq hd, hbody, Option.all_some, decide_eq_true_iff]
    | other same unsubjected => cases unsubjected
  obtain ⟨hcommit, -, hcurrent⟩ := happen_of_admits admitted
  obtain ⟨hrecord, -, hcurrent'⟩ := (l.happen (.commit id)).happen_of_admits
    (e := .record id) fun _ _ => rfl
  rw [hrecord, hcurrent', hcommit, hcurrent]
  exact ⟨rfl, h.current⟩

end Awaits

/-- What a request finds that comes in on a line. -/
private theorem awaits_arrive {c : Collector} {mark : String} {pieces : List ByteArray}
    {missing : ByteArray} (posts : o.key? = some k)
    (opens : l.collector.step? (.openResult k false .empty mark) = some c)
    (fresh : ∀ i, l.Owns i → i < l.collector.deliveries.length)
    (sent : o.body = Collector.joined pieces ++ missing) :
    (l.arrive o mark).collector = c ∧
      (l.arrive o mark).Awaits l.collector.deliveries.length o.body pieces missing := by
  have harrive : l.arrive o mark =
      { l with
        collector := c
        log := l.log ++ [.openResult k false .empty mark]
        own := l.own ++ [(l.collector.deliveries.length, o.body)]
        current := some l.collector.deliveries.length } := by
    unfold arrive
    rw [posts]
    dsimp only
    rw [opens]
  have unsent : l.own.lookup l.collector.deliveries.length = none := by
    refine List.lookup_eq_none_iff.mpr fun p hp => bne_iff_ne.mpr fun heq => ?_
    exact Nat.lt_irrefl _ (heq ▸ fresh p.1 ⟨p.2, hp⟩)
  obtain ⟨stage, hopened⟩ := Collector.opened_move (Collector.move_of_step? opens)
  rw [harrive]
  refine ⟨rfl, rfl, ?_, fun d hd _ => ?_⟩
  · simp [List.lookup_append, unsent]
  · dsimp only at hd
    rw [hopened, List.getElem?_concat_length] at hd
    obtain rfl := Option.some.inj hd
    exact ⟨rfl, sent⟩

/-- What happens to a request that is handled is what makes a whole delivery of it. -/
private theorem foldl_handling {pieces : List ByteArray} {broken : Option String} {missing : ByteArray}
    (quiet : l.collector.Quiet) (fresh : ∀ i, l.Owns i → i < l.collector.deliveries.length)
    (posts : o.key? = some k) (sent : o.body = Collector.joined pieces ++ missing)
    (whole : broken = none → missing = .empty) :
    ((handling l.collector pieces broken).foldl (follow o) l).collector =
        l.collector.deliver k pieces broken ∧
      ((handling l.collector pieces broken).foldl (follow o) l).current =
        some l.collector.deliveries.length := by
  have opens : l.collector.step? (.openResult k false .empty l.collector.nextMark) =
      some (l.collector.step (.openResult k false .empty l.collector.nextMark)) := by
    rw [Collector.step, Collector.step?, if_pos (quiet.mayOpen k), Option.getD_some]
  obtain ⟨hopened, begun⟩ := awaits_arrive posts opens fresh sent
  obtain ⟨hwritten, written⟩ := begun.writes (o := o)
  rw [hopened] at hwritten
  have arrived : follow o l (.arrival l.collector.nextMark) = l.arrive o l.collector.nextMark := rfl
  unfold handling Collector.deliver
  dsimp only
  rw [List.cons_append, List.foldl_cons, List.foldl_append, arrived, ← hwritten]
  generalize (pieces.map fun data => Happening.event (.write l.collector.deliveries.length data)).foldl
    (follow o) (l.arrive o l.collector.nextMark) = l' at written
  cases broken with
  | some text =>
    obtain ⟨hbroken, -, hcurrent⟩ := l'.happen_of_admits
      (e := .breakOff l.collector.deliveries.length text) fun _ _ => rfl
    exact ⟨hbroken, hcurrent.trans written.current⟩
  | none =>
    obtain rfl := whole rfl
    exact written.finish

/-- A request that is handled at a service at which nothing else is on its way is answered on the line as
the service answers it. -/
theorem peer_handling {r : Service.Request} {missing : ByteArray} {turns : List Turn}
    {rest : ByteArray} {count : Nat} (quiet : l.collector.Quiet)
    (fresh : ∀ i, l.Owns i → i < l.collector.deliveries.length)
    (post : r.method = "POST") (posts : o.key? = some k) (taken : Service.keyAt? r.path = some k)
    (sent : o.body = Collector.joined r.pieces ++ missing) (whole : r.broken = none → missing = .empty)
    (turn : l.turns = ⟨handling l.collector r.pieces r.broken, rest, count⟩ :: turns) :
    (peer o l).2.collector = (Service.handle l.collector r).1 ∧
      (peer o l).1 =
        Net.answerOctets (Service.handle l.collector r).2.status rest count := by
  obtain ⟨d, outcome, added, answered⟩ := quiet.answered k r.pieces r.broken
  obtain ⟨hcollector, hcurrent⟩ := foldl_handling (l := { l with current := none, turns })
    quiet fresh posts sent whole
  rw [Service.handle_of_answered post taken added answered]
  unfold peer
  rw [turn]
  refine ⟨hcollector, ?_⟩
  have houtcome : (l.collector.deliver k r.pieces r.broken).outcome? l.collector.deliveries.length =
      some outcome := by
    rw [Collector.outcome?, added, List.getElem?_concat_length, Option.bind_some, answered]
  dsimp only
  rw [answer, hcurrent, Option.bind_some, hcollector, houtcome]

end Line

end ClusterSurvey
