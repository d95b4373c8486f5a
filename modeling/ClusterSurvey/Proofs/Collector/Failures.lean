import ClusterSurvey.Proofs.Collector.Deliveries
import ClusterSurvey.Proofs.Collector.Opening
import ClusterSurvey.Proofs.Collector.Precedence
import ClusterSurvey.Proofs.Result.Failure

/-!
# What is filed for a failure

The body of a failure comes whole when it is opened, and a failure of a pending key holds the ledger from
then on.  So when it is answered well it has been recorded, its key has failed for good, and its record has
been moved to the place of the key.  There it lies until something else is moved there, which a delivery that
was opened before may do even while the failure waits for its record.
-/

namespace ClusterSurvey

open LocalResult (failure Tells)

namespace Collector

variable {root : String} {expected : List ResultKey} {records : List (ResultKey × Bool)}
variable {filed : List (ResultKey × Nat)} {c c' : Collector} {e : Event} {events : List Event}
variable {key : ResultKey} {body : ByteArray} {mark : String} {id : Nat} {p : Place}

/-! ### The answer to a failure -/

/-- A failure that is recorded makes its key a failed one. -/
theorem Orderly.failed_of_counted (h : Orderly expected records c) {d : Delivery}
    (at_id : c.deliveries[id]? = some d) (committed : d.isCommitted = true) (kind : d.isFailure = true)
    (he : c.step? (.record id) = some c') : c'.ledger.status.get? d.key = some .failed := by
  have openly := isOpen_of_isCommitted committed
  have pending := (h.held id d at_id openly kind).2
  have after := orderly_move h (move_of_step? he)
  rw [recordOf_record at_id, kind] at after
  rw [after.get?_status, if_pos (h.owed id d at_id openly), Ledger.lookup_concat, pending]
  simp [Status.ofRecord]

/-- A failure that has been opened with this body: it keeps the body, and if it has been answered well, its
key has failed. -/
def Stands (key : ResultKey) (body : ByteArray) (mark : String) (id : Nat) (c : Collector) : Prop :=
  ∃ stage, c.deliveries[id]? = some ⟨key, true, body, mark, stage⟩ ∧
    (stage = .ended (.ok ()) → c.ledger.status.get? key = some .failed)

/-- Whatever happens leaves it so. -/
theorem Stands.step (h : Stands key body mark id c) (ordered : Orderly expected records c)
    (he : c.step? e = some c') : Stands key body mark id c' := by
  obtain ⟨stage, hd, hstage⟩ := h
  have lasting (same : c'.deliveries[id]? = some ⟨key, true, body, mark, stage⟩) :
      Stands key body mark id c' := by
    have hrun : c.run? [e] = some c' := by rw [run?, Machine.run?, he]; rfl
    exact ⟨stage, same, fun ended => (ordered.persists hrun).status key _ (hstage ended) (by decide)⟩
  have elsewhere {i : Nat} {x : Delivery} (y : Delivery) (at_i : c.deliveries[i]? = some x)
      (remote : x.isFailure = false) :
      (c.deliveries.set i y)[id]? = some ⟨key, true, body, mark, stage⟩ := by
    obtain ⟨-, hsame⟩ | ⟨-, rfl, -⟩ := getElem?_set_of_some y hd at_i
    · exact hsame
    · cases remote
  have m := move_of_step? he
  cases m with
  | answered outcome tree files => exact lasting (getElem?_append_left_of_some hd)
  | begun tree valid wanted free unused files => exact lasting (getElem?_append_left_of_some hd)
  | wrote x tree at_i writing remote files => exact lasting (elsewhere _ at_i remote)
  | gaveUp i x stage' at_i writing closed silent =>
    obtain ⟨-, hsame⟩ | ⟨rfl, rfl, hset⟩ := getElem?_set_of_some { x with stage := stage' } hd at_i
    · exact lasting hsame
    · refine ⟨stage', hset, fun ended => ?_⟩
      rcases closed with ⟨rfl, -⟩ | ⟨err, rfl⟩ <;> cases ended
  | committed x tree at_i writing moved =>
    obtain ⟨-, hsame⟩ | ⟨rfl, rfl, hset⟩ := getElem?_set_of_some { x with stage := .committed } hd at_i
    · exact lasting hsame
    · exact ⟨.committed, hset, fun ended => by cases ended⟩
  | abandoned x at_i committed remote => exact lasting (elsewhere _ at_i remote)
  | repeated x at_i committed free remote received => exact lasting (elsewhere _ at_i remote)
  | counted x at_i committed free first =>
    obtain ⟨-, hsame⟩ | ⟨rfl, rfl, hset⟩ :=
      getElem?_set_of_some { x with stage := .ended (.ok ()) } hd at_i
    · exact lasting hsame
    · exact ⟨_, hset, fun _ => ordered.failed_of_counted at_i committed rfl he⟩
  | waited waits change => exact lasting hd
  | disturbed tree => exact lasting hd

/-- So it is at the end of a run. -/
theorem Stands.run (h : Stands key body mark id c) (ordered : Orderly expected records c)
    {later : List Event} (hl : c.run? later = some c') : Stands key body mark id c' := by
  refine Machine.run?_induction (P := fun _ c' => Stands key body mark id c') h ?_ hl
  intro es s e s' hs ih he
  obtain ⟨more, ordered'⟩ := ordered.run hs
  exact ih.step ordered' he

/-- A failure of a pending key that can be opened is written to its scratch file, unless there is no room
for it. -/
theorem step?_openFailure (valid : key.isValid = true) (pending : c.ledger.receipt? key = some .pending)
    (he : c.step? (.openResult key true body mark) = some c') :
    (c'.deliveries = c.deliveries ++ [⟨key, true, body, mark, .writing⟩] ∧
        c'.holder = some c.deliveries.length ∧
        c'.tree.content? (key.scratchPlace mark) = some body ∧
        (c.tree.hasRoomFor key = true ↔ c'.tree.isDirectory key.place = false)) ∨
      c.tree.hasRoomFor key = false ∧
        ∃ err, c'.deliveries = c.deliveries ++ [⟨key, true, body, mark, .ended (.error err)⟩] := by
  simp only [step?] at he
  split at he
  · next may =>
    have ho := opens body may
    generalize c.openResult key true body mark = c'' at he ho
    obtain rfl := Option.some.inj he
    cases ho with
    | answered outcome unwanted => exact absurd ⟨valid, by simp [wants, pending]⟩ unwanted
    | begun valid wanted free short unused begins =>
      cases begins with
      | hindered cause tree full made => exact .inr ⟨full, _, rfl⟩
      | underWay tree made room =>
        have apart := ResultKey.place_ne_scratchPlace valid key mark
        have hplace : tree.get? key.place = c.tree.get? key.place :=
          (Tree.Grows.of_makeDirectories made).get?_place key
        refine .inl ⟨rfl, rfl, Tree.content?_set_self _ _ _, room.trans ?_⟩
        dsimp only
        rw [Tree.isDirectory, Tree.isDirectory, Tree.get?_set_of_ne tree _ apart, hplace]
  · cases he

/-- Once it has been opened it stands. -/
theorem stands_of_opened (valid : key.isValid = true) (pending : c.ledger.receipt? key = some .pending)
    (he : c.step? (.openResult key true body mark) = some c') :
    Stands key body mark c.deliveries.length c' := by
  rcases step?_openFailure valid pending he with ⟨added, -⟩ | ⟨-, err, added⟩
  · exact ⟨.writing, by rw [added, List.getElem?_concat_length], fun ended => by cases ended⟩
  · exact ⟨.ended (.error err), by rw [added, List.getElem?_concat_length], fun ended => by cases ended⟩

/-! ### What lies at a place -/

/-- The delivery that was moved last to a place. -/
def lastMoved? (filed : List (ResultKey × Nat)) (p : Place) : Option Nat :=
  (filed.reverse.find? fun f => f.1.place = p).map (·.2)

/-- What lies at a place is the body of the delivery that was moved there last. -/
def HoldsLast (p : Place) (filed : List (ResultKey × Nat)) (c : Collector) : Prop :=
  ∀ id, lastMoved? filed p = some id →
    ∃ d, c.deliveries[id]? = some d ∧ d.isWriting = false ∧ c.tree.content? p = some d.body

/-- Whether an event leaves a place and the scratch files to the collector. -/
def Leaves (p : Place) (c : Collector) : Event → Prop
  | .disturb tree =>
    tree.content? p = c.tree.content? p ∧
      ∀ (k : ResultKey) (mark : String),
        tree.content? (k.scratchPlace mark) = c.tree.content? (k.scratchPlace mark)
  | _ => True

theorem Leaves.spares (h : Leaves p c e) : Spares [] c e := by
  cases e with
  | disturb tree => exact ⟨fun k hk => (List.not_mem_nil hk).elim, h.2⟩
  | _ => trivial

/-- Every event leaves the body of the delivery that was moved last at its place. -/
theorem HoldsLast.step (h : HoldsLast p filed c) (scratched : Scratched c)
    (own : ∀ (j : ResultKey) (mark : String), p ≠ j.scratchPlace mark) (leaves : Leaves p c e)
    (he : c.step? e = some c') : HoldsLast p (filed ++ c.filingOf e) c' := by
  have m := move_of_step? he
  intro id hid
  by_cases hfile : ∃ j i, (j, i) ∈ c.filingOf e ∧ j.place = p
  · obtain ⟨j, i, hmem, rfl⟩ := hfile
    obtain ⟨hone, d, hd, -, hw, hb⟩ := filing_move scratched m hmem
    rw [hone, lastMoved?, List.reverse_concat, List.find?_cons_of_pos (by simp)] at hid
    obtain rfl := Option.some.inj hid
    exact ⟨d, hd, hw, hb⟩
  · have unmoved : ∀ f ∈ (c.filingOf e).reverse, ¬ decide (f.1.place = p) = true := by
      intro f hf hp
      exact hfile ⟨f.1, f.2, List.mem_reverse.mp hf, of_decide_eq_true hp⟩
    rw [lastMoved?, List.reverse_append, List.find?_append, List.find?_eq_none.mpr unmoved,
      Option.none_or] at hid
    obtain ⟨d, hd, hw, hb⟩ := h id hid
    obtain ⟨d', hd', -, hbody, hw'⟩ := settled_move m hd hw
    have same : c'.tree.content? p = c.tree.content? p := by
      by_cases hcalm : ∃ tree, e = .disturb tree
      · obtain ⟨tree, rfl⟩ := hcalm
        cases he
        exact leaves.1
      · exact content?_move m (fun tree he => hcalm ⟨tree, he⟩) own
          fun j i hj hp => hfile ⟨j, i, hj, hp.symm⟩
    exact ⟨d', hd', hw', by rw [same, hb, hbody]⟩

/-- So it is at every state of a run. -/
theorem holdsLast_run (h : (start root expected).run? events = some c)
    (own : ∀ (j : ResultKey) (mark : String), p ≠ j.scratchPlace mark)
    (leaves : Machine.Along step? (Leaves p) (start root expected) events) :
    HoldsLast p ((start root expected).filings events) c := by
  revert leaves
  refine Machine.run?_induction
    (P := fun es c => Machine.Along step? (Leaves p) (start root expected) es →
      HoldsLast p ((start root expected).filings es) c) (fun _ id hid => by cases hid) ?_ h
  intro es s e s' hs ih he leaves
  obtain ⟨hbefore, hnow⟩ := (Machine.along_concat hs).mp leaves
  rw [filings, Machine.history_concat filingOf hs he]
  exact (ih hbefore).step (scratched_run hs (hbefore.imp fun _ _ => Leaves.spares)) own hnow he

/-! ### Failures taken as a whole -/

/-- Nothing is filed or recorded for a delivery that is not on its way. -/
private theorem step_of_not_isOpen (h : ∀ d, c.deliveries[id]? = some d → d.isOpen = false)
    (he : e = .commit id ∨ e = .record id) : c.step e = c := by
  cases hd : c.deliveries[id]? with
  | none => rcases he with rfl | rfl <;> simp [Collector.step, step?, hd]
  | some d =>
    have hopen := h d hd
    rw [Delivery.isOpen, Bool.or_eq_false_iff] at hopen
    rcases he with rfl | rfl <;> simp [Collector.step, step?, hd, hopen]

private theorem finish_of_not_isOpen (h : ∀ d, c.deliveries[id]? = some d → d.isOpen = false) :
    c.finish id = c := by
  rw [finish, step_of_not_isOpen h (.inl rfl), step_of_not_isOpen h (.inr rfl)]

/-- A failure that is written to its scratch file is filed and recorded, unless a directory lies at its
place. -/
private theorem finish_failure
    (at_id : c.deliveries[id]? = some ⟨key, true, body, mark, .writing⟩)
    (holds : c.tree.content? (key.scratchPlace mark) = some body) (held : c.holder = some id) :
    (c.tree.isDirectory key.place = false ∧
        c.run? [.commit id, .record id] = some (c.finish id) ∧
        (c.finish id).outcome? id = some (.ok ()) ∧
        (c.finish id).tree.content? key.place = some body) ∨
      (c.tree.isDirectory key.place = true ∧ ∃ err, (c.finish id).outcome? id = some (.error err)) := by
  have hcommit : c.step? (.commit id) = some (c.commit id ⟨key, true, body, mark, .writing⟩) := by
    rw [step?, at_id]
    rfl
  have hrename : c.tree.rename (key.scratchPlace mark) key.place =
      if c.tree.isDirectory key.place then .error .isDirectory
      else .ok ((c.tree.erase (key.scratchPlace mark)).set key.place (.file body)) := by
    simp only [Tree.rename, holds]
  cases hdirectory : c.tree.isDirectory key.place with
  | true =>
    rw [hdirectory, if_pos rfl] at hrename
    have hgave : (c.commit id ⟨key, true, body, mark, .writing⟩).deliveries[id]? = some
        ⟨key, true, body, mark, .ended (.error (c.persistence key (.fault .isDirectory)))⟩ := by
      unfold commit
      rw [Delivery.scratch, hrename]
      dsimp only
      rw [giveUp_eq]
      exact getElem?_set_self_of_some at_id
    have hclosed : ∀ d, (c.commit id ⟨key, true, body, mark, .writing⟩).deliveries[id]? = some d →
        d.isOpen = false := by
      intro d hd
      obtain rfl := Option.some.inj (hgave.symm.trans hd)
      rfl
    refine .inr ⟨rfl, c.persistence key (.fault .isDirectory), ?_⟩
    rw [finish, step_eq hcommit, step_of_not_isOpen hclosed (.inr rfl), outcome?, hgave]
    rfl
  | false =>
    rw [hdirectory, if_neg Bool.false_ne_true] at hrename
    refine .inl ⟨rfl, ?_⟩
    have hmoved : c.commit id ⟨key, true, body, mark, .writing⟩ =
        { c.setDelivery id ⟨key, true, body, mark, .committed⟩ with
          tree := (c.tree.erase (key.scratchPlace mark)).set key.place (.file body) } := by
      unfold commit
      rw [Delivery.scratch, hrename]
    generalize c.commit id ⟨key, true, body, mark, .writing⟩ = c₁ at hcommit hmoved
    have hd : c₁.deliveries[id]? = some ⟨key, true, body, mark, .committed⟩ := by
      rw [hmoved]
      exact getElem?_set_self_of_some at_id
    have held : c₁.holder = some id := by
      rw [hmoved]
      exact held
    have hrecord : c₁.step? (.record id) = some (c₁.record id ⟨key, true, body, mark, .committed⟩) := by
      simp [step?, hd, Delivery.isCommitted, held]
    have hfinish : c.finish id = c₁.record id ⟨key, true, body, mark, .committed⟩ := by
      rw [finish, step_eq hcommit, step_eq hrecord]
    rw [hfinish]
    refine ⟨?_, ?_, ?_⟩
    · simp [run?, Machine.run?, hcommit, hrecord]
    · rw [outcome?, deliveries_record, getElem?_set_self_of_some hd]
      rfl
    · rw [tree_record, hmoved]
      exact Tree.content?_set_self _ _ _

/-- What a failure of a pending key that is taken as a whole makes of a collector. -/
inductive Ingested (c : Collector) (key : ResultKey) (body : ByteArray) : Collector → Prop where
  /-- It is filed and recorded. -/
  | filed {c' : Collector} (room : c.tree.hasRoomFor key = true)
      (run : c.run? [.openResult key true body c.nextMark, .commit c.deliveries.length,
        .record c.deliveries.length] = some c')
      (answered : c'.outcome? c.deliveries.length = some (.ok ()))
      (holds : c'.tree.content? key.place = some body) : Ingested c key body c'
  /-- There is no room for it. -/
  | hindered {c' : Collector} (full : c.tree.hasRoomFor key = false) (err : CollectError)
      (answered : c'.outcome? c.deliveries.length = some (.error err)) : Ingested c key body c'
  /-- It cannot be opened. -/
  | blocked (blocked : c.mayOpen key true c.nextMark = false) : Ingested c key body c

/-- Every failure of a pending key is filed and recorded, or there is no room for it, or it cannot be
opened. -/
theorem ingested (valid : key.isValid = true) (pending : c.ledger.receipt? key = some .pending)
    (reason : String) (unit : Option String) :
    Ingested c key (failure key reason unit).body (c.ingest (failure key reason unit)) := by
  have hingest : c.ingest (failure key reason unit) =
      (c.step (.openResult key true (failure key reason unit).body c.nextMark)).finish
        c.deliveries.length := rfl
  generalize (failure key reason unit).body = body at hingest ⊢
  rw [hingest]
  cases hopen : c.step? (.openResult key true body c.nextMark) with
  | none =>
    rw [step_eq_self hopen, finish_of_not_isOpen (by simp)]
    refine .blocked ?_
    simpa [step?] using hopen
  | some c₁ =>
    rw [step_eq hopen]
    rcases step?_openFailure valid pending hopen with ⟨added, held, holds, room⟩ | ⟨full, err, added⟩
    · have at_id : c₁.deliveries[c.deliveries.length]? =
          some ⟨key, true, body, c.nextMark, .writing⟩ := by
        rw [added, List.getElem?_concat_length]
      rcases finish_failure at_id holds held with
        ⟨plain, run, answered, lies⟩ | ⟨directory, err, answered⟩
      · refine .filed (room.mpr plain) ?_ answered lies
        rw [run?, Machine.run?, hopen]
        exact run
      · refine .hindered ?_ err answered
        rw [← Bool.not_eq_true, room, directory]
        decide
    · have at_id : c₁.deliveries[c.deliveries.length]? =
          some ⟨key, true, body, c.nextMark, .ended (.error err)⟩ := by
        rw [added, List.getElem?_concat_length]
      have hclosed : ∀ d, c₁.deliveries[c.deliveries.length]? = some d → d.isOpen = false := by
        intro d hd
        obtain rfl := Option.some.inj (at_id.symm.trans hd)
        rfl
      refine .hindered full err ?_
      rw [finish_of_not_isOpen hclosed, outcome?, at_id]
      rfl

/-! ### The record of a failure -/

/-- Whether the record of a failure lies at the place of its key. -/
def HoldsRecord (c : Collector) (key : ResultKey) (reason : String) (unit : Option String) : Prop :=
  ∃ body, c.tree.content? key.place = some body ∧ Tells body reason unit

/-- The body of a failure tells of its reason and of its unit, and nothing else.  At every state of a run a
failure of a valid and pending key that can be opened is answered well exactly if there is room for it; then
its record lies at the place of the key, and the key has failed.  Where other deliveries and failures take
their steps in between and afterwards, the key has failed just so, and the record lies there as long as
nothing else is moved there after it. -/
theorem failure_filed (key : ResultKey) (reason : String) (unit : Option String) :
    Tells (failure key reason unit).body reason unit ∧
    ∀ events c, (start root expected).run? events = some c → key.isValid = true →
      c.ledger.receipt? key = some .pending →
      (c.mayOpen key true c.nextMark = true →
        ((c.ingest (failure key reason unit)).outcome? c.deliveries.length = some (.ok ()) ↔
          c.tree.hasRoomFor key = true)) ∧
      ((c.ingest (failure key reason unit)).outcome? c.deliveries.length = some (.ok ()) →
        (c.ingest (failure key reason unit)).HoldsRecord key reason unit ∧
          (c.ingest (failure key reason unit)).ledger.status.get? key = some .failed) ∧
      ∀ mark later whole c',
        whole = events ++ .openResult key true (failure key reason unit).body mark :: later →
        (start root expected).run? whole = some c' →
        c'.outcome? c.deliveries.length = some (.ok ()) →
        c'.ledger.status.get? key = some .failed ∧
          (Machine.Along step? (Leaves key.place) (start root expected) whole →
            lastMoved? ((start root expected).filings whole) key.place = some c.deliveries.length →
            c'.HoldsRecord key reason unit) := by
  have tells := LocalResult.tells_failure key reason unit
  refine ⟨tells, fun events c h valid pending => ?_⟩
  have ordered := orderly_run h
  have hingested := ingested valid pending reason unit
  generalize (failure key reason unit).body = body at tells hingested ⊢
  generalize c.ingest (failure key reason unit) = c' at hingested ⊢
  -- A failure that has been opened stands however the run goes on.
  have stands {mark : String} {later : List Event} {c' : Collector}
      (hl : c.run? (.openResult key true body mark :: later) = some c') :
      Stands key body mark c.deliveries.length c' := by
    obtain ⟨c₁, hopen, hlater⟩ := Option.bind_eq_some_iff.mp hl
    exact (stands_of_opened valid pending hopen).run (orderly_move ordered (move_of_step? hopen)) hlater
  have failed {mark : String} {c' : Collector} (h : Stands key body mark c.deliveries.length c')
      (answered : c'.outcome? c.deliveries.length = some (.ok ())) :
      c'.ledger.status.get? key = some .failed := by
    obtain ⟨stage, hd, hstage⟩ := h
    rw [outcome?, hd, Option.bind_some] at answered
    cases stage with
    | ended outcome => exact hstage (congrArg Stage.ended (Option.some.inj answered))
    | _ => cases answered
  refine ⟨fun may => ?_, fun answered => ?_, fun mark later whole c' hwhole hrun answered => ?_⟩
  · cases hingested with
    | filed room run answered holds => exact iff_of_true answered room
    | hindered full err answered =>
      rw [answered, full]
      simp
    | blocked blocked =>
      rw [may] at blocked
      cases blocked
  · cases hingested with
    | filed room run answered' holds => exact ⟨⟨body, holds, tells⟩, failed (stands run) answered⟩
    | hindered full err answered' =>
      rw [answered'] at answered
      cases answered
    | blocked blocked =>
      rw [outcome?, List.getElem?_eq_none (Nat.le_refl _)] at answered
      cases answered
  · have hlater : c.run? (.openResult key true body mark :: later) = some c' := by
      rw [hwhole, run?, Machine.run?_append] at hrun
      obtain ⟨c₁, h₁, hlater⟩ := Option.bind_eq_some_iff.mp hrun
      obtain rfl : c = c₁ := Option.some.inj (h.symm.trans h₁)
      exact hlater
    refine ⟨failed (stands hlater) answered, fun leaves last => ?_⟩
    obtain ⟨stage, hd, -⟩ := stands hlater
    obtain ⟨d, hd', -, hb⟩ := holdsLast_run hrun (ResultKey.place_ne_scratchPlace valid) leaves _ last
    obtain rfl := Option.some.inj (hd.symm.trans hd')
    exact ⟨body, hb, tells⟩

/-- A reason as the cluster may word it, with quotation marks, a backslash, a line break and a control
character in it. -/
def awkwardReason : String := "pull \"C:\\registry\" failed:\n\u0007"

/-- A delivery is on its way when the failure of its key is opened; it is moved into place first and recorded
last. -/
def overtaken : List Event :=
  [.openResult ⟨"a", "t"⟩ false ⟨#[1]⟩ "000000"] ++
    .openResult ⟨"a", "t"⟩ true (failure ⟨"a", "t"⟩ awkwardReason (some "pod-é")).body "000001" ::
      [.commit 0, .commit 1, .record 1, .record 0]

/-- The failure is filed as a whole, and with the delivery on its way as well. -/
theorem failure_filed_overtaken :
    ((start "out" [⟨"a", "t"⟩]).ingest (failure ⟨"a", "t"⟩ awkwardReason none)).HoldsRecord ⟨"a", "t"⟩
        awkwardReason none ∧
      ∃ c, (start "out" [⟨"a", "t"⟩]).run? overtaken = some c ∧
        c.ledger.status.get? ⟨"a", "t"⟩ = some .failed ∧
        c.HoldsRecord ⟨"a", "t"⟩ awkwardReason (some "pod-é") := by
  have hsome : ((start "out" [⟨"a", "t"⟩]).run? overtaken).isSome = true := rfl
  have leaves : Machine.Along step? (Leaves ["a", "t"]) (start "out" [⟨"a", "t"⟩]) overtaken := by
    refine Machine.along_of_forall fun e he s => ?_
    simp only [overtaken, List.cons_append, List.nil_append, List.mem_cons, List.not_mem_nil, or_false] at he
    rcases he with rfl | rfl | rfl | rfl | rfl | rfl <;> trivial
  obtain ⟨-, alone⟩ := @failure_filed "out" [⟨"a", "t"⟩] ⟨"a", "t"⟩ awkwardReason none
  obtain ⟨-, between⟩ := @failure_filed "out" [⟨"a", "t"⟩] ⟨"a", "t"⟩ awkwardReason (some "pod-é")
  obtain ⟨answer, filed, -⟩ := alone [] _ rfl rfl rfl
  obtain ⟨-, -, goesOn⟩ := between [.openResult ⟨"a", "t"⟩ false ⟨#[1]⟩ "000000"] _ rfl rfl rfl
  obtain ⟨failed, holds⟩ := goesOn "000001" _ _ _ rfl (Option.some_get hsome).symm rfl
  exact ⟨(filed ((answer rfl).mpr rfl)).1, _, (Option.some_get hsome).symm, failed, holds leaves rfl⟩

end Collector

end ClusterSurvey
