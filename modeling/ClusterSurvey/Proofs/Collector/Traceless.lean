import ClusterSurvey.Proofs.Collector.LeftOut
import ClusterSurvey.Proofs.Collector.Whole

/-!
# Deliveries that come to nothing

A delivery may be refused for its key, fail at any point of the work on its file, or lose its sender before it
is moved into place.  Then everything is as it would be if it had never been sent, whatever else has gone on
meanwhile: what is counted and announced, what becomes of the other deliveries, and all files.  At most the
directories that were made for it are left, and they stand in nobody's way.
-/

namespace ClusterSurvey

namespace Collector

variable {root : String} {expected : List ResultKey} {records : List (ResultKey × Bool)}
variable {filed : List (ResultKey × Nat)} {c c' b b' : Collector} {e : Event} {events : List Event}
variable {id : Nat} {d : Delivery} {key : ResultKey} {pieces : List ByteArray} {mark : String}

/-- How a delivery comes to nothing when these have been moved into place: it is answered with an error,
or its sender goes away before it is moved. -/
inductive ComesToNothing (filed : List (ResultKey × Nat)) (id : Nat) (d : Delivery) : Prop where
  | refused (e : CollectError) (stage : d.stage = .ended (.error e))
  | left (stage : d.stage = .cancelled) (unfiled : (d.key, id) ∉ filed)

namespace ComesToNothing

/-- It is no more on its way. -/
theorem isOpen_eq_false (h : ComesToNothing filed id d) : d.isOpen = false := by
  cases h with
  | refused e stage | left stage _ =>
    rw [Delivery.isOpen, Delivery.isWriting, Delivery.isCommitted, stage]
    rfl

/-- Nor is its body written. -/
theorem isWriting_eq_false (h : ComesToNothing filed id d) : d.isWriting = false :=
  (Bool.or_eq_false_iff.mp h.isOpen_eq_false).1

end ComesToNothing

/-! ### Deliveries with an error are not moved into place -/

/-- A delivery whose body is no more written is not answered with an error any more. -/
private theorem unrefused_move (m : Move c e c') (at_id : c.deliveries[id]? = some d)
    (written : d.isWriting = false) (accepted : ∀ err, d.stage ≠ .ended (.error err)) {d' : Delivery}
    (after : c'.deliveries[id]? = some d') (err : CollectError) : d'.stage ≠ .ended (.error err) := by
  have appended {x : Delivery} (hx : (c.deliveries ++ [x])[id]? = some d') :
      d'.stage ≠ .ended (.error err) := by
    rw [getElem?_append_left_of_some at_id] at hx
    obtain rfl := Option.some.inj hx
    exact accepted err
  have changed {j : Nat} {x y : Delivery} (at_j : c.deliveries[j]? = some x)
      (hy : (c.deliveries.set j y)[id]? = some d')
      (stage : x.isWriting = true ∨ y.stage ≠ .ended (.error err)) :
      d'.stage ≠ .ended (.error err) := by
    obtain ⟨-, hsame⟩ | ⟨-, rfl, hset⟩ := getElem?_set_of_some y at_id at_j
    · obtain rfl := Option.some.inj (hsame.symm.trans hy)
      exact accepted err
    · obtain rfl := Option.some.inj (hset.symm.trans hy)
      refine stage.resolve_left ?_
      rw [written]
      decide
  cases m with
  | answered outcome tree files => exact appended after
  | begun tree valid wanted free unused files => exact appended after
  | wrote x tree at_j writing remote files => exact changed at_j after (.inl writing)
  | gaveUp j x stage at_j writing closed silent => exact changed at_j after (.inl writing)
  | committed x tree at_j writing moved => exact changed at_j after (.inl writing)
  | abandoned x at_j committed remote => exact changed at_j after (.inr (by simp))
  | repeated x at_j committed free remote received => exact changed at_j after (.inr (by simp))
  | counted x at_j committed free first => exact changed at_j after (.inr (by simp))
  | waited waits change =>
    obtain rfl := Option.some.inj (at_id.symm.trans after)
    exact accepted err
  | disturbed tree =>
    obtain rfl := Option.some.inj (at_id.symm.trans after)
    exact accepted err

/-- What has been moved into place is never answered with an error. -/
theorem stage_of_filings (h : (start root expected).run? events = some c)
    (filed : (key, id) ∈ (start root expected).filings events) (at_id : c.deliveries[id]? = some d)
    (err : CollectError) : d.stage ≠ .ended (.error err) := by
  suffices ∀ k i, (k, i) ∈ (start root expected).filings events →
      ∀ d, c.deliveries[i]? = some d → ∀ err, d.stage ≠ .ended (.error err) from
    this key id filed d at_id err
  refine Machine.run?_induction
    (P := fun es c => ∀ k i, (k, i) ∈ (start root expected).filings es →
      ∀ d, c.deliveries[i]? = some d → ∀ err, d.stage ≠ .ended (.error err)) ?_ ?_ h
  · intro k i hk
    cases hk
  intro es s e s' hs ih he k i hk d' hd'
  rw [filings, Machine.history_concat filingOf hs he] at hk
  have m := move_of_step? he
  rcases List.mem_append.mp hk with hbefore | hnow
  · obtain ⟨d, hd, -, written, -⟩ := (traced_run hs).moved k i hbefore
    exact unrefused_move m hd written (ih k i hbefore d hd) hd'
  · obtain ⟨-, d, tree, at_i, -, -, -, rfl⟩ := filing_inv m hnow
    obtain rfl := Option.some.inj ((getElem?_set_self_of_some at_i).symm.trans hd')
    intro err hended
    cases hended

/-- A delivery that has come to nothing was never moved into place. -/
theorem ComesToNothing.unfiled (h : (start root expected).run? events = some c)
    (at_id : c.deliveries[id]? = some d)
    (nothing : ComesToNothing ((start root expected).filings events) id d) (k : ResultKey) :
    (k, id) ∉ (start root expected).filings events := by
  intro hk
  cases nothing with
  | refused e stage => exact stage_of_filings h hk at_id e stage
  | left stage unfiled =>
    obtain ⟨x, hx, hkey, -⟩ := (traced_run h).moved k id hk
    obtain rfl := Option.some.inj (hx.symm.trans at_id)
    rw [← hkey] at hk
    exact unfiled hk

/-! ### No trace -/

/-- What a delivery leaves in a collector: nothing but its entry in the list and maybe directories.
Everything else is as it is at a collector to which it was never sent. -/
structure Traceless (id : Nat) (d : Delivery) (c b : Collector) : Prop where
  /-- What is expected and received, how much is outstanding, and the status. -/
  ledger : c.ledger = b.ledger
  /-- The number of outstanding results that whoever waits is told. -/
  announced : c.announced = b.announced
  waits : c.waits = b.waits
  /-- The other deliveries have come as far and been answered in the same way. -/
  others : c.deliveries.eraseIdx id = b.deliveries
  /-- It does not hold the ledger. -/
  released : c.holder ≠ some id
  holder : c.holder.map (renumber id) = b.holder
  /-- All files: those of the results, the scratch files and any other. -/
  files : ∀ p, c.tree.content? p = b.tree.content? p
  /-- What else lies in the tree.  There may be the directories of the key in addition. -/
  places : ∀ p, c.tree.get? p = b.tree.get? p ∨
    p ∈ d.directories ∧ c.tree.get? p = some .directory ∧ b.tree.get? p = none
  room : ∀ k, c.tree.hasRoomFor k = b.tree.hasRoomFor k

/-- A delivery that is no more on its way leaves no trace. -/
theorem Mirrors.traceless (h : Mirrors id c b) (at_id : c.deliveries[id]? = some d)
    (closed : d.isOpen = false) (held : HeldByFailure c) : Traceless id d c b := by
  have released : c.holder ≠ some id := by
    intro hh
    obtain ⟨x, hx, hopen, -⟩ := held id hh
    obtain rfl := Option.some.inj (hx.symm.trans at_id)
    rw [closed] at hopen
    cases hopen
  have shown : c.hiddenPlace id = none := by
    rw [hiddenPlace_of_some at_id, Delivery.scratch?, (Bool.or_eq_false_iff.mp closed).1]
    rfl
  have lacks : Tree.Lacks none d.directories c.tree b.tree := by
    rw [← shown, ← directories_of_some at_id]
    exact h.tree
  refine ⟨h.ledger.symm, h.announced.symm, h.waits.symm, h.deliveries.symm, released, ?_, fun p => ?_,
    fun p => ?_, fun k => ?_⟩
  · rw [h.holder, holderBeside_eq_map released]
  · exact (lacks.content?_eq (by simp)).symm
  · exact (lacks.others p (by simp)).imp Eq.symm (And.imp_right And.right)
  · exact (lacks.hasRoomFor_eq (fun _ => Delivery.length_of_mem_directories) k).symm

/-! ### Later deliveries -/

/-- What a whole delivery that succeeds makes of a collector. -/
structure Takes (key : ResultKey) (pieces : List ByteArray) (c c' : Collector) : Prop where
  answered : c'.outcome? c.deliveries.length = some (.ok ())
  filed : c'.tree.content? key.place = some (joined pieces)
  counted : c.ledger.receipt? key = some .pending → Counted key c c'
  repeated : c.ledger.receipt? key = some .received →
    c'.ledger = c.ledger ∧ c'.announced = c.announced

private theorem takes_of_filed {tree : Tree} (ordered : Orderly expected records c) :
    Takes key pieces c
      { c with
        tree := tree.set key.place (.file (joined pieces))
        deliveries := c.deliveries ++ [⟨key, false, joined pieces, mark, .ended (.ok ())⟩]
        ledger := c.ledgerAfter key
        announced := c.announcedAfter key } where
  answered := by
    rw [outcome?, List.getElem?_concat_length]
    rfl
  filed := Tree.content?_set_self tree _ _
  counted pending := counted_of_pending ordered pending rfl rfl
  repeated received := ⟨if_pos received, if_pos received⟩

/-- A later delivery for which there is room succeeds with the delivery and without it, and leads to the
same. -/
private theorem Mirrors.wholeDelivery {records' : List (ResultKey × Bool)} (h : Mirrors id c b)
    (ordered : Orderly expected records c) (orderedThere : Orderly expected records' b)
    (at_id : c.deliveries[id]? = some d) (written : d.isWriting = false)
    (valid : key.isValid = true) (expects : key ∈ expected) (free : c.holder = none)
    (unused : c.markIsFree key mark = true) (room : c.tree.hasRoomFor key = true)
    (pieces : List ByteArray) :
    ∃ c' b', c.run? (wholeEvents c.deliveries.length key pieces mark) = some c' ∧
      b.run? (wholeEvents b.deliveries.length key pieces mark) = some b' ∧
      Takes key pieces c c' ∧ Takes key pieces b b' ∧ Mirrors id c' b' ∧
      c'.deliveries[id]? = some d := by
  have later : c.deliveries.length ≠ id := by
    have hlt := (List.getElem?_eq_some_iff.mp at_id).1
    omega
  have shown : c.hiddenPlace id = none := by
    rw [hiddenPlace_of_some at_id, Delivery.scratch?, written]
    rfl
  have known : c.ledger.receipt? key ≠ none := mt ordered.receipt?_eq_none_iff.mp (not_not.mpr expects)
  have knownThere : b.ledger.receipt? key ≠ none := by
    rw [h.ledger]
    exact known
  have roomThere : b.tree.hasRoomFor key = true := by
    have lacks := h.tree
    rw [shown, directories_of_some at_id] at lacks
    rw [lacks.hasRoomFor_eq (fun _ => Delivery.length_of_mem_directories), room]
  obtain ⟨t, made, hrun⟩ := run?_wholeEvents valid known free unused room pieces
  obtain ⟨u, madeThere, hrunThere⟩ :=
    run?_wholeEvents valid knownThere (h.free free) (h.markIsFree unused) roomThere pieces
  have way := h.makeDirectories key
  rw [made, madeThere] at way
  cases way with
  | done related =>
    have placed := related.set (by simp [shown]) (.file (joined pieces)) (p := key.place)
    have m := h.appended later ⟨key, false, joined pieces, mark, .ended (.ok ())⟩ placed h.holder
    refine ⟨_, _, hrun, hrunThere, takes_of_filed ordered, takes_of_filed orderedThere, ?_,
      getElem?_append_left_of_some at_id⟩
    refine ⟨m.root, ?_, ?_, m.waits, m.deliveries, m.holder, m.tree⟩
    · simp only [ledgerAfter, h.ledger]
    · simp only [announcedAfter, h.ledger, h.announced]

/-- Every delivery that has come to nothing has left no trace: the run without it ends in the same state,
but for the entry of the delivery and directories that may have been made for it.  From there every later
delivery of a valid key that the run expects, for which there is room, succeeds, and is counted as it is
without the first one. -/
theorem traceless_run (h : (start root expected).run? events = some c)
    (spares : Machine.Along step? (Spares []) (start root expected) events)
    (at_id : c.deliveries[id]? = some d)
    (nothing : ComesToNothing ((start root expected).filings events) id d) :
    ∃ b, (start root expected).run? ((start root expected).leaveOut id events) = some b ∧
      Traceless id d c b ∧
      ∀ (key : ResultKey) (pieces : List ByteArray) (mark : String),
        key.isValid = true → key ∈ expected → c.holder = none → c.markIsFree key mark = true →
          c.tree.hasRoomFor key = true →
            ∃ c' b', c.run? (wholeEvents c.deliveries.length key pieces mark) = some c' ∧
              b.run? (wholeEvents b.deliveries.length key pieces mark) = some b' ∧
              Takes key pieces c c' ∧ Takes key pieces b b' ∧ Traceless id d c' b' := by
  obtain ⟨b, hb, mirrors⟩ := mirrors_run h spares (nothing.unfiled h at_id)
  have closed := nothing.isOpen_eq_false
  refine ⟨b, hb, mirrors.traceless at_id closed (heldByFailure_run h), ?_⟩
  intro key pieces mark valid expects free unused room
  obtain ⟨c', b', hc', hb', takes, takesThere, mirrors', at_id'⟩ :=
    mirrors.wholeDelivery (orderly_run h) (orderly_run hb) at_id nothing.isWriting_eq_false valid
      expects free unused room pieces
  have reached : (start root expected).run?
      (events ++ wholeEvents c.deliveries.length key pieces mark) = some c' := by
    rw [run?, Machine.run?_append]
    exact Option.bind_eq_some_iff.mpr ⟨c, h, hc'⟩
  exact ⟨c', b', hc', hb', takes, takesThere,
    mirrors'.traceless at_id' closed (heldByFailure_run reached)⟩

/-- A body breaks off while another delivery of its key is under way, which is cancelled. -/
def brokenAndCancelled : List Event :=
  [.openResult ⟨"a", "t"⟩ false ⟨#[1]⟩ "000000", .openResult ⟨"a", "t"⟩ false ⟨#[2]⟩ "000001",
    .write 0 ⟨#[3]⟩, .breakOff 0 "cut", .write 1 ⟨#[4]⟩, .cancel 1]

/-- The first of the two leaves no trace, and the key is counted when it is delivered once more. -/
theorem traceless_brokenAndCancelled :
    ∃ c d b c' b', (start "out" [⟨"a", "t"⟩]).run? brokenAndCancelled = some c ∧
      (start "out" [⟨"a", "t"⟩]).run?
        [.openResult ⟨"a", "t"⟩ false ⟨#[2]⟩ "000001", .write 0 ⟨#[4]⟩, .cancel 0] = some b ∧
      c.deliveries[0]? = some d ∧ Traceless 0 d c b ∧
      c.run? (wholeEvents 2 ⟨"a", "t"⟩ [⟨#[5]⟩] "000002") = some c' ∧
      Counted ⟨"a", "t"⟩ c c' ∧ Traceless 0 d c' b' := by
  have hsome : ((start "out" [⟨"a", "t"⟩]).run? brokenAndCancelled).isSome = true := rfl
  have spares : Machine.Along step? (Spares []) (start "out" [⟨"a", "t"⟩]) brokenAndCancelled := by
    refine Machine.along_of_forall fun e he s => ?_
    simp only [brokenAndCancelled, List.mem_cons, List.not_mem_nil, or_false] at he
    rcases he with rfl | rfl | rfl | rfl | rfl | rfl <;> trivial
  have at_zero : (Option.get _ hsome).deliveries[0]? = some
      ⟨⟨"a", "t"⟩, false, ⟨#[1, 3]⟩, "000000",
        .ended (.error (.persistence ((ResultKey.mk "a" "t").path "out") (.body "cut")))⟩ := rfl
  obtain ⟨b, hb, traceless, later⟩ :=
    traceless_run (Option.some_get hsome).symm spares at_zero (.refused _ rfl)
  obtain ⟨c', b', hc', -, takes, -, traceless'⟩ :=
    later ⟨"a", "t"⟩ [⟨#[5]⟩] "000002" (by decide) (by decide) rfl rfl rfl
  exact ⟨_, _, b, c', b', (Option.some_get hsome).symm, hb, rfl, traceless, hc', takes.counted rfl,
    traceless'⟩

end Collector

end ClusterSurvey
