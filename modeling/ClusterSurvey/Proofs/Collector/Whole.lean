import ClusterSurvey.Proofs.Collector.Artifacts
import ClusterSurvey.Proofs.Collector.Deliveries
import ClusterSurvey.Proofs.Collector.Opening

/-!
# Whole deliveries

A delivery that nobody interferes with goes from its opening to its answer without a break.  Then there
are four ways for it to end, and which one it takes can be told beforehand: the key is not valid, the
run does not expect it, the body breaks off or there is no room for it, or it is filed and recorded.
Only in the last one anything changes that can be seen in the tree or in the ledger.
-/

namespace ClusterSurvey

namespace Collector

variable {c c' : Collector} {key : ResultKey} {pieces : List ByteArray} {broken : Option String}

/-! ### Quiet collectors -/

/-- A collector at which nothing is on its way: nobody holds the ledger, and nothing lies where bodies
are written. -/
structure Quiet (c : Collector) : Prop where
  free : c.holder = none
  clean : ∀ (k : ResultKey) (mark : String), c.tree.get? (k.scratchPlace mark) = none

/-- A collector is quiet at its start. -/
theorem quiet_start (root : String) (expected : List ResultKey) : (start root expected).Quiet :=
  ⟨rfl, fun _ _ => rfl⟩

/-- The mark for the next scratch file has six octets. -/
theorem utf8ByteSize_nextMark (c : Collector) : c.nextMark.utf8ByteSize = 6 := by
  have hlength : (Nat.toDigits 10 (c.deliveries.length % 1000000)).length ≤ 6 :=
    (Nat.length_toDigits_le_iff (by decide) (by decide)).mpr (Nat.mod_lt _ (by decide))
  rw [nextMark, utf8ByteSize_ofList, List.length_append, List.length_replicate]
  · omega
  · intro x hx
    rcases List.mem_append.mp hx with hzero | hdigit
    · rw [List.eq_of_mem_replicate hzero]
      rfl
    · have digit := Nat.isDigit_of_mem_toDigits (by decide) (by decide) hdigit
      obtain ⟨-, hle⟩ := Char.isDigit_iff_toNat.mp digit
      rw [Char.utf8Size_eq_one_iff, UInt32.le_iff_toNat_le]
      exact Nat.le_trans hle (by decide)

/-- At a quiet collector every delivery can be opened. -/
theorem Quiet.mayOpen (h : c.Quiet) (key : ResultKey) : c.mayOpen key false c.nextMark = true := by
  simp [Collector.mayOpen, markIsFree, h.free, h.clean, utf8ByteSize_nextMark]

/-! ### Answered when it comes -/

/-- A delivery that has been answered is neither written nor broken off nor filed. -/
private theorem step_of_answered {ds : List Delivery} {b : ByteArray} {mark : String}
    {o : Except CollectError Unit} (at_end : c.deliveries = ds ++ [⟨key, false, b, mark, .ended o⟩]) :
    (∀ data, c.step (.write ds.length data) = c) ∧ (∀ text, c.step (.breakOff ds.length text) = c) ∧
      c.finish ds.length = c := by
  have hlast : c.deliveries[ds.length]? = some ⟨key, false, b, mark, .ended o⟩ := by
    rw [at_end, List.getElem?_concat_length]
  have hcommit : c.step (.commit ds.length) = c := by
    simp [step, step?, hlast, Delivery.isWriting]
  refine ⟨fun data => ?_, fun text => ?_, ?_⟩
  · simp [step, step?, hlast, Delivery.isWriting]
  · simp [step, step?, hlast, Delivery.isWriting]
  · rw [finish, hcommit]
    simp [step, step?, hlast, Delivery.isCommitted]

/-- What follows the opening of a delivery. -/
private def follow (c : Collector) (id : Nat) (pieces : List ByteArray) (broken : Option String) :
    Collector :=
  let c := pieces.foldl (fun c data => c.step (.write id data)) c
  match broken with
  | some text => c.step (.breakOff id text)
  | none => c.finish id

private theorem deliver_eq_follow (may : c.mayOpen key false c.nextMark = true) :
    c.deliver key pieces broken =
      (c.openResult key false .empty c.nextMark).follow c.deliveries.length pieces broken := by
  have hopen : c.step (.openResult key false .empty c.nextMark) =
      c.openResult key false .empty c.nextMark := step_eq (if_pos may)
  unfold deliver
  rw [hopen]
  rfl

private theorem follow_of_answered {ds : List Delivery} {b : ByteArray} {mark : String}
    {o : Except CollectError Unit} (at_end : c.deliveries = ds ++ [⟨key, false, b, mark, .ended o⟩])
    (pieces : List ByteArray) (broken : Option String) :
    c.follow ds.length pieces broken = c := by
  obtain ⟨write, breakOff, finish⟩ := step_of_answered at_end
  have hwrites : pieces.foldl (fun c data => c.step (.write ds.length data)) c = c := by
    induction pieces with
    | nil => rfl
    | cons b bs ih => rw [List.foldl_cons, write, ih]
  unfold follow
  rw [hwrites]
  cases broken with
  | none => exact finish
  | some text => exact breakOff text

/-! ### Under way -/

/-- A collector at which the body of a delivery has come so far, and lies in its scratch file. -/
private def underway (c : Collector) (key : ResultKey) (mark : String) (tree : Tree)
    (body : ByteArray) : Collector :=
  { c with
    tree := tree.set (key.scratchPlace mark) (.file body)
    deliveries := c.deliveries ++ [⟨key, false, body, mark, .writing⟩] }

private theorem getElem?_underway {mark : String} {tree : Tree} {body : ByteArray} :
    (c.underway key mark tree body).deliveries[c.deliveries.length]? =
      some ⟨key, false, body, mark, .writing⟩ := List.getElem?_concat_length

private theorem set_last {d x : Delivery} :
    (c.deliveries ++ [d]).set c.deliveries.length x = c.deliveries ++ [x] := by
  rw [List.set_append_right _ _ (Nat.le_refl _), Nat.sub_self]
  rfl

private theorem write_underway {mark : String} {tree : Tree} {body data : ByteArray} :
    (c.underway key mark tree body).step? (.write c.deliveries.length data) =
      some (c.underway key mark tree (body ++ data)) := by
  rw [step?, getElem?_underway]
  simp only [Delivery.isWriting, Bool.not_false, and_self, if_true]
  unfold write setDelivery underway Delivery.scratch
  simp only [Tree.content?_set_self, Option.isSome_some, if_true, Tree.set_set, set_last]

private theorem writes_underway {mark : String} {tree : Tree} {body : ByteArray} :
    pieces.foldl (fun c' data => c'.step (.write c.deliveries.length data))
      (c.underway key mark tree body) =
        c.underway key mark tree (pieces.foldl (· ++ ·) body) := by
  induction pieces generalizing body with
  | nil => rfl
  | cons b bs ih => rw [List.foldl_cons, step_eq write_underway, ih, List.foldl_cons]

private theorem run?_writes_underway {mark : String} {tree : Tree} {body : ByteArray} :
    (c.underway key mark tree body).run? (pieces.map (.write c.deliveries.length)) =
      some (c.underway key mark tree (pieces.foldl (· ++ ·) body)) := by
  induction pieces generalizing body with
  | nil => rfl
  | cons b bs ih =>
    rw [List.map_cons, run?, Machine.run?, write_underway, Option.bind_some, List.foldl_cons]
    exact ih

private theorem giveUp_underway {mark : String} {tree : Tree} {body : ByteArray} {e : CollectError}
    (free : c.holder = none) (unused : tree.get? (key.scratchPlace mark) = none) :
    (c.underway key mark tree body).giveUp c.deliveries.length ⟨key, false, body, mark, .writing⟩
        (.ended (.error e)) =
      { c with
        tree := tree
        deliveries := c.deliveries ++ [⟨key, false, body, mark, .ended (.error e)⟩] } := by
  unfold giveUp release setDelivery underway Delivery.scratch
  simp only [free, reduceCtorEq, if_false, Tree.erase_set, Tree.erase_of_get?_eq_none unused, set_last]

private theorem breakOff_underway {mark : String} {tree : Tree} {body : ByteArray} {text : String}
    (free : c.holder = none) (unused : tree.get? (key.scratchPlace mark) = none) :
    (c.underway key mark tree body).step (.breakOff c.deliveries.length text) =
      { c with
        tree := tree
        deliveries := c.deliveries ++
          [⟨key, false, body, mark, .ended (.error (c.persistence key (.body text)))⟩] } := by
  rw [step, step?, getElem?_underway]
  simp only [Delivery.isWriting, if_true, Option.getD_some]
  exact giveUp_underway free unused

/-- The file of a complete body is moved into place if no directory lies there. -/
private theorem commit_underway {mark : String} {tree : Tree} {body : ByteArray}
    (free : c.holder = none) (unused : tree.get? (key.scratchPlace mark) = none)
    (apart : key.place ≠ key.scratchPlace mark) :
    (c.underway key mark tree body).commit c.deliveries.length ⟨key, false, body, mark, .writing⟩ =
      if tree.isDirectory key.place then
        { c with
          tree := tree
          deliveries := c.deliveries ++ [⟨key, false, body, mark,
            .ended (.error (c.persistence key (.fault .isDirectory)))⟩] }
      else
        { c with
          tree := tree.set key.place (.file body)
          deliveries := c.deliveries ++ [⟨key, false, body, mark, .committed⟩] } := by
  have hsame : (tree.set (key.scratchPlace mark) (.file body)).isDirectory key.place =
      tree.isDirectory key.place := by
    rw [Tree.isDirectory, Tree.isDirectory, Tree.get?_set_of_ne tree _ apart]
  have hrename : (c.underway key mark tree body).tree.rename (key.scratchPlace mark) key.place =
      if tree.isDirectory key.place then .error .isDirectory
      else .ok (tree.set key.place (.file body)) := by
    unfold underway Tree.rename
    simp only [Tree.content?_set_self, hsame, Tree.erase_set, Tree.erase_of_get?_eq_none unused]
  unfold commit Delivery.scratch
  dsimp only
  by_cases hdirectory : tree.isDirectory key.place = true
  · rw [hrename, if_pos hdirectory, if_pos hdirectory]
    exact giveUp_underway free unused
  · rw [hrename, if_neg hdirectory, if_neg hdirectory]
    unfold setDelivery underway
    simp only [set_last]

/-- The ledger behind a delivery that has been filed: its key is counted if it is pending. -/
def ledgerAfter (c : Collector) (key : ResultKey) : Ledger :=
  if c.ledger.receipt? key = some .received then c.ledger else c.ledger.record key .complete

/-- The number of outstanding results that is announced then. -/
def announcedAfter (c : Collector) (key : ResultKey) : Nat :=
  if c.ledger.receipt? key = some .received then c.announced
  else (c.ledger.record key .complete).outstanding

private theorem step?_commit_underway {mark : String} {tree : Tree} {body : ByteArray} :
    (c.underway key mark tree body).step? (.commit c.deliveries.length) =
      some ((c.underway key mark tree body).commit c.deliveries.length
        ⟨key, false, body, mark, .writing⟩) := by
  rw [step?, getElem?_underway]
  rfl

/-- A delivery whose file lies in place is recorded. -/
private theorem record_committed {mark : String} {tree : Tree} {body : ByteArray}
    (free : c.holder = none) :
    ({ c with
        tree := tree
        deliveries := c.deliveries ++ [⟨key, false, body, mark, .committed⟩] } : Collector).step?
      (.record c.deliveries.length) = some
        { c with
          tree := tree
          deliveries := c.deliveries ++ [⟨key, false, body, mark, .ended (.ok ())⟩]
          ledger := c.ledgerAfter key
          announced := c.announcedAfter key } := by
  simp only [step?, List.getElem?_concat_length, Delivery.isCommitted, free, true_or, and_self,
    if_true]
  unfold record release setDelivery ledgerAfter announcedAfter
  simp only [set_last, reduceCtorEq, if_false, Bool.not_false, true_and, Bool.false_eq_true]
  split <;> rfl

private theorem finish_underway {mark : String} {tree : Tree} {body : ByteArray}
    (free : c.holder = none) (unused : tree.get? (key.scratchPlace mark) = none)
    (apart : key.place ≠ key.scratchPlace mark) :
    (c.underway key mark tree body).finish c.deliveries.length =
      if tree.isDirectory key.place then
        { c with
          tree := tree
          deliveries := c.deliveries ++ [⟨key, false, body, mark,
            .ended (.error (c.persistence key (.fault .isDirectory)))⟩] }
      else
        { c with
          tree := tree.set key.place (.file body)
          deliveries := c.deliveries ++ [⟨key, false, body, mark, .ended (.ok ())⟩]
          ledger := c.ledgerAfter key
          announced := c.announcedAfter key } := by
  rw [finish, step_eq step?_commit_underway, commit_underway free unused apart]
  split
  · simp [step, step?, Delivery.isCommitted]
  · exact step_eq (record_committed free)

/-! ### Whole deliveries -/

/-- What a whole delivery makes of a collector. -/
inductive Delivered (c : Collector) (key : ResultKey) (pieces : List ByteArray)
    (broken : Option String) : Collector → Prop where
  /-- The key is not valid. -/
  | invalid (e : KeyError) (bad : key.check = .error e) :
      Delivered c key pieces broken
        (c.answerAtOnce key false .empty c.nextMark (.error (.invalidKey e.message)))
  /-- The run does not expect the key. -/
  | unexpected (valid : key.isValid = true) (foreign : c.ledger.receipt? key = none) :
      Delivered c key pieces broken
        (c.answerAtOnce key false .empty c.nextMark (.error (.unexpected key)))
  /-- The body breaks off, or there is no room for it. -/
  | failed (cause : StorageCause) (body : ByteArray) (tree : Tree) (valid : key.isValid = true)
      (expected : c.ledger.receipt? key ≠ none)
      (hindrance : broken.isSome = true ∨ c.tree.hasRoomFor key = false)
      (grown : c.tree.Grows tree) :
      Delivered c key pieces broken
        { c with
          tree := tree
          deliveries := c.deliveries ++
            [⟨key, false, body, c.nextMark, .ended (.error (c.persistence key cause))⟩] }
  /-- The body is filed, and the key is counted if it is pending. -/
  | filed (tree : Tree) (valid : key.isValid = true) (expected : c.ledger.receipt? key ≠ none)
      (whole : broken = none) (room : c.tree.hasRoomFor key = true) (grown : c.tree.Grows tree) :
      Delivered c key pieces broken
        { c with
          tree := tree.set key.place (.file (joined pieces))
          deliveries := c.deliveries ++ [⟨key, false, joined pieces, c.nextMark, .ended (.ok ())⟩]
          ledger := c.ledgerAfter key
          announced := c.announcedAfter key }

/-- How the body of a delivery begins to be written: there is no room for it, or its scratch file lies
in its directory. -/
private theorem beginWriting_cases (quiet : c.Quiet) (key : ResultKey) :
    (∃ cause tree, c.tree.hasRoomFor key = false ∧ c.tree.Grows tree ∧
      c.beginWriting key false .empty c.nextMark =
        { c with
          tree := tree
          deliveries := c.deliveries ++
            [⟨key, false, .empty, c.nextMark, .ended (.error (c.persistence key cause))⟩] }) ∨
    ∃ tree, (c.tree.hasRoomFor key = true ↔ c.tree.isDirectory key.place = false) ∧
      c.tree.Grows tree ∧
      c.beginWriting key false .empty c.nextMark = c.underway key c.nextMark tree .empty := by
  have hb : Begins c key false .empty c.nextMark (c.beginWriting key false .empty c.nextMark) :=
    begins c.utf8ByteSize_nextMark (quiet.clean key c.nextMark)
  generalize c.beginWriting key false .empty c.nextMark = c' at hb
  cases hb with
  | hindered cause tree full made =>
    refine .inl ⟨cause, tree, full, ?_, rfl⟩
    rcases made with rfl | made
    · exact .refl c.tree
    · exact .of_makeDirectories made
  | underWay tree made room => exact .inr ⟨tree, room, .of_makeDirectories made, rfl⟩

/-- What a delivery whose body begins to be written makes of a collector. -/
private theorem delivered_of_wanted (quiet : c.Quiet) (valid : key.isValid = true)
    (expected : c.ledger.receipt? key ≠ none) :
    Delivered c key pieces broken
      ((c.beginWriting key false .empty c.nextMark).follow c.deliveries.length pieces broken) := by
  rcases beginWriting_cases quiet key with ⟨cause, tree, full, grown, heq⟩ | ⟨tree, room, grown, heq⟩
  · rw [heq, follow_of_answered rfl]
    exact .failed cause .empty tree valid expected (.inr full) grown
  · have unused : tree.get? (key.scratchPlace c.nextMark) = none := by
      rw [grown.get?_scratchPlace, quiet.clean]
    have hplace : tree.isDirectory key.place = c.tree.isDirectory key.place := by
      rw [Tree.isDirectory, Tree.isDirectory, grown.get?_place]
    rw [heq]
    unfold follow
    rw [writes_underway]
    cases broken with
    | some text =>
      dsimp only
      rw [breakOff_underway quiet.free unused]
      exact .failed (.body text) _ tree valid expected (.inl rfl) grown
    | none =>
      dsimp only
      rw [finish_underway quiet.free unused (ResultKey.place_ne_scratchPlace valid key c.nextMark),
        hplace]
      split
      · next blocked =>
        refine .failed (.fault .isDirectory) _ tree valid expected (.inr ?_) grown
        rw [← Bool.not_eq_true, room, blocked]
        decide
      · next unblocked =>
        exact .filed tree valid expected rfl (room.mpr (Bool.not_eq_true _ ▸ unblocked)) grown

/-- A delivery of a key that is not valid is refused, whatever else goes on. -/
theorem deliver_of_invalid {e : KeyError} (bad : key.check = .error e) :
    c.deliver key pieces broken =
      c.answerAtOnce key false .empty c.nextMark (.error (.invalidKey e.message)) := by
  have invalid := ResultKey.isValid_of_check_eq_error bad
  have hopen : c.openResult key false .empty c.nextMark =
      c.answerAtOnce key false .empty c.nextMark (.error (.invalidKey e.message)) := by
    rw [openResult, bad]
  rw [deliver_eq_follow (by simp [mayOpen, invalid]), hopen]
  exact follow_of_answered rfl pieces broken

/-- A delivery of a key that the run does not expect is refused as soon as nobody holds the ledger. -/
theorem deliver_of_unexpected (valid : key.isValid = true) (foreign : c.ledger.receipt? key = none)
    (free : c.holder = none) :
    c.deliver key pieces broken =
      c.answerAtOnce key false .empty c.nextMark (.error (.unexpected key)) := by
  have hopen : c.openResult key false .empty c.nextMark =
      c.answerAtOnce key false .empty c.nextMark (.error (.unexpected key)) := by
    rw [openResult, key.check_eq_ok_iff.mpr valid]
    dsimp only
    rw [foreign]
  rw [deliver_eq_follow (by simp [mayOpen, wants, foreign, free]), hopen]
  exact follow_of_answered rfl pieces broken

/-- At a quiet collector a whole delivery ends in one of these ways. -/
theorem Quiet.delivered (quiet : c.Quiet) (key : ResultKey) (pieces : List ByteArray)
    (broken : Option String) : Delivered c key pieces broken (c.deliver key pieces broken) := by
  cases hcheck : key.check with
  | error e =>
    rw [deliver_of_invalid hcheck]
    exact .invalid e hcheck
  | ok u =>
    have valid := key.check_eq_ok_iff.mp hcheck
    cases hreceipt : c.ledger.receipt? key with
    | none =>
      rw [deliver_of_unexpected valid hreceipt quiet.free]
      exact .unexpected valid hreceipt
    | some receipt =>
      have hopen : c.openResult key false .empty c.nextMark =
          c.beginWriting key false .empty c.nextMark := by
        cases receipt <;> simp [openResult, hcheck, hreceipt]
      rw [deliver_eq_follow (quiet.mayOpen key), hopen]
      exact delivered_of_wanted quiet valid (by simp [hreceipt])

/-- At a quiet collector a whole delivery is answered. -/
theorem Quiet.answered (quiet : c.Quiet) (key : ResultKey) (pieces : List ByteArray)
    (broken : Option String) : ∃ d outcome,
      (c.deliver key pieces broken).deliveries = c.deliveries ++ [d] ∧ d.outcome? = some outcome := by
  have hd := quiet.delivered key pieces broken
  generalize c.deliver key pieces broken = c' at hd
  cases hd <;> exact ⟨_, _, rfl, rfl⟩

/-- The answer to a delivery that came last. -/
theorem lastOutcome?_of_concat {ds : List Delivery} {d : Delivery} {o : Except CollectError Unit}
    (added : c.deliveries = ds ++ [d]) (answered : d.outcome? = some o) : c.lastOutcome? = some o := by
  rw [lastOutcome?, added, List.getLast?_concat, Option.bind_some, answered]

/-! ### What is counted -/

/-- What becomes of a collector at which the result of a pending key is counted, and nothing else. -/
structure Counted (k : ResultKey) (c c' : Collector) : Prop where
  outstanding : c'.ledger.outstanding + 1 = c.ledger.outstanding
  announced : c'.announced = c'.ledger.outstanding
  status : ∀ j, c'.ledger.status.get? j = if j = k then some .complete else c.ledger.status.get? j
  receipts : ∀ j, c'.ledger.receipt? j = if j = k then some .received else c.ledger.receipt? j

/-- The result of a pending key that is filed is counted. -/
theorem counted_of_pending {expected : List ResultKey} {records : List (ResultKey × Bool)}
    {k : ResultKey} (ordered : Orderly expected records c)
    (pending : c.ledger.receipt? k = some .pending)
    (ledger : c'.ledger = c.ledgerAfter k) (announced : c'.announced = c.announcedAfter k) :
    Counted k c c' := by
  have hrecord : c.ledgerAfter k = c.ledger.record k .complete := by
    rw [ledgerAfter, pending, if_neg (by simp)]
  have wanted : c.wants k true = true := by rw [wants, pending]
  obtain ⟨hmem, hnone⟩ : k ∈ expected ∧ records.lookup k = none :=
    (ordered.of_wants wanted).imp id (· rfl)
  have hafter : c'.ledger = .after expected (records ++ [(k, false)]) := by
    rw [ledger, hrecord, ordered.ledger]
    exact Ledger.record_after false hmem hnone
  have hlookup (j : ResultKey) : (records ++ [(k, false)]).lookup j =
      if j = k then some false else records.lookup j := by
    rw [Ledger.lookup_concat]
    by_cases hj : j = k
    · rw [hj, hnone, if_pos rfl]
      simp
    · rw [if_neg hj]
      simp [hj]
  constructor
  · rw [hafter, ordered.ledger, Ledger.outstanding_after_concat false hmem hnone]
  · rw [announced, announcedAfter, pending, if_neg (by simp), ledger, hrecord]
  · intro j
    rw [hafter, ordered.ledger, Ledger.get?_after, Ledger.get?_after, hlookup]
    by_cases hj : j = k
    · rw [if_pos hj, if_pos hj, hj, if_pos hmem]
      rfl
    · rw [if_neg hj, if_neg hj]
  · intro j
    rw [hafter, ordered.ledger, Ledger.receipt?_after, Ledger.receipt?_after, Ledger.receiptAfter,
      Ledger.receiptAfter, hlookup]
    by_cases hj : j = k
    · rw [if_pos hj, if_pos hj, hj, if_pos hmem]
      rfl
    · rw [if_neg hj, if_neg hj]

/-! ### What is left behind -/

/-- A whole delivery leaves the collector quiet. -/
theorem Quiet.deliver (quiet : c.Quiet) (key : ResultKey) (pieces : List ByteArray)
    (broken : Option String) : (c.deliver key pieces broken).Quiet := by
  have hd := quiet.delivered key pieces broken
  generalize c.deliver key pieces broken = c' at hd
  have grownClean {tree : Tree} (grown : c.tree.Grows tree) (k : ResultKey) (mark : String) :
      tree.get? (k.scratchPlace mark) = none := by
    rw [grown.get?_scratchPlace, quiet.clean]
  cases hd with
  | invalid e bad => exact ⟨quiet.free, quiet.clean⟩
  | unexpected valid foreign => exact ⟨quiet.free, quiet.clean⟩
  | failed cause body tree valid expected hindrance grown =>
    exact ⟨quiet.free, grownClean grown⟩
  | filed tree valid expected whole room grown =>
    refine ⟨quiet.free, fun k mark => ?_⟩
    show (tree.set key.place _).get? (k.scratchPlace mark) = none
    rw [Tree.get?_set_of_ne tree _ (ResultKey.place_ne_scratchPlace valid k mark).symm]
    exact grownClean grown k mark

/-- A whole delivery takes no room away from others. -/
theorem Quiet.hasRoomFor_deliver (quiet : c.Quiet) (key : ResultKey) (pieces : List ByteArray)
    (broken : Option String) (j : ResultKey) :
    (c.deliver key pieces broken).tree.hasRoomFor j = c.tree.hasRoomFor j := by
  have hd := quiet.delivered key pieces broken
  generalize c.deliver key pieces broken = c' at hd
  cases hd with
  | invalid e bad => rfl
  | unexpected valid foreign => rfl
  | failed cause body tree valid expected hindrance grown => exact grown.hasRoomFor_eq j
  | filed tree valid expected whole room grown =>
    have hroom : tree.hasRoomFor key = true := (grown.hasRoomFor_eq key).trans room
    exact (Tree.hasRoomFor_set key j _ hroom).trans (grown.hasRoomFor_eq j)

/-- A whole delivery makes its key received exactly if the key is valid and expected, the body comes to its
end and there is room for it.  The other receipts stay as they are. -/
theorem Quiet.receipt?_deliver {expected : List ResultKey} {records : List (ResultKey × Bool)}
    (quiet : c.Quiet) (ordered : Orderly expected records c) (key : ResultKey)
    (pieces : List ByteArray) (broken : Option String) (j : ResultKey) :
    (c.deliver key pieces broken).ledger.receipt? j =
      if j = key ∧ key.isValid = true ∧ key ∈ expected ∧ broken = none ∧
          c.tree.hasRoomFor key = true then some .received
      else c.ledger.receipt? j := by
  have hd := quiet.delivered key pieces broken
  generalize c.deliver key pieces broken = c' at hd
  cases hd with
  | invalid e bad =>
    have invalid := ResultKey.isValid_of_check_eq_error bad
    rw [if_neg (by simp [invalid])]
    rfl
  | unexpected valid foreign =>
    have hmem := ordered.receipt?_eq_none_iff.mp foreign
    rw [if_neg (by simp [hmem])]
    rfl
  | failed cause body tree valid expected' hindrance grown =>
    rw [if_neg]
    rintro ⟨-, -, -, whole, room⟩
    rw [whole, room] at hindrance
    simp at hindrance
  | filed tree valid expected' whole room grown =>
    have hmem : key ∈ expected := not_not.mp (mt ordered.receipt?_eq_none_iff.mpr expected')
    have hledger : Ledger.receipt? (c.ledgerAfter key) j =
        if j = key then some .received else c.ledger.receipt? j := by
      cases hr : Ledger.receiptAfter records key with
      | received =>
        have hreceipt : c.ledger.receipt? key = some .received := by
          rw [ordered.receipt?_eq, if_pos hmem, hr]
        rw [ledgerAfter, if_pos hreceipt]
        split
        · next hj => rw [hj, hreceipt]
        · rfl
      | pending =>
        have pending : c.ledger.receipt? key = some .pending := by
          rw [ordered.receipt?_eq, if_pos hmem, hr]
        have counted : Counted key c
            { c with ledger := c.ledgerAfter key, announced := c.announcedAfter key } :=
          counted_of_pending ordered pending rfl rfl
        exact counted.receipts j
    simp only [valid, hmem, whole, room, and_true]
    exact hledger

/-! ### Whole deliveries as runs -/

/-- Whether an event is about a delivery that has been opened before. -/
def Event.concerns (id : Nat) : Event → Bool
  | .write i _ | .breakOff i _ | .cancel i | .commit i | .record i => i = id
  | .openResult .. | .beginWait _ | .setStop .. | .endWait .. | .disturb _ => false

/-- This delivery is the subject of the event. -/
theorem subject?_of_concerns {e : Event} {id : Nat} (h : e.concerns id = true) (c : Collector) :
    c.subject? e = some id := by
  cases e with
  | write i _ | breakOff i _ | cancel i | commit i | record i =>
    exact congrArg some (of_decide_eq_true h)
  | _ => cases h

/-- What holds when a delivery has been opened and is kept by whatever else happens to this delivery
holds when it has been taken as a whole. -/
theorem deliver_induction {P : Collector → Prop} (key : ResultKey) (pieces : List ByteArray)
    (broken : Option String) (opened : P (c.step (.openResult key false .empty c.nextMark)))
    (kept : ∀ c' e, P c' → e.concerns c.deliveries.length = true → P (c'.step e)) :
    P (c.deliver key pieces broken) := by
  have written : P (pieces.foldl (fun c' data => c'.step (.write c.deliveries.length data))
      (c.step (.openResult key false .empty c.nextMark))) := by
    generalize c.step (.openResult key false .empty c.nextMark) = c' at opened
    induction pieces generalizing c' with
    | nil => exact opened
    | cons b bs ih => exact ih _ (kept c' _ opened (decide_eq_true rfl))
  unfold Collector.deliver
  cases broken with
  | some text => exact kept _ _ written (decide_eq_true rfl)
  | none => exact kept _ _ (kept _ _ written (decide_eq_true rfl)) (decide_eq_true rfl)

/-- The same of a result that is handed over within the run. -/
theorem ingest_induction {P : Collector → Prop} (r : LocalResult)
    (opened : ∀ isFailure body, P (c.step (.openResult r.key isFailure body c.nextMark)))
    (kept : ∀ c' e, P c' → e.concerns c.deliveries.length = true → P (c'.step e)) :
    P (c.ingest r) := by
  unfold Collector.ingest
  split
  · exact kept _ _ (kept _ _ (opened true r.body) (decide_eq_true rfl)) (decide_eq_true rfl)
  · exact deliver_induction r.key [r.body] none (opened false .empty) kept

/-- The events of a delivery that is taken as a whole and comes to its end. -/
def wholeEvents (id : Nat) (key : ResultKey) (pieces : List ByteArray) (mark : String) : List Event :=
  .openResult key false .empty mark :: (pieces.map (.write id) ++ [.commit id, .record id])

/-- Whatever else is on its way, a delivery that is taken as a whole is filed and recorded: its key has to be
valid and expected, nobody may hold the ledger, and there has to be room and a mark for it. -/
theorem run?_wholeEvents {mark : String} (valid : key.isValid = true)
    (expected : c.ledger.receipt? key ≠ none) (free : c.holder = none)
    (unused : c.markIsFree key mark = true) (room : c.tree.hasRoomFor key = true)
    (pieces : List ByteArray) :
    ∃ tree, c.tree.makeDirectories [key.scope] = .ok tree ∧
      c.run? (wholeEvents c.deliveries.length key pieces mark) = some
        { c with
          tree := tree.set key.place (.file (joined pieces))
          deliveries := c.deliveries ++ [⟨key, false, joined pieces, mark, .ended (.ok ())⟩]
          ledger := c.ledgerAfter key
          announced := c.announcedAfter key } := by
  obtain ⟨short, hnone⟩ : mark.utf8ByteSize = 6 ∧ c.tree.get? (key.scratchPlace mark) = none := by
    simpa [markIsFree] using unused
  have hopen : c.openResult key false .empty mark = c.beginWriting key false .empty mark := by
    cases hreceipt : c.ledger.receipt? key with
    | none => exact absurd hreceipt expected
    | some receipt => cases receipt <;> simp [openResult, key.check_eq_ok_iff.mpr valid, hreceipt]
  have hopened : c.step? (.openResult key false .empty mark) =
      some (c.beginWriting key false .empty mark) := by
    rw [step?, if_pos (by simp [mayOpen, free, unused]), hopen]
  have hb : Begins c key false .empty mark (c.beginWriting key false .empty mark) := begins short hnone
  generalize c.beginWriting key false .empty mark = begun at hb hopened
  cases hb with
  | hindered cause tree full made =>
    rw [room] at full
    cases full
  | underWay tree made blocked =>
    have unusedNow : tree.get? (key.scratchPlace mark) = none := by
      rw [(Tree.Grows.of_makeDirectories made).get?_scratchPlace, hnone]
    have unblocked : ¬ tree.isDirectory key.place = true := by
      rw [Tree.isDirectory, (Tree.Grows.of_makeDirectories made).get?_place, ← Tree.isDirectory,
        blocked.mp room]
      decide
    have hcommit : (c.underway key mark tree (joined pieces)).step? (.commit c.deliveries.length) = some
        { c with
          tree := tree.set key.place (.file (joined pieces))
          deliveries := c.deliveries ++ [⟨key, false, joined pieces, mark, .committed⟩] } := by
      rw [step?_commit_underway,
        commit_underway free unusedNow (ResultKey.place_ne_scratchPlace valid key mark),
        if_neg unblocked]
    refine ⟨tree, made, ?_⟩
    rw [run?, wholeEvents, Machine.run?, hopened, Option.bind_some, Machine.run?_append]
    show ((c.underway key mark tree .empty).run? (pieces.map (.write c.deliveries.length))).bind _ = _
    rw [run?_writes_underway, Option.bind_some, Machine.run?]
    show ((c.underway key mark tree (joined pieces)).step? _).bind _ = _
    rw [hcommit, Option.bind_some, Machine.run?, record_committed free]
    rfl

/-- Whether events lead from one state to another. -/
def Reaches (c c' : Collector) : Prop := ∃ events, c.run? events = some c'

namespace Reaches

variable {c'' : Collector}

/-- No event leads to the same state. -/
theorem refl (c : Collector) : Reaches c c := ⟨[], rfl⟩

/-- Events lead on from where others have led. -/
theorem trans (h : Reaches c c') (h' : Reaches c' c'') : Reaches c c'' := by
  obtain ⟨es, hes⟩ := h
  obtain ⟨es', hes'⟩ := h'
  refine ⟨es ++ es', ?_⟩
  rw [run?, Machine.run?_append]
  exact Option.bind_eq_some_iff.mpr ⟨c', hes, hes'⟩

/-- An event leads on if it can happen. -/
theorem step (c : Collector) (e : Event) : Reaches c (c.step e) := by
  cases he : c.step? e with
  | none =>
    rw [step_eq_self he]
    exact refl c
  | some c' =>
    rw [step_eq he]
    exact ⟨[e], Option.bind_eq_some_iff.mpr ⟨c', he, rfl⟩⟩

/-- A whole delivery is made of events. -/
theorem deliver (c : Collector) (key : ResultKey) (pieces : List ByteArray) (broken : Option String) :
    Reaches c (c.deliver key pieces broken) :=
  deliver_induction key pieces broken (step c _) fun c' e h _ => h.trans (step c' e)

/-- What the records add up to stays what the ledger shows. -/
theorem orderly {expected : List ResultKey} {records : List (ResultKey × Bool)}
    (h : Reaches c c') (ordered : Orderly expected records c) :
    ∃ more, Orderly expected (records ++ more) c' := by
  obtain ⟨es, hes⟩ := h
  exact ordered.run hes

end Reaches

end Collector

end ClusterSurvey
