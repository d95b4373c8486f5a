import ClusterSurvey.Proofs.Collector.Confined

/-!
# Deliveries side by side

Deliveries of different keys do not meet: each of them writes its own scratch file, fills its own place and
counts its own key.  So while each key is delivered once and nobody interferes, what has become of the
records and of the tree can be told at any time from the stages of the deliveries alone.
-/

namespace ClusterSurvey

/-- Where the body of a delivery lies until it is filed, and where it lies then. -/
def Delivery.spot (d : Delivery) : Place := if d.isWriting then d.scratch else d.key.place

namespace Collector

variable {root : String} {expected : List ResultKey} {records : List (ResultKey × Bool)}
variable {c c' : Collector} {e : Event} {events : List Event}

/-! ### What is said of deliveries -/

/-- Whether results of a key are let in. -/
def LetsIn (expected : List ResultKey) (k : ResultKey) : Prop := k.isValid = true ∧ k ∈ expected

instance (expected : List ResultKey) (k : ResultKey) : Decidable (LetsIn expected k) := by
  unfold LetsIn
  infer_instance

/-- The answer to a delivery of a key that comes to its end. -/
def finalAnswer (expected : List ResultKey) (k : ResultKey) : Except CollectError Unit :=
  match k.check with
  | .error e => .error (.invalidKey e.message)
  | .ok () => if k ∈ expected then .ok () else .error (.unexpected k)

/-- A collector at its start, with a tree in which there is something already. -/
def startIn (root : String) (expected : List ResultKey) (tree : Tree) : Collector :=
  { start root expected with tree := tree }

/-- Whether an event is neither the end of a delivery on the way nor a change made by somebody else. -/
def Event.isSteady : Event → Bool
  | .cancel _ | .breakOff .. | .disturb _ => false
  | _ => true

/-- Whether each key has been delivered once at most. -/
def OnePerKey (c : Collector) : Prop :=
  ∀ (i j : Nat) (d d' : Delivery), c.deliveries[i]? = some d → c.deliveries[j]? = some d' →
    d.key = d'.key → i = j

/-- Whether a tree has room for the result of every delivery that is let in. -/
def RoomForAll (expected : List ResultKey) (tree : Tree) (c : Collector) : Prop :=
  ∀ (id : Nat) (d : Delivery), c.deliveries[id]? = some d → LetsIn expected d.key →
    tree.hasRoomFor d.key = true

private theorem finalAnswer_of_letsIn {k : ResultKey} (h : LetsIn expected k) :
    finalAnswer expected k = .ok () := by
  rw [finalAnswer, k.check_eq_ok_iff.mpr h.1]
  exact if_pos h.2

/-- A place of two names is not the one of a directory. -/
private theorem spot_ne (d : Delivery) (s : String) : d.spot ≠ [] ∧ d.spot ≠ [s] := by
  unfold Delivery.spot
  split
  · exact ⟨List.cons_ne_nil _ _, fun h => List.cons_ne_nil _ _ (List.cons.inj h).2⟩
  · exact ⟨List.cons_ne_nil _ _, fun h => List.cons_ne_nil _ _ (List.cons.inj h).2⟩

private theorem spot_of_writing {d : Delivery} (h : d.isWriting = true) : d.spot = d.scratch := if_pos h

/-- The body of a delivery that is no more written lies in its place. -/
theorem spot_of_not_writing {d : Delivery} (h : d.isWriting = false) : d.spot = d.key.place := by
  rw [Delivery.spot, h]
  rfl

/-! ### Steps of deliveries that do not meet -/

/-- What an event makes of a collector while deliveries of different keys go on side by side. -/
inductive Advances (expected : List ResultKey) (c : Collector) (e : Event) (c' : Collector) : Prop where
  /-- A delivery of a key that is not let in is answered. -/
  | refused (d : Delivery) (deliveries : c'.deliveries = c.deliveries ++ [d]) (same : c'.tree = c.tree)
      (refused : ¬ LetsIn expected d.key) (stage : d.stage = .ended (finalAnswer expected d.key))
      (silent : c.recordOf e = [])
  /-- A body begins to be written. -/
  | begun (d : Delivery) (made : Tree) (deliveries : c'.deliveries = c.deliveries ++ [d])
      (stage : d.stage = .writing) (letsIn : LetsIn expected d.key)
      (unused : c.tree.get? d.scratch = none)
      (directories : c.tree.makeDirectories [d.key.scope] = .ok made)
      (tree : c'.tree = made.set d.scratch (.file d.body)) (silent : c.recordOf e = [])
  /-- A body is written on. -/
  | wrote (id : Nat) (d : Delivery) (data : ByteArray) (at_id : c.deliveries[id]? = some d)
      (writing : d.isWriting = true) (letsIn : LetsIn expected d.key)
      (deliveries : c'.deliveries = c.deliveries.set id { d with body := d.body ++ data })
      (tree : c'.tree = c.tree.set d.scratch (.file (d.body ++ data))) (silent : c.recordOf e = [])
  /-- A body is moved into place. -/
  | filed (id : Nat) (d : Delivery) (at_id : c.deliveries[id]? = some d) (writing : d.isWriting = true)
      (letsIn : LetsIn expected d.key)
      (deliveries : c'.deliveries = c.deliveries.set id { d with stage := .committed })
      (tree : ∀ p, c'.tree.get? p = if p = d.key.place then some (.file d.body)
        else if p = d.scratch then none else c.tree.get? p)
      (silent : c.recordOf e = [])
  /-- A delivery is recorded. -/
  | recorded (id : Nat) (d : Delivery) (at_id : c.deliveries[id]? = some d)
      (committed : d.isCommitted = true) (letsIn : LetsIn expected d.key)
      (deliveries : c'.deliveries = c.deliveries.set id { d with stage := .ended (.ok ()) })
      (same : c'.tree = c.tree) (record : c.recordOf e = [(d.key, d.isFailure)])
  /-- Nothing happens to the deliveries or the tree. -/
  | idle (deliveries : c'.deliveries = c.deliveries) (same : c'.tree = c.tree)
      (silent : c.recordOf e = [])

/-! ### What is recorded -/

/-- What the stages of the deliveries tell about the records. -/
structure Noted (expected : List ResultKey) (records : List (ResultKey × Bool)) (c : Collector) :
    Prop where
  /-- A delivery has been answered, or its key has been let in and it is on its way. -/
  stages : ∀ (id : Nat) (d : Delivery), c.deliveries[id]? = some d →
    d.stage = .ended (finalAnswer expected d.key) ∨
      LetsIn expected d.key ∧ (d.stage = .writing ∨ d.stage = .committed)
  /-- A delivery that has been let in is recorded when it is answered. -/
  counted : ∀ (id : Nat) (d : Delivery), c.deliveries[id]? = some d → LetsIn expected d.key →
    d.isOpen = false → records.lookup d.key = some d.isFailure
  /-- Nothing else is recorded. -/
  known : ∀ k b, records.lookup k = some b → ∃ (id : Nat) (d : Delivery),
    c.deliveries[id]? = some d ∧ d.key = k ∧ LetsIn expected k ∧ d.isOpen = false

namespace Noted

/-- A further delivery is answered because its key is not let in, or is on its way. -/
private theorem of_opened {d : Delivery} (h : Noted expected records c)
    (deliveries : c'.deliveries = c.deliveries ++ [d])
    (stage : ¬ LetsIn expected d.key ∧ d.stage = .ended (finalAnswer expected d.key) ∨
      LetsIn expected d.key ∧ d.stage = .writing) : Noted expected records c' where
  stages id x hx := by
    rw [deliveries] at hx
    obtain hx | ⟨-, rfl⟩ := getElem?_concat hx
    · exact h.stages id x hx
    · exact stage.imp And.right fun ⟨letsIn, writing⟩ => ⟨letsIn, .inl writing⟩
  counted id x hx letsIn closed := by
    rw [deliveries] at hx
    obtain hx | ⟨-, rfl⟩ := getElem?_concat hx
    · exact h.counted id x hx letsIn closed
    · rcases stage with ⟨refused, -⟩ | ⟨-, writing⟩
      · exact absurd letsIn refused
      · rw [Delivery.isOpen, Delivery.isWriting, writing] at closed
        cases closed
  known k b hk := by
    obtain ⟨id, x, hx, hkey, letsIn, closed⟩ := h.known k b hk
    refine ⟨id, x, ?_, hkey, letsIn, closed⟩
    rw [deliveries]
    exact getElem?_append_left_of_some hx

/-- A delivery on its way goes on. -/
private theorem of_changed {id : Nat} {d d' : Delivery} (h : Noted expected records c)
    (at_id : c.deliveries[id]? = some d) (isOpen : d.isOpen = true)
    (deliveries : c'.deliveries = c.deliveries.set id d') (letsIn : LetsIn expected d'.key)
    (stage : d'.stage = .writing ∨ d'.stage = .committed) : Noted expected records c' where
  stages j x hx := by
    rw [deliveries] at hx
    obtain ⟨-, hx⟩ | ⟨-, rfl⟩ := getElem?_set hx
    · exact h.stages j x hx
    · exact .inr ⟨letsIn, stage⟩
  counted j x hx letsIn closed := by
    rw [deliveries] at hx
    obtain ⟨-, hx⟩ | ⟨-, rfl⟩ := getElem?_set hx
    · exact h.counted j x hx letsIn closed
    · rw [Delivery.isOpen, Delivery.isWriting, Delivery.isCommitted] at closed
      rcases stage with hs | hs <;> rw [hs] at closed <;> cases closed
  known k b hk := by
    obtain ⟨j, x, hx, hkey, letsIn, closed⟩ := h.known k b hk
    refine ⟨j, x, ?_, hkey, letsIn, closed⟩
    have hj : id ≠ j := by
      rintro rfl
      rw [Option.some.inj (hx.symm.trans at_id), isOpen] at closed
      cases closed
    rw [deliveries, List.getElem?_set_ne hj, hx]

/-- No other delivery of its key has been recorded before. -/
private theorem lookup_eq_none {id : Nat} {d : Delivery} (h : Noted expected records c)
    (once : OnePerKey c) (at_id : c.deliveries[id]? = some d) (isOpen : d.isOpen = true) :
    records.lookup d.key = none := by
  cases hl : records.lookup d.key with
  | none => rfl
  | some b =>
    obtain ⟨j, x, hx, hkey, -, closed⟩ := h.known d.key b hl
    obtain rfl := once j id x d hx at_id hkey
    rw [Option.some.inj (hx.symm.trans at_id), isOpen] at closed
    cases closed

/-- A delivery on its way is recorded. -/
private theorem of_recorded {id : Nat} {d : Delivery} (h : Noted expected records c)
    (once : OnePerKey c) (at_id : c.deliveries[id]? = some d) (isOpen : d.isOpen = true)
    (letsIn : LetsIn expected d.key)
    (deliveries : c'.deliveries = c.deliveries.set id { d with stage := .ended (.ok ()) }) :
    Noted expected (records ++ [(d.key, d.isFailure)]) c' where
  stages j x hx := by
    rw [deliveries] at hx
    obtain ⟨-, hx⟩ | ⟨-, rfl⟩ := getElem?_set hx
    · exact h.stages j x hx
    · exact .inl (congrArg Stage.ended (finalAnswer_of_letsIn letsIn).symm)
  counted j x hx letsIn closed := by
    rw [deliveries] at hx
    rw [Ledger.lookup_concat]
    obtain ⟨-, hx⟩ | ⟨-, rfl⟩ := getElem?_set hx
    · rw [h.counted j x hx letsIn closed, Option.some_or]
    · rw [h.lookup_eq_none once at_id isOpen, Option.none_or]
      exact if_pos rfl
  known k b hk := by
    rw [Ledger.lookup_concat] at hk
    have new : ∃ (j : Nat) (x : Delivery), c'.deliveries[j]? = some x ∧ x.key = d.key ∧
        LetsIn expected d.key ∧ x.isOpen = false := by
      refine ⟨id, { d with stage := .ended (.ok ()) }, ?_, rfl, letsIn, rfl⟩
      rw [deliveries]
      exact getElem?_set_self_of_some at_id
    by_cases hkd : k = d.key
    · exact hkd ▸ new
    · rw [if_neg hkd, Option.or_none] at hk
      obtain ⟨j, x, hx, hkey, letsIn, closed⟩ := h.known k b hk
      have hj : id ≠ j := by
        rintro rfl
        rw [Option.some.inj (hx.symm.trans at_id)] at hkey
        exact hkd hkey.symm
      exact ⟨j, x, by rw [deliveries, List.getElem?_set_ne hj, hx], hkey, letsIn, closed⟩

/-- An event adds its record. -/
theorem advance (h : Noted expected records c) (once : OnePerKey c) (a : Advances expected c e c') :
    Noted expected (records ++ c.recordOf e) c' := by
  have unrecorded (hc' : Noted expected records c') (silent : c.recordOf e = []) :
      Noted expected (records ++ c.recordOf e) c' := by
    rwa [silent, List.append_nil]
  cases a with
  | refused d deliveries same refused stage silent =>
    exact unrecorded (h.of_opened deliveries (.inl ⟨refused, stage⟩)) silent
  | begun d made deliveries stage letsIn unused directories tree silent =>
    exact unrecorded (h.of_opened deliveries (.inr ⟨letsIn, stage⟩)) silent
  | wrote id d data at_id writing letsIn deliveries tree silent =>
    have stage : d.stage = .writing := by
      rcases h.stages id d at_id with hs | ⟨-, hs | hs⟩
      · rw [Delivery.isWriting, hs] at writing
        cases writing
      · exact hs
      · rw [Delivery.isWriting, hs] at writing
        cases writing
    exact unrecorded
      (h.of_changed at_id (isOpen_of_isWriting writing) deliveries letsIn (.inl stage)) silent
  | filed id d at_id writing letsIn deliveries tree silent =>
    exact unrecorded
      (h.of_changed at_id (isOpen_of_isWriting writing) deliveries letsIn (.inr rfl)) silent
  | recorded id d at_id committed letsIn deliveries same record =>
    rw [record]
    exact h.of_recorded once at_id (isOpen_of_isCommitted committed) letsIn deliveries
  | idle deliveries same silent =>
    refine unrecorded ⟨?_, ?_, ?_⟩ silent
    · rw [deliveries]
      exact h.stages
    · rw [deliveries]
      exact h.counted
    · rw [deliveries]
      exact h.known

end Noted

/-! ### What is filed -/

/-- What the deliveries have made of the tree that was found. -/
structure Laid (expected : List ResultKey) (found : Tree) (c : Collector) : Prop where
  /-- There are the directories of the deliveries that have been let in. -/
  above : ∀ (id : Nat) (d : Delivery), c.deliveries[id]? = some d → LetsIn expected d.key →
    c.tree.get? [] = some .directory ∧ c.tree.get? [d.key.scope] = some .directory
  /-- There are their bodies. -/
  bodies : ∀ (id : Nat) (d : Delivery), c.deliveries[id]? = some d → LetsIn expected d.key →
    c.tree.get? d.spot = some (.file d.body)
  /-- Everything else is as it was found. -/
  rest : ∀ p, (∀ (id : Nat) (d : Delivery), c.deliveries[id]? = some d → LetsIn expected d.key →
    p ≠ [] ∧ p ≠ [d.key.scope] ∧ p ≠ d.spot) → c.tree.get? p = found.get? p
  /-- No two bodies lie at one place. -/
  apart : ∀ (i j : Nat) (d d' : Delivery), c.deliveries[i]? = some d → c.deliveries[j]? = some d' →
    LetsIn expected d.key → LetsIn expected d'.key → d.spot = d'.spot → i = j
  /-- Where a body is being written nothing had been found. -/
  unused : ∀ (id : Nat) (d : Delivery), c.deliveries[id]? = some d → LetsIn expected d.key →
    d.isWriting = true → found.get? d.scratch = none

namespace Laid

variable {found : Tree}

/-- The same deliveries have been let in. -/
private theorem of_same (h : Laid expected found c) (same : c'.tree = c.tree)
    (deliveries : ∀ (id : Nat) (d : Delivery), LetsIn expected d.key →
      (c'.deliveries[id]? = some d ↔ c.deliveries[id]? = some d)) : Laid expected found c' where
  above id d hd letsIn := by
    rw [same]
    exact h.above id d ((deliveries id d letsIn).mp hd) letsIn
  bodies id d hd letsIn := by
    rw [same]
    exact h.bodies id d ((deliveries id d letsIn).mp hd) letsIn
  rest p hp := by
    rw [same]
    exact h.rest p fun id d hd letsIn => hp id d ((deliveries id d letsIn).mpr hd) letsIn
  apart i j d d' hd hd' hi hj :=
    h.apart i j d d' ((deliveries i d hi).mp hd) ((deliveries j d' hj).mp hd') hi hj
  unused id d hd letsIn := h.unused id d ((deliveries id d letsIn).mp hd) letsIn

/-- A body begins to be written where nothing lies. -/
private theorem of_begun {d : Delivery} {made : Tree} (h : Laid expected found c)
    (deliveries : c'.deliveries = c.deliveries ++ [d]) (stage : d.stage = .writing)
    (letsIn : LetsIn expected d.key) (unused : c.tree.get? d.scratch = none)
    (directories : c.tree.makeDirectories [d.key.scope] = .ok made)
    (tree : c'.tree = made.set d.scratch (.file d.body)) : Laid expected found c' := by
  have spot : d.spot = d.scratch := spot_of_writing (by rw [Delivery.isWriting, stage])
  have other {id : Nat} {x : Delivery} (hx : c.deliveries[id]? = some x)
      (letsIn : LetsIn expected x.key) : x.spot ≠ d.scratch := by
    intro hs
    have hbody := h.bodies id x hx letsIn
    rw [hs, unused] at hbody
    cases hbody
  have hspot (s : String) := spot ▸ spot_ne d s
  have files (p : Place) (hp : p ≠ d.scratch) : c'.tree.get? p =
      if p = [] ∨ p = [d.key.scope] then some .directory else c.tree.get? p := by
    rw [tree, Tree.get?_set_of_ne made _ hp, Tree.get?_makeDirectories directories]
  constructor
  · intro id x hx hlets
    rw [files [] (hspot "").1.symm, if_pos (.inl rfl)]
    refine ⟨rfl, ?_⟩
    rw [files _ (hspot x.key.scope).2.symm]
    split
    · rfl
    · next hscope =>
      rw [deliveries] at hx
      obtain hx | ⟨-, rfl⟩ := getElem?_concat hx
      · exact (h.above id x hx hlets).2
      · exact absurd (.inr rfl) hscope
  · intro id x hx hlets
    rw [deliveries] at hx
    obtain hx | ⟨-, rfl⟩ := getElem?_concat hx
    · have hne := spot_ne x d.key.scope
      rw [files _ (other hx hlets), if_neg (not_or.mpr hne)]
      exact h.bodies id x hx hlets
    · rw [spot, tree, Tree.get?_set_self]
  · intro p hp
    obtain ⟨hroot, hscope, hscratch⟩ :=
      hp c.deliveries.length d (deliveries ▸ List.getElem?_concat_length) letsIn
    rw [files p (spot ▸ hscratch), if_neg (not_or.mpr ⟨hroot, hscope⟩)]
    exact h.rest p fun id x hx => hp id x (deliveries ▸ getElem?_append_left_of_some hx)
  · intro i j x y hx hy hi hj hs
    rw [deliveries] at hx hy
    obtain hx' | ⟨rfl, rfl⟩ := getElem?_concat hx <;> obtain hy' | ⟨rfl, rfl⟩ := getElem?_concat hy
    · exact h.apart i j x y hx' hy' hi hj hs
    · exact absurd (hs.trans spot) (other hx' hi)
    · exact absurd (hs.symm.trans spot) (other hy' hj)
    · rfl
  · intro id x hx hlets hw
    rw [deliveries] at hx
    obtain hx | ⟨-, rfl⟩ := getElem?_concat hx
    · exact h.unused id x hx hlets hw
    · rw [← h.rest x.scratch, unused]
      intro j y hy hj
      exact ⟨(hspot "").1, (hspot y.key.scope).2, (other hy hj).symm⟩

/-- A body is written on or comes to its place, and nothing is left where it lay. -/
private theorem of_changed {id : Nat} {d d' : Delivery} (h : Laid expected found c)
    (at_id : c.deliveries[id]? = some d) (letsIn : LetsIn expected d.key)
    (deliveries : c'.deliveries = c.deliveries.set id d') (key : d'.key = d.key)
    (tree : ∀ p, c'.tree.get? p = if p = d'.spot then some (.file d'.body)
      else if p = d.spot then found.get? p else c.tree.get? p)
    (free : ∀ (j : Nat) (x : Delivery), c.deliveries[j]? = some x → LetsIn expected x.key → j ≠ id →
      x.spot ≠ d'.spot)
    (unused : d'.isWriting = true → found.get? d'.scratch = none) : Laid expected found c' := by
  have other {j : Nat} {x : Delivery} (hx : c.deliveries[j]? = some x)
      (hlets : LetsIn expected x.key) (hj : j ≠ id) : x.spot ≠ d.spot :=
    fun hs => hj (h.apart j id x d hx at_id hlets letsIn hs)
  have directories (p : Place) (hp : ∀ x : Delivery, p ≠ x.spot) : c'.tree.get? p = c.tree.get? p := by
    rw [tree, if_neg (hp d'), if_neg (hp d)]
  constructor
  · intro j x hx hlets
    rw [directories [] fun y => (spot_ne y "").1.symm,
      directories [x.key.scope] fun y => (spot_ne y x.key.scope).2.symm]
    rw [deliveries] at hx
    obtain ⟨-, hx⟩ | ⟨-, rfl⟩ := getElem?_set hx
    · exact h.above j x hx hlets
    · rw [key]
      exact h.above id d at_id letsIn
  · intro j x hx hlets
    rw [deliveries] at hx
    obtain ⟨hj, hx⟩ | ⟨-, rfl⟩ := getElem?_set hx
    · rw [tree, if_neg (free j x hx hlets hj), if_neg (other hx hlets hj)]
      exact h.bodies j x hx hlets
    · rw [tree, if_pos rfl]
  · intro p hp
    obtain ⟨hroot, hscope, hspot⟩ :=
      hp id d' (deliveries ▸ getElem?_set_self_of_some at_id) (key ▸ letsIn)
    rw [tree, if_neg hspot]
    split
    · rfl
    · next hleft =>
      refine h.rest p fun j x hx hlets => ?_
      by_cases hj : j = id
      · subst hj
        obtain rfl : d = x := Option.some.inj (at_id.symm.trans hx)
        exact ⟨hroot, key ▸ hscope, hleft⟩
      · exact hp j x (by rw [deliveries, List.getElem?_set_ne (Ne.symm hj), hx]) hlets
  · intro i j x y hx hy hi hj hs
    rw [deliveries] at hx hy
    obtain ⟨hid, hx'⟩ | ⟨rfl, rfl⟩ := getElem?_set hx <;>
      obtain ⟨hid', hy'⟩ | ⟨rfl, rfl⟩ := getElem?_set hy
    · exact h.apart i j x y hx' hy' hi hj hs
    · exact absurd hs (free i x hx' hi hid)
    · exact absurd hs.symm (free j y hy' hj hid')
    · rfl
  · intro j x hx hlets hw
    rw [deliveries] at hx
    obtain ⟨-, hx⟩ | ⟨-, rfl⟩ := getElem?_set hx
    · exact h.unused j x hx hlets hw
    · exact unused hw

/-- An event leaves the tree laid out by the deliveries. -/
theorem advance (h : Laid expected found c) (a : Advances expected c e c')
    (distinct : ∀ k ∈ expected, ∀ j ∈ expected, k.path root = j.path root → k = j)
    (once : OnePerKey c) : Laid expected found c' := by
  cases a with
  | refused d deliveries same refused stage silent =>
    refine h.of_same same fun id x letsIn => ?_
    rw [deliveries]
    refine ⟨fun hx => ?_, getElem?_append_left_of_some⟩
    obtain hx | ⟨-, rfl⟩ := getElem?_concat hx
    · exact hx
    · exact absurd letsIn refused
  | begun d made deliveries stage letsIn unused directories tree silent =>
    exact h.of_begun deliveries stage letsIn unused directories tree
  | wrote id d data at_id writing letsIn deliveries tree silent =>
    have spot : d.spot = d.scratch := spot_of_writing writing
    have spot' : ({ d with body := d.body ++ data } : Delivery).spot = d.scratch := spot
    refine h.of_changed at_id letsIn deliveries rfl (fun p => ?_) (fun j x hx hlets hj => ?_)
      fun hw => h.unused id d at_id letsIn hw
    · rw [spot', spot, tree]
      by_cases hp : p = d.scratch
      · rw [if_pos hp, hp, Tree.get?_set_self]
      · rw [if_neg hp, if_neg hp, Tree.get?_set_of_ne c.tree _ hp]
    · rw [spot', ← spot]
      exact fun hs => hj (h.apart j id x d hx at_id hlets letsIn hs)
  | filed id d at_id writing letsIn deliveries tree silent =>
    have spot' : ({ d with stage := .committed } : Delivery).spot = d.key.place := rfl
    refine h.of_changed at_id letsIn deliveries rfl (fun p => ?_) (fun j x hx hlets hj => ?_)
      fun hw => by cases hw
    · rw [spot', spot_of_writing writing, tree]
      by_cases hp : p = d.scratch
      · rw [hp, h.unused id d at_id letsIn writing]
      · rw [if_neg hp, if_neg hp]
    · rw [spot']
      cases hw : x.isWriting with
      | true =>
        rw [spot_of_writing hw]
        exact (ResultKey.place_ne_scratchPlace letsIn.1 x.key x.mark).symm
      | false =>
        rw [spot_of_not_writing hw]
        intro hs
        have hkey := distinct x.key hlets.2 d.key letsIn.2 (ResultKey.path_eq_of_place_eq root hs)
        exact hj (once j id x d hx at_id hkey)
  | recorded id d at_id committed letsIn deliveries same record =>
    have spot : d.spot = d.key.place := spot_of_not_writing (isWriting_of_isCommitted committed)
    have spot' : ({ d with stage := .ended (.ok ()) } : Delivery).spot = d.key.place := rfl
    refine h.of_changed at_id letsIn deliveries rfl (fun p => ?_) (fun j x hx hlets hj => ?_)
      fun hw => by cases hw
    · rw [spot', spot, same]
      by_cases hp : p = d.key.place
      · rw [if_pos hp, hp, ← spot, h.bodies id d at_id letsIn]
      · rw [if_neg hp, if_neg hp]
    · rw [spot', ← spot]
      exact fun hs => hj (h.apart j id x d hx at_id hlets letsIn hs)
  | idle deliveries same silent =>
    refine h.of_same same fun id d _ => ?_
    rw [deliveries]

/-- There is as much room as there was. -/
private theorem hasRoomFor (h : Laid expected found c) {k : ResultKey}
    (room : found.hasRoomFor k = true) : c.tree.hasRoomFor k = true := by
  have admits (p : Place) (short : p.length < 2) (hp : found.admitsDirectory p = true) :
      c.tree.admitsDirectory p = true := by
    by_cases hmade : ∃ (id : Nat) (d : Delivery), c.deliveries[id]? = some d ∧
        LetsIn expected d.key ∧ (p = [] ∨ p = [d.key.scope])
    · obtain ⟨id, d, hd, letsIn, hor⟩ := hmade
      have habove := h.above id d hd letsIn
      rcases hor with rfl | rfl
      · rw [Tree.admitsDirectory, habove.1]
      · rw [Tree.admitsDirectory, habove.2]
    · have hsame := h.rest p fun id d hd letsIn => by
        refine ⟨fun hroot => hmade ⟨id, d, hd, letsIn, .inl hroot⟩,
          fun hscope => hmade ⟨id, d, hd, letsIn, .inr hscope⟩, ?_⟩
        rintro rfl
        unfold Delivery.spot at short
        split at short <;> exact absurd short (Nat.lt_irrefl 2)
      rw [Tree.admitsDirectory, hsame]
      exact hp
  have place (hp : found.isDirectory k.place = false) : c.tree.isDirectory k.place = false := by
    by_cases hfiled : ∃ (id : Nat) (d : Delivery), c.deliveries[id]? = some d ∧
        LetsIn expected d.key ∧ k.place = d.spot
    · obtain ⟨id, d, hd, letsIn, hspot⟩ := hfiled
      rw [Tree.isDirectory, hspot, h.bodies id d hd letsIn]
    · have hsame := h.rest k.place fun id d hd letsIn =>
        ⟨List.cons_ne_nil _ _, fun hs => List.cons_ne_nil _ _ (List.cons.inj hs).2,
          fun hspot => hfiled ⟨id, d, hd, letsIn, hspot⟩⟩
      rw [Tree.isDirectory, hsame]
      exact hp
  simp only [Tree.hasRoomFor, Bool.and_eq_true, Bool.not_eq_true'] at room ⊢
  obtain ⟨⟨⟨hroot, hscope⟩, hname⟩, hplace⟩ := room
  exact ⟨⟨⟨admits [] (by decide) hroot, admits _ (Nat.lt_succ_self 1) hscope⟩, hname⟩, place hplace⟩

end Laid

/-! ### Every step advances -/

/-- What is opened for a key that is not let in is answered by what is wrong with the key. -/
private theorem openResult_of_not_letsIn (ordered : Orderly expected records c) {k : ResultKey}
    (refused : ¬ LetsIn expected k) (isFailure : Bool) (body : ByteArray) (mark : String) :
    c.openResult k isFailure body mark =
      c.answerAtOnce k isFailure body mark (finalAnswer expected k) := by
  unfold openResult finalAnswer
  cases hcheck : k.check with
  | error err => rfl
  | ok u =>
    have hmem : k ∉ expected := fun hmem => refused ⟨k.check_eq_ok_iff.mp hcheck, hmem⟩
    rw [if_neg hmem]
    dsimp only
    rw [ordered.receipt?_eq_none_iff.mpr hmem]

/-- What is opened for a key that is let in begins to be written, if there is room and the key has not been
recorded. -/
private theorem advances_of_letsIn (ordered : Orderly expected records c) {k : ResultKey}
    (letsIn : LetsIn expected k) (unrecorded : records.lookup k = none)
    (room : c.tree.hasRoomFor k = true) {isFailure : Bool} {body : ByteArray} {mark : String}
    (may : c.mayOpen k isFailure mark = true) :
    Advances expected c (.openResult k isFailure body mark) (c.openResult k isFailure body mark) := by
  have wanted : c.wants k isFailure = true := by
    have hreceipt := ordered.receipt?_eq k
    rw [if_pos letsIn.2, Ledger.receiptAfter, unrecorded] at hreceipt
    rw [wants, hreceipt]
    rfl
  have hopens := opens body may
  generalize c.openResult k isFailure body mark = c' at hopens
  cases hopens with
  | answered outcome unwanted => exact absurd ⟨letsIn.1, wanted⟩ unwanted
  | begun valid wanted free short unused begins =>
    cases begins with
    | hindered cause tree full made =>
      rw [room] at full
      cases full
    | underWay tree made hroom => exact .begun _ tree rfl rfl letsIn unused made rfl rfl

/-- An event that is about no delivery records nothing. -/
private theorem recordOf_of_unsubjected (unsubjected : c.subject? e = none) : c.recordOf e = [] := by
  cases e with
  | record id => cases unsubjected
  | _ => rfl

/-- An event that acts on a delivery that has been let in advances it, unless it breaks it off. -/
private theorem Acts.advances {id : Nat} {d : Delivery} (acts : Acts c id d e c')
    (at_id : c.deliveries[id]? = some d) (letsIn : LetsIn expected d.key) {found : Tree}
    (laid : Laid expected found c) (room : c.tree.hasRoomFor d.key = true)
    (steady : e.isSteady = true) : Advances expected c e c' := by
  have body (writing : d.isWriting = true) : c.tree.content? d.scratch = some d.body := by
    have hbody := laid.bodies id d at_id letsIn
    rw [spot_of_writing writing] at hbody
    rw [Tree.content?, hbody]
  cases acts with
  | write data writing remote =>
    refine .wrote id d data at_id writing letsIn (deliveries_write c id d data) ?_ rfl
    have hsome : (c.tree.content? d.scratch).isSome = true := by rw [body writing]; rfl
    exact congrArg Collector.tree (if_pos hsome)
  | breakOff text writing => cases steady
  | cancel writing => cases steady
  | abandon committed => cases steady
  | commit writing =>
    have free : c.tree.isDirectory d.key.place = false := by
      simp only [Tree.hasRoomFor, Bool.and_eq_true, Bool.not_eq_true'] at room
      exact room.2
    cases hmove : c.tree.rename d.scratch d.key.place with
    | error f =>
      simp only [Tree.rename, body writing, free] at hmove
      cases hmove
    | ok tree =>
      have heq : c.commit id d = { c.setDelivery id { d with stage := .committed } with tree := tree } := by
        rw [Collector.commit, hmove]
      rw [heq]
      obtain ⟨b, hb, hget⟩ := Tree.get?_rename hmove
      obtain rfl : d.body = b := Option.some.inj ((body writing).symm.trans hb)
      exact .filed id d at_id writing letsIn rfl hget rfl
  | record committed =>
    exact .recorded id d at_id committed letsIn (deliveries_record c id d) (tree_record c id d)
      (recordOf_record at_id)

section

variable {found : Tree}

/-- The run from the tree that was found is one in which somebody else has put it there first. -/
theorem run?_disturb (h : (startIn root expected found).run? events = some c) :
    (start root expected).run? (.disturb found :: events) = some c := h

variable (distinct : ∀ k ∈ expected, ∀ j ∈ expected, k.path root = j.path root → k = j)

/-- While each key is delivered once and there is room, every steady event advances the deliveries. -/
private theorem advances_of_step? (h : (startIn root expected found).run? events = some c)
    (noted : Noted expected ((startIn root expected found).recordings events) c)
    (laid : Laid expected found c) (he : c.step? e = some c') (steady : e.isSteady = true)
    (once : OnePerKey c') (room : RoomForAll expected found c') : Advances expected c e c' := by
  have ordered : Orderly expected ((startIn root expected found).recordings events) c :=
    orderly_run (run?_disturb h)
  have m := move_of_step? he
  cases does_of_step? he with
  | @opened k isFailure body mark =>
    simp only [step?] at he
    split at he
    · next may =>
      obtain ⟨stage, hopened⟩ := opened_move m
      have at_end : (c.openResult k isFailure body mark).deliveries[c.deliveries.length]? =
          some ⟨k, isFailure, body, mark, stage⟩ := by
        rw [hopened, List.getElem?_concat_length]
      by_cases letsIn : LetsIn expected k
      · refine advances_of_letsIn ordered letsIn ?_ (laid.hasRoomFor (room _ _ at_end letsIn)) may
        cases hl : ((startIn root expected found).recordings events).lookup k with
        | none => rfl
        | some b =>
          obtain ⟨id, x, hx, hkey, -⟩ := noted.known k b hl
          have hlt := (List.getElem?_eq_some_iff.mp hx).1
          have hlast := once id c.deliveries.length x _
            (hopened ▸ getElem?_append_left_of_some hx) at_end hkey
          omega
      · rw [openResult_of_not_letsIn ordered letsIn]
        exact .refused _ rfl rfl letsIn rfl rfl
    · cases he
  | acted id d at_id acts =>
    have admits := admitted_run (run?_disturb h) id d at_id acts.isOpen
    have letsIn : LetsIn expected d.key := ⟨admits.valid, admits.expects⟩
    obtain ⟨d', hd', hkey, -⟩ := kept_move m at_id
    exact acts.advances at_id letsIn laid (laid.hasRoomFor (hkey ▸ room id d' hd' (hkey ▸ letsIn))) steady
  | other same unsubjected =>
    refine .idle same (tree_of_unsubjected he unsubjected ?_) (recordOf_of_unsubjected unsubjected)
    rintro tree rfl
    cases steady

include distinct

/-- At every state of such a run the records and the tree can be told from the deliveries. -/
theorem ongoing_run (h : (startIn root expected found).run? events = some c)
    (steady : ∀ e ∈ events, e.isSteady = true) (once : OnePerKey c)
    (room : RoomForAll expected found c) :
    Noted expected ((startIn root expected found).recordings events) c ∧ Laid expected found c := by
  revert steady once room
  refine Machine.run?_induction
    (P := fun es c => (∀ e ∈ es, e.isSteady = true) → OnePerKey c → RoomForAll expected found c →
      Noted expected ((startIn root expected found).recordings es) c ∧ Laid expected found c) ?_ ?_ h
  · intro _ _ _
    constructor
    · exact ⟨by simp [startIn, start], by simp [startIn, start], by simp [recordings, Machine.history]⟩
    · exact ⟨by simp [startIn, start], by simp [startIn, start], fun _ _ => rfl,
        by simp [startIn, start], by simp [startIn, start]⟩
  · intro es s e s' hs ih he steady once room
    have m := move_of_step? he
    -- Deliveries stay and keep their keys, so what holds of all of them afterwards held before.
    have once_before : OnePerKey s := by
      intro i j d d' hd hd' hkey
      obtain ⟨x, hx, hkx, -⟩ := kept_move m hd
      obtain ⟨x', hx', hkx', -⟩ := kept_move m hd'
      exact once i j x x' hx hx' (hkx.trans (hkey.trans hkx'.symm))
    have room_before : RoomForAll expected found s := by
      intro id d hd letsIn
      obtain ⟨x, hx, hkey, -⟩ := kept_move m hd
      exact hkey ▸ room id x hx (hkey ▸ letsIn)
    obtain ⟨noted, laid⟩ :=
      ih (fun a ha => steady a (List.mem_append_left _ ha)) once_before room_before
    have a := advances_of_step? hs noted laid he (steady e (by simp)) once room
    rw [recordings, Machine.history_concat recordOf hs he]
    exact ⟨noted.advance once_before a, laid.advance a distinct once_before⟩

end

end Collector

end ClusterSurvey
