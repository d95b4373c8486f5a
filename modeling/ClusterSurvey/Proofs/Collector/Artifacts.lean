import ClusterSurvey.Proofs.Collector.Counting
import ClusterSurvey.Storage.Lookup

/-!
# Filing results

A body grows in a scratch file that nobody else writes, and comes to the place of its key in one move.
So whatever goes on at a collector, what lies at the place of a key is the whole body of the delivery
that was moved there last, and every scratch file belongs to a delivery whose body is being written.
-/

namespace ClusterSurvey

/-- The name of a scratch file cannot stand for a result. -/
theorem isSegment_scratchName (resultType mark : String) :
    isSegment (scratchName resultType mark) = false := by
  have hlist : (scratchName resultType mark).toList =
      '.' :: (resultType ++ "." ++ mark ++ ".partial").toList := by
    simp [scratchName, String.toList_append]
  simp only [isSegment, hlist]
  simp

namespace ResultKey

/-- The results of a valid key are not filed where bodies are written. -/
theorem place_ne_scratchPlace {k : ResultKey} (valid : k.isValid = true) (j : ResultKey)
    (mark : String) : k.place ≠ j.scratchPlace mark := by
  intro h
  have htype : k.resultType = scratchName j.resultType mark := (List.cons.inj (List.cons.inj h).2).1
  have hsegment : isSegment k.resultType = true := (Bool.and_eq_true_iff.mp valid).2
  rw [htype, isSegment_scratchName] at hsegment
  cases hsegment

/-- Keys whose results are filed at the same place have the same path. -/
theorem path_eq_of_place_eq {k j : ResultKey} (root : String) (h : k.place = j.place) :
    k.path root = j.path root := by
  obtain ⟨hscope, hrest⟩ := List.cons.inj h
  rw [path, path, directoryPath, directoryPath, hscope, (List.cons.inj hrest).1]

end ResultKey

namespace Collector

variable {root : String} {expected : List ResultKey} {records : List (ResultKey × Bool)}
variable {filed : List (ResultKey × Nat)} {sent : Nat → List ByteArray}
variable {c c' : Collector} {e : Event} {events : List Event}

/-- The deliveries of a run that were moved into place, each with its key. -/
def filings (c : Collector) (events : List Event) : List (ResultKey × Nat) :=
  Machine.history step? filingOf c events

/-- The pieces of a body that came in a run. -/
def pieces (c : Collector) (events : List Event) (id : Nat) : List ByteArray :=
  Machine.history step? (pieceOf id) c events

/-- The delivery that was moved last to the place of a key. -/
def lastFiled? (filed : List (ResultKey × Nat)) (k : ResultKey) : Option Nat :=
  filed.reverse.lookup k

/-- Pieces put together. -/
def joined (pieces : List ByteArray) : ByteArray := pieces.foldl (· ++ ·) .empty

/-- A further piece is added at the end. -/
theorem joined_concat (pieces : List ByteArray) (b : ByteArray) :
    joined (pieces ++ [b]) = joined pieces ++ b := by
  simp [joined, List.foldl_append]

/-! ### Bodies -/

/-- Every delivery has the body that has come for it. -/
structure Bodied (sent : Nat → List ByteArray) (c : Collector) : Prop where
  bodies : ∀ (id : Nat) (d : Delivery), c.deliveries[id]? = some d → d.body = joined (sent id)
  unopened : ∀ id, c.deliveries.length ≤ id → sent id = []

namespace Bodied

private theorem of_opened {key : ResultKey} {isFailure : Bool} {body : ByteArray} {mark : String}
    {d : Delivery} (h : Bodied sent c) (hbody : d.body = body)
    (deliveries : c'.deliveries = c.deliveries ++ [d]) :
    Bodied (fun id => sent id ++ pieceOf id c (.openResult key isFailure body mark)) c' where
  bodies id d' hd' := by
    rw [deliveries] at hd'
    obtain hd | ⟨rfl, rfl⟩ := getElem?_concat hd'
    · have hne : ¬ id = c.deliveries.length := by
        have hlt := (List.getElem?_eq_some_iff.mp hd).1
        omega
      simp only [pieceOf, if_neg hne, List.append_nil]
      exact h.bodies id d' hd
    · simp only [pieceOf, if_true, h.unopened _ (Nat.le_refl _), joined_concat, hbody]
      simp [joined]
  unopened id hid := by
    rw [deliveries, List.length_append, List.length_singleton] at hid
    have hne : ¬ id = c.deliveries.length := by omega
    simp only [pieceOf, if_neg hne, List.append_nil]
    exact h.unopened id (by omega)

private theorem of_set {i : Nat} {d d' : Delivery} {e : Event} (h : Bodied sent c)
    (at_i : c.deliveries[i]? = some d) (deliveries : c'.deliveries = c.deliveries.set i d')
    (here : d'.body = joined (sent i ++ pieceOf i c e))
    (elsewhere : ∀ id, id ≠ i → pieceOf id c e = []) :
    Bodied (fun id => sent id ++ pieceOf id c e) c' where
  bodies id x hx := by
    rw [deliveries] at hx
    obtain ⟨hid, hd⟩ | ⟨rfl, rfl⟩ := getElem?_set hx
    · rw [elsewhere id hid, List.append_nil]
      exact h.bodies id x hd
    · exact here
  unopened id hid := by
    rw [deliveries, List.length_set] at hid
    have hlt := (List.getElem?_eq_some_iff.mp at_i).1
    rw [elsewhere id (by omega), List.append_nil]
    exact h.unopened id hid

private theorem of_stage {i : Nat} {d : Delivery} {stage : Stage} {e : Event} (h : Bodied sent c)
    (at_i : c.deliveries[i]? = some d)
    (deliveries : c'.deliveries = c.deliveries.set i { d with stage := stage })
    (silent : ∀ id, pieceOf id c e = []) :
    Bodied (fun id => sent id ++ pieceOf id c e) c' := by
  refine h.of_set at_i deliveries ?_ fun id _ => silent id
  rw [silent i, List.append_nil]
  exact h.bodies i d at_i

private theorem of_same {e : Event} (h : Bodied sent c) (deliveries : c'.deliveries = c.deliveries)
    (silent : ∀ id, pieceOf id c e = []) :
    Bodied (fun id => sent id ++ pieceOf id c e) c' := by
  simp only [silent, List.append_nil]
  exact ⟨by rw [deliveries]; exact h.bodies, by rw [deliveries]; exact h.unopened⟩

/-- An event adds its pieces to the bodies. -/
theorem move (h : Bodied sent c) (m : Move c e c') :
    Bodied (fun id => sent id ++ pieceOf id c e) c' := by
  cases m with
  | answered outcome tree files => exact h.of_opened rfl rfl
  | begun tree valid wanted free unused files => exact h.of_opened rfl rfl
  | wrote d tree at_id writing remote files =>
    refine h.of_set at_id rfl ?_ fun id hid => by simp only [pieceOf, if_neg hid]
    simp only [pieceOf, if_true, joined_concat, h.bodies _ d at_id]
  | gaveUp i d stage at_id writing closed silent => exact h.of_stage at_id rfl silent.pieces
  | committed d tree at_id writing moved => exact h.of_stage at_id rfl fun _ => rfl
  | abandoned d at_id committed remote => exact h.of_stage at_id rfl fun _ => rfl
  | repeated d at_id committed free remote received => exact h.of_stage at_id rfl fun _ => rfl
  | counted d at_id committed free first => exact h.of_stage at_id rfl fun _ => rfl
  | waited waits change => exact h.of_same rfl change.silent.pieces
  | disturbed tree => exact h.of_same rfl fun _ => rfl

end Bodied

/-- At every state of a run the deliveries have the bodies that have come for them. -/
theorem bodied_run (h : (start root expected).run? events = some c) :
    Bodied ((start root expected).pieces events) c := by
  refine Machine.run?_induction
    (P := fun es c => Bodied ((start root expected).pieces es) c) ⟨by simp [start], fun _ _ => rfl⟩
    ?_ h
  intro es s e s' hs ih he
  have hpieces : (start root expected).pieces (es ++ [e]) =
      fun id => (start root expected).pieces es id ++ pieceOf id s e := by
    funext id
    exact Machine.history_concat (pieceOf id) hs he
  rw [hpieces]
  exact ih.move (move_of_step? he)

/-! ### Deliveries that are no more written -/

private theorem settled_set {id i : Nat} {d x x' : Delivery} (hd : c.deliveries[id]? = some d)
    (hw : d.isWriting = false) (hx : c.deliveries[i]? = some x)
    (change : x.isWriting = true ∨
      (x'.key = x.key ∧ x'.body = x.body ∧ x'.isWriting = false)) :
    ∃ d', (c.deliveries.set i x')[id]? = some d' ∧ d'.key = d.key ∧ d'.body = d.body ∧
      d'.isWriting = false := by
  by_cases hid : i = id
  · subst hid
    obtain rfl : d = x := Option.some.inj (hd.symm.trans hx)
    rcases change with hwriting | ⟨hkey, hbody, hsettled⟩
    · rw [hw] at hwriting
      cases hwriting
    · exact ⟨x', getElem?_set_self_of_some hd, hkey, hbody, hsettled⟩
  · exact ⟨d, by rw [List.getElem?_set_ne hid, hd], rfl, rfl, hw⟩

/-- A delivery that is no more written keeps its key and its body. -/
theorem settled_move (m : Move c e c') {id : Nat} {d : Delivery} (hd : c.deliveries[id]? = some d)
    (hw : d.isWriting = false) :
    ∃ d', c'.deliveries[id]? = some d' ∧ d'.key = d.key ∧ d'.body = d.body ∧
      d'.isWriting = false := by
  cases m with
  | answered outcome tree files => exact ⟨d, getElem?_append_left_of_some hd, rfl, rfl, hw⟩
  | begun tree valid wanted free unused files =>
    exact ⟨d, getElem?_append_left_of_some hd, rfl, rfl, hw⟩
  | wrote x tree at_id writing remote files => exact settled_set hd hw at_id (.inl writing)
  | gaveUp i x stage at_id writing closed silent => exact settled_set hd hw at_id (.inl writing)
  | committed x tree at_id writing moved => exact settled_set hd hw at_id (.inl writing)
  | abandoned x at_id committed remote => exact settled_set hd hw at_id (.inr ⟨rfl, rfl, rfl⟩)
  | repeated x at_id committed free remote received =>
    exact settled_set hd hw at_id (.inr ⟨rfl, rfl, rfl⟩)
  | counted x at_id committed free first => exact settled_set hd hw at_id (.inr ⟨rfl, rfl, rfl⟩)
  | waited waits change => exact ⟨d, hd, rfl, rfl, hw⟩
  | disturbed tree => exact ⟨d, hd, rfl, rfl, hw⟩

/-! ### Scratch files -/

/-- Every body that is being written has a scratch file of its own, and there are no other ones. -/
structure Scratched (c : Collector) : Prop where
  valid : ∀ (id : Nat) (d : Delivery), c.deliveries[id]? = some d → d.isWriting = true →
    d.key.isValid = true
  content : ∀ (id : Nat) (d : Delivery), c.deliveries[id]? = some d → d.isWriting = true →
    c.tree.content? d.scratch = some d.body
  apart : ∀ (i j : Nat) (d d' : Delivery), c.deliveries[i]? = some d → c.deliveries[j]? = some d' →
    d.isWriting = true → d'.isWriting = true → d.scratch = d'.scratch → i = j
  owner : ∀ (k : ResultKey) (mark : String), c.tree.content? (k.scratchPlace mark) ≠ none →
    ∃ (id : Nat) (d : Delivery), c.deliveries[id]? = some d ∧ d.isWriting = true ∧
      d.scratch = k.scratchPlace mark

/-- Whether an event spares what a run has filed.  Others may take a result away or obstruct its
place, but they put no file there and leave the scratch files alone. -/
def Spares (expected : List ResultKey) (c : Collector) : Event → Prop
  | .disturb tree =>
    (∀ k ∈ expected, tree.content? k.place = c.tree.content? k.place ∨
      tree.content? k.place = none) ∧
    ∀ (k : ResultKey) (mark : String),
      tree.content? (k.scratchPlace mark) = c.tree.content? (k.scratchPlace mark)
  | _ => True

namespace Scratched

/-- A state in which the same bodies are being written, to the same files. -/
private theorem of_same (h : Scratched c)
    (deliveries : ∀ (id : Nat) (d : Delivery), d.isWriting = true →
      (c'.deliveries[id]? = some d ↔ c.deliveries[id]? = some d))
    (files : ∀ (k : ResultKey) (mark : String),
      c'.tree.content? (k.scratchPlace mark) = c.tree.content? (k.scratchPlace mark)) :
    Scratched c' where
  valid id d hd hw := h.valid id d ((deliveries id d hw).mp hd) hw
  content id d hd hw := by
    rw [Delivery.scratch, files]
    exact h.content id d ((deliveries id d hw).mp hd) hw
  apart i j d d' hd hd' hw hw' :=
    h.apart i j d d' ((deliveries i d hw).mp hd) ((deliveries j d' hw').mp hd') hw hw'
  owner k mark hk := by
    rw [files] at hk
    obtain ⟨id, d, hd, hw, hs⟩ := h.owner k mark hk
    exact ⟨id, d, (deliveries id d hw).mpr hd, hw, hs⟩

private theorem of_begun {key : ResultKey} {isFailure : Bool} {body : ByteArray} {mark : String}
    (h : Scratched c) (valid : key.isValid = true)
    (unused : c.tree.get? (key.scratchPlace mark) = none)
    (deliveries : c'.deliveries = c.deliveries ++ [⟨key, isFailure, body, mark, .writing⟩])
    (files : ∀ p, c'.tree.content? p =
      if p = key.scratchPlace mark then some body else c.tree.content? p) :
    Scratched c' := by
  have other {id : Nat} {d : Delivery} (hd : c.deliveries[id]? = some d) (hw : d.isWriting = true) :
      d.scratch ≠ key.scratchPlace mark := by
    intro hs
    have hcontent := h.content id d hd hw
    rw [hs, Tree.content?, unused] at hcontent
    cases hcontent
  constructor
  · intro id d hd hw
    rw [deliveries] at hd
    obtain hd | ⟨-, rfl⟩ := getElem?_concat hd
    · exact h.valid id d hd hw
    · exact valid
  · intro id d hd hw
    rw [deliveries] at hd
    obtain hd | ⟨-, rfl⟩ := getElem?_concat hd
    · rw [files, if_neg (other hd hw)]
      exact h.content id d hd hw
    · have here := files (key.scratchPlace mark)
      rw [if_pos rfl] at here
      exact here
  · intro i j d d' hd hd' hw hw' hs
    rw [deliveries] at hd hd'
    obtain hd | ⟨rfl, rfl⟩ := getElem?_concat hd <;> obtain hd' | ⟨rfl, rfl⟩ := getElem?_concat hd'
    · exact h.apart i j d d' hd hd' hw hw' hs
    · exact absurd hs (other hd hw)
    · exact absurd hs.symm (other hd' hw')
    · rfl
  · intro k m hk
    rw [deliveries]
    by_cases hp : k.scratchPlace m = key.scratchPlace mark
    · exact ⟨c.deliveries.length, _, List.getElem?_concat_length, rfl, hp.symm⟩
    · rw [files, if_neg hp] at hk
      obtain ⟨id, d, hd, hw, hs⟩ := h.owner k m hk
      exact ⟨id, d, getElem?_append_left_of_some hd, hw, hs⟩

private theorem of_wrote {i : Nat} {d : Delivery} {data : ByteArray} (h : Scratched c)
    (at_i : c.deliveries[i]? = some d) (writing : d.isWriting = true)
    (deliveries : c'.deliveries = c.deliveries.set i { d with body := d.body ++ data })
    (files : ∀ p, c'.tree.content? p =
      if p = d.scratch then (c.tree.content? p).map fun _ => d.body ++ data
      else c.tree.content? p) :
    Scratched c' := by
  have before {id : Nat} {x : Delivery} (hx : c'.deliveries[id]? = some x) :
      ∃ y, c.deliveries[id]? = some y ∧ y.key = x.key ∧ y.mark = x.mark ∧ y.stage = x.stage := by
    rw [deliveries] at hx
    obtain ⟨-, hx⟩ | ⟨rfl, rfl⟩ := getElem?_set hx
    · exact ⟨x, hx, rfl, rfl, rfl⟩
    · exact ⟨d, at_i, rfl, rfl, rfl⟩
  have writing_of {x y : Delivery} (hs : y.stage = x.stage) (hw : x.isWriting = true) :
      y.isWriting = true := by
    rw [Delivery.isWriting, hs]
    exact hw
  have scratch_of {x y : Delivery} (hk : y.key = x.key) (hm : y.mark = x.mark) :
      y.scratch = x.scratch := by
    rw [Delivery.scratch, Delivery.scratch, hk, hm]
  constructor
  · intro id x hx hw
    obtain ⟨y, hy, hk, -, hs⟩ := before hx
    exact hk ▸ h.valid id y hy (writing_of hs hw)
  · intro id x hx hw
    rw [deliveries] at hx
    obtain ⟨hid, hx⟩ | ⟨rfl, rfl⟩ := getElem?_set hx
    · have hne : x.scratch ≠ d.scratch := fun hs => hid (h.apart id i x d hx at_i hw writing hs)
      rw [files, if_neg hne]
      exact h.content id x hx hw
    · have here := files d.scratch
      rw [if_pos rfl, h.content id d at_i writing] at here
      exact here
  · intro j l x x' hx hx' hw hw' hs
    obtain ⟨y, hy, hk, hm, hstage⟩ := before hx
    obtain ⟨y', hy', hk', hm', hstage'⟩ := before hx'
    refine h.apart j l y y' hy hy' (writing_of hstage hw) (writing_of hstage' hw') ?_
    rw [scratch_of hk hm, hs, scratch_of hk' hm']
  · intro k mark hk
    have hk' : c.tree.content? (k.scratchPlace mark) ≠ none := by
      intro hnone
      rw [files, hnone] at hk
      simp at hk
    obtain ⟨id, x, hx, hw, hs⟩ := h.owner k mark hk'
    rw [deliveries]
    by_cases hid : i = id
    · subst hid
      obtain rfl : d = x := Option.some.inj (at_i.symm.trans hx)
      exact ⟨i, _, getElem?_set_self_of_some at_i, writing, hs⟩
    · exact ⟨id, x, by rw [List.getElem?_set_ne hid, hx], hw, hs⟩

/-- A delivery that stops to be written leaves no scratch file. -/
private theorem of_stopped {i : Nat} {d d' : Delivery} (h : Scratched c)
    (at_i : c.deliveries[i]? = some d) (writing : d.isWriting = true) (stopped : d'.isWriting = false)
    (deliveries : c'.deliveries = c.deliveries.set i d')
    (gone : c'.tree.content? d.scratch = none)
    (files : ∀ (k : ResultKey) (mark : String), k.scratchPlace mark ≠ d.scratch →
      c'.tree.content? (k.scratchPlace mark) = c.tree.content? (k.scratchPlace mark)) :
    Scratched c' := by
  have before {id : Nat} {x : Delivery} (hx : c'.deliveries[id]? = some x)
      (hw : x.isWriting = true) : id ≠ i ∧ c.deliveries[id]? = some x := by
    rw [deliveries] at hx
    exact getElem?_set_of_lost Delivery.isWriting stopped hx hw
  constructor
  · intro id x hx hw
    exact h.valid id x (before hx hw).2 hw
  · intro id x hx hw
    obtain ⟨hid, hx⟩ := before hx hw
    have hne : x.scratch ≠ d.scratch := fun hs => hid (h.apart id i x d hx at_i hw writing hs)
    rw [Delivery.scratch, files _ _ hne]
    exact h.content id x hx hw
  · intro j l x x' hx hx' hw hw' hs
    exact h.apart j l x x' (before hx hw).2 (before hx' hw').2 hw hw' hs
  · intro k mark hk
    have hne : k.scratchPlace mark ≠ d.scratch := by
      intro hs
      rw [hs, gone] at hk
      exact hk rfl
    rw [files k mark hne] at hk
    obtain ⟨id, x, hx, hw, hs⟩ := h.owner k mark hk
    have hid : i ≠ id := by
      rintro rfl
      obtain rfl : d = x := Option.some.inj (at_i.symm.trans hx)
      exact hne hs.symm
    exact ⟨id, x, by rw [deliveries, List.getElem?_set_ne hid, hx], hw, hs⟩

private theorem writing_set_iff {i id : Nat} {d d' x : Delivery} (at_i : c.deliveries[i]? = some d)
    (before : d.isWriting = false) (after : d'.isWriting = false) (hw : x.isWriting = true) :
    (c.deliveries.set i d')[id]? = some x ↔ c.deliveries[id]? = some x := by
  constructor
  · intro hx
    exact (getElem?_set_of_lost Delivery.isWriting after hx hw).2
  · intro hx
    have hid : i ≠ id := by
      rintro rfl
      obtain rfl : d = x := Option.some.inj (at_i.symm.trans hx)
      rw [before] at hw
      cases hw
    rw [List.getElem?_set_ne hid, hx]

/-- A file that is moved to the place of a result leaves the scratch files of the others. -/
private theorem content?_scratch_rename {d : Delivery} {tree : Tree} (h : Scratched c) {i : Nat}
    (at_i : c.deliveries[i]? = some d) (writing : d.isWriting = true)
    (moved : c.tree.rename d.scratch d.key.place = .ok tree) (k : ResultKey) (mark : String) :
    tree.content? (k.scratchPlace mark) =
      if k.scratchPlace mark = d.scratch then none else c.tree.content? (k.scratchPlace mark) := by
  have hne := (ResultKey.place_ne_scratchPlace (h.valid i d at_i writing) k mark).symm
  rw [Tree.content?_rename (h.content i d at_i writing) moved, if_neg hne]

/-- Every event leaves the scratch files to their bodies. -/
theorem move (h : Scratched c) (m : Move c e c') (spares : Spares expected c e) : Scratched c' := by
  cases m with
  | answered outcome tree files =>
    refine h.of_same (fun id d hw => ⟨fun hd => ?_, getElem?_append_left_of_some⟩)
      fun k mark => files _
    obtain hd | ⟨-, rfl⟩ := getElem?_concat hd
    · exact hd
    · cases hw
  | begun tree valid wanted free unused files => exact h.of_begun valid unused rfl files
  | wrote d tree at_id writing remote files => exact h.of_wrote at_id writing rfl files
  | gaveUp i d stage at_id writing closed silent =>
    have hstage : ({ d with stage := stage } : Delivery).isWriting = false := by
      rcases closed with ⟨rfl, -⟩ | ⟨err, rfl⟩ <;> rfl
    exact h.of_stopped at_id writing hstage rfl (Tree.content?_erase_self c.tree d.scratch)
      fun k mark hne => Tree.content?_erase_of_ne c.tree hne
  | committed d tree at_id writing moved =>
    have files := h.content?_scratch_rename at_id writing moved
    refine h.of_stopped at_id writing rfl rfl ?_ fun k mark hne => by rw [files, if_neg hne]
    rw [Delivery.scratch, files, Delivery.scratch, if_pos rfl]
  | abandoned d at_id committed remote =>
    have hd := isWriting_of_isCommitted committed
    exact h.of_same (fun id x hw => writing_set_iff at_id hd rfl hw) fun _ _ => rfl
  | repeated d at_id committed free remote received =>
    have hd := isWriting_of_isCommitted committed
    exact h.of_same (fun id x hw => writing_set_iff at_id hd rfl hw) fun _ _ => rfl
  | counted d at_id committed free first =>
    have hd := isWriting_of_isCommitted committed
    exact h.of_same (fun id x hw => writing_set_iff at_id hd rfl hw) fun _ _ => rfl
  | waited waits change => exact h.of_same (fun _ _ _ => Iff.rfl) fun _ _ => rfl
  | disturbed tree => exact h.of_same (fun _ _ _ => Iff.rfl) spares.2

end Scratched

/-- There are no scratch files at the start. -/
theorem scratched_start (root : String) (expected : List ResultKey) : Scratched (start root expected) :=
  ⟨by simp [start], by simp [start], by simp [start], by simp [start]⟩

/-- The scratch files of every run go with the bodies that are being written. -/
theorem scratched_run {spared : List ResultKey} (h : (start root expected).run? events = some c)
    (spares : Machine.Along step? (Spares spared) (start root expected) events) : Scratched c := by
  revert spares
  refine Machine.run?_induction
    (P := fun es c => Machine.Along step? (Spares spared) (start root expected) es → Scratched c)
    (fun _ => scratched_start root expected) ?_ h
  intro es s e s' hs ih he spares
  obtain ⟨hbefore, hnow⟩ := (Machine.along_concat hs).mp spares
  exact (ih hbefore).move (move_of_step? he) hnow

/-! ### Results -/

/-- Whether what lies at the place of a key is whole: nothing, or the body of the delivery that was
moved there last. -/
def IsWhole (filed : List (ResultKey × Nat)) (c : Collector) (k : ResultKey) : Prop :=
  c.tree.content? k.place = none ∨
    ∃ id d, lastFiled? filed k = some id ∧ c.deliveries[id]? = some d ∧ d.key = k ∧
      d.isWriting = false ∧ c.tree.content? k.place = some d.body

private theorem lastFiled?_append (filed : List (ResultKey × Nat)) {more : List (ResultKey × Nat)}
    {k : ResultKey} (h : ∀ id, (k, id) ∉ more) :
    lastFiled? (filed ++ more) k = lastFiled? filed k := by
  rw [lastFiled?, List.reverse_append, List.lookup_append]
  have hnone : more.reverse.lookup k = none := by
    rw [List.lookup_eq_none_iff]
    intro p hp
    have hmem := List.mem_reverse.mp hp
    rw [bne_iff_ne]
    rintro rfl
    exact h p.2 hmem
  rw [hnone, Option.none_or]
  rfl

private theorem lastFiled?_concat (filed : List (ResultKey × Nat)) (k : ResultKey) (id : Nat) :
    lastFiled? (filed ++ [(k, id)]) k = some id := by
  simp [lastFiled?]

/-- What has happened when a delivery of a key is moved into place. -/
theorem filing_move (scratched : Scratched c) (m : Move c e c') {k : ResultKey} {id : Nat}
    (h : (k, id) ∈ c.filingOf e) :
    c.filingOf e = [(k, id)] ∧ ∃ d, c'.deliveries[id]? = some d ∧ d.key = k ∧
      d.isWriting = false ∧ c'.tree.content? k.place = some d.body := by
  obtain ⟨rfl, d, tree, at_id, rfl, writing, moved, rfl⟩ := filing_inv m h
  refine ⟨filingOf_commit at_id moved, { d with stage := .committed },
    getElem?_set_self_of_some at_id, rfl, rfl, ?_⟩
  rw [Tree.content?_rename (scratched.content _ d at_id writing) moved, if_pos rfl]

/-- A result stays whole while its file stays as it is and no other one is moved there. -/
private theorem isWhole_of_eq {k : ResultKey} {more : List (ResultKey × Nat)}
    (h : IsWhole filed c k) (m : Move c e c') (unfiled : ∀ id, (k, id) ∉ more)
    (same : c'.tree.content? k.place = c.tree.content? k.place) :
    IsWhole (filed ++ more) c' k := by
  rcases h with hnone | ⟨id, d, hl, hd, hk, hw, hb⟩
  · exact .inl (same.trans hnone)
  · obtain ⟨d', hd', hk', hb', hw'⟩ := settled_move m hd hw
    refine .inr ⟨id, d', ?_, hd', hk'.trans hk, hw', ?_⟩
    · rw [lastFiled?_append filed unfiled, hl]
    · rw [same, hb, hb']

/-- Only what a run expects is moved into place. -/
private theorem expected_of_filing (ordered : Orderly expected records c) (m : Move c e c')
    {k : ResultKey} {id : Nat} (h : (k, id) ∈ c.filingOf e) : k ∈ expected := by
  obtain ⟨-, d, -, hd, rfl, writing, -⟩ := filing_inv m h
  exact ordered.owed id d hd (isOpen_of_isWriting writing)

/-- Only results of valid keys that a run expects are moved into place. -/
theorem filed_run {spared : List ResultKey} (h : (start root expected).run? events = some c)
    (spares : Machine.Along step? (Spares spared) (start root expected) events) :
    ∀ p ∈ (start root expected).filings events, p.1 ∈ expected ∧ p.1.isValid = true := by
  revert spares
  refine Machine.run?_induction
    (P := fun es _ => Machine.Along step? (Spares spared) (start root expected) es →
      ∀ p ∈ (start root expected).filings es, p.1 ∈ expected ∧ p.1.isValid = true)
    (fun _ p hp => by cases hp) ?_ h
  intro es s e s' hs ih he spares p hp
  have hbefore := ((Machine.along_concat hs).mp spares).1
  rw [filings, Machine.history_concat filingOf hs he] at hp
  rcases List.mem_append.mp hp with hp | hp
  · exact ih hbefore p hp
  · have m := move_of_step? he
    obtain ⟨-, d, -, at_id, hkey, writing, -⟩ := filing_inv m hp
    exact ⟨expected_of_filing (orderly_run hs) m hp,
      hkey ▸ (scratched_run hs hbefore).valid p.2 d at_id writing⟩

/-- What lies at a place where no body is written changes only if something is moved there. -/
theorem content?_move (m : Move c e c') (calm : ∀ tree, e ≠ .disturb tree) {p : Place}
    (own : ∀ (j : ResultKey) (mark : String), p ≠ j.scratchPlace mark)
    (unfiled : ∀ j id, (j, id) ∈ c.filingOf e → p ≠ j.place) :
    c'.tree.content? p = c.tree.content? p := by
  cases m with
  | answered outcome tree files => exact files p
  | begun tree valid wanted free unused files => rw [files, if_neg (own _ _)]
  | wrote d tree at_id writing remote files => rw [files, Delivery.scratch, if_neg (own _ _)]
  | gaveUp i d stage at_id writing closed silent =>
    exact Tree.content?_erase_of_ne c.tree (own d.key d.mark)
  | @committed id d tree at_id writing moved =>
    have hplace : p ≠ d.key.place := by
      refine unfiled d.key id ?_
      rw [filingOf_commit at_id moved]
      exact List.mem_singleton.mpr rfl
    have hscratch : p ≠ d.scratch := own d.key d.mark
    exact Tree.content?_rename_of_ne moved hplace hscratch
  | abandoned d at_id committed remote => rfl
  | repeated d at_id committed free remote received => rfl
  | counted d at_id committed free first => rfl
  | waited waits change => rfl
  | disturbed tree => exact absurd rfl (calm tree)

section

variable (distinct : ∀ k ∈ expected, ∀ j ∈ expected, k.path root = j.path root → k = j)

include distinct

/-- What lies at the place of a key, where no body is written, changes only if a delivery of the key
is moved there. -/
theorem content?_place_move (ordered : Orderly expected records c) (m : Move c e c')
    (calm : ∀ tree, e ≠ .disturb tree) {k : ResultKey} (expects : k ∈ expected)
    (own : ∀ (j : ResultKey) (mark : String), k.place ≠ j.scratchPlace mark)
    (unfiled : ∀ id, (k, id) ∉ c.filingOf e) :
    c'.tree.content? k.place = c.tree.content? k.place := by
  refine content?_move m calm own fun j id hj hp => ?_
  obtain rfl := distinct k expects j (expected_of_filing ordered m hj)
    (ResultKey.path_eq_of_place_eq root hp)
  exact unfiled id hj

/-- Every event leaves the results whole. -/
theorem isWhole_step (ordered : Orderly expected records c) (scratched : Scratched c)
    (he : c.step? e = some c') (spares : Spares expected c e) {k : ResultKey} (expects : k ∈ expected)
    (own : ∀ (j : ResultKey) (mark : String), k.place ≠ j.scratchPlace mark)
    (h : IsWhole filed c k) : IsWhole (filed ++ c.filingOf e) c' k := by
  have m := move_of_step? he
  by_cases hfile : ∃ id, (k, id) ∈ c.filingOf e
  · obtain ⟨id, hmem⟩ := hfile
    obtain ⟨hone, d, hd, hk, hw, hb⟩ := filing_move scratched m hmem
    rw [hone]
    exact .inr ⟨id, d, lastFiled?_concat filed k id, hd, hk, hw, hb⟩
  · have unfiled : ∀ id, (k, id) ∉ c.filingOf e := fun id hmem => hfile ⟨id, hmem⟩
    by_cases hcalm : ∃ tree, e = .disturb tree
    · obtain ⟨tree, rfl⟩ := hcalm
      cases he
      rcases spares.1 k expects with hsame | hnone
      · exact isWhole_of_eq h m unfiled hsame
      · exact .inl hnone
    · have calm : ∀ tree, e ≠ .disturb tree := fun tree he => hcalm ⟨tree, he⟩
      exact isWhole_of_eq h m unfiled
        (content?_place_move distinct ordered m calm expects own unfiled)

/-- The results of every run are whole where no body is written. -/
theorem isWhole_run (h : (start root expected).run? events = some c)
    (spares : Machine.Along step? (Spares expected) (start root expected) events) {k : ResultKey}
    (expects : k ∈ expected)
    (own : ∀ (j : ResultKey) (mark : String), k.place ≠ j.scratchPlace mark) :
    IsWhole ((start root expected).filings events) c k := by
  revert spares
  refine Machine.run?_induction
    (P := fun es c => Machine.Along step? (Spares expected) (start root expected) es →
      IsWhole ((start root expected).filings es) c k) (fun _ => .inl rfl) ?_ h
  intro es s e s' hs ih he spares
  obtain ⟨hbefore, hnow⟩ := (Machine.along_concat hs).mp spares
  rw [filings, Machine.history_concat filingOf hs he]
  exact isWhole_step distinct (orderly_run hs) (scratched_run hs hbefore) he hnow expects own
    (ih hbefore)

end

/-- What is to be seen of the tree of a collector and of the bodies that go there, when these
deliveries have been moved into place and these pieces have come. -/
structure Kept (expected : List ResultKey) (filed : List (ResultKey × Nat))
    (sent : Nat → List ByteArray) (c : Collector) : Prop where
  /-- A body is what has come for its delivery, and nothing else. -/
  bodies : ∀ (id : Nat) (d : Delivery), c.deliveries[id]? = some d → d.body = joined (sent id)
  /-- Only results of valid keys that are expected have been moved into place. -/
  accepted : ∀ p ∈ filed, p.1 ∈ expected ∧ p.1.isValid = true
  /-- What lies at the place of a valid key is whole. -/
  results : ∀ k ∈ expected, k.isValid = true → IsWhole filed c k
  /-- While a body is being written, its scratch file holds it as far as it has come. -/
  scratches : ∀ (id : Nat) (d : Delivery), c.deliveries[id]? = some d → d.isWriting = true →
    c.tree.content? d.scratch = some d.body
  /-- No two bodies are written to one file. -/
  apart : ∀ (i j : Nat) (d d' : Delivery), c.deliveries[i]? = some d → c.deliveries[j]? = some d' →
    d.isWriting = true → d'.isWriting = true → d.scratch = d'.scratch → i = j
  /-- A scratch file belongs to a body that is being written. -/
  owner : ∀ (k : ResultKey) (mark : String), c.tree.content? (k.scratchPlace mark) ≠ none →
    ∃ (id : Nat) (d : Delivery), c.deliveries[id]? = some d ∧ d.isWriting = true ∧
      d.scratch = k.scratchPlace mark
  /-- There are no scratch files when no body is being written. -/
  clean : (∀ (id : Nat) (d : Delivery), c.deliveries[id]? = some d → d.isWriting = false) →
    ∀ (k : ResultKey) (mark : String), c.tree.content? (k.scratchPlace mark) = none

/-- At every state of every run what lies at the place of a valid key is the whole body of the delivery
that was moved there last, only such a move changes it, and the bodies on their way are kept apart
in scratch files that go with them.  A key that is not valid has no place of its own: it can be named
like a scratch file, or its path can lead to another key's file, and nothing is ever filed for it. -/
theorem kept_run (distinct : ∀ k ∈ expected, ∀ j ∈ expected, k.path root = j.path root → k = j)
    (h : (start root expected).run? events = some c)
    (spares : Machine.Along step? (Spares expected) (start root expected) events) :
    Kept expected ((start root expected).filings events) ((start root expected).pieces events) c ∧
      ∀ e c', c.step? e = some c' → (∀ tree, e ≠ .disturb tree) →
        ∀ k ∈ expected, k.isValid = true → (∀ id, (k, id) ∉ c.filingOf e) →
          c'.tree.content? k.place = c.tree.content? k.place := by
  have scratched := scratched_run h spares
  refine ⟨⟨(bodied_run h).bodies, filed_run h spares, ?_, scratched.content, scratched.apart,
    scratched.owner, ?_⟩, ?_⟩
  · intro k expects valid
    exact isWhole_run distinct h spares expects (ResultKey.place_ne_scratchPlace valid)
  · intro none k mark
    by_contra hk
    obtain ⟨id, d, hd, hw, -⟩ := scratched.owner k mark hk
    rw [none id d hd] at hw
    cases hw
  · intro e c' he calm k expects valid unfiled
    exact content?_place_move distinct (orderly_run h) (move_of_step? he) calm expects
      (ResultKey.place_ne_scratchPlace valid) unfiled

/-- A directory lies at the place of one key.  Two deliveries of another one come at once, and the
one that was opened first is committed last; the result of the obstructed key cannot be filed. -/
def obstructedAndInterleaved : List Event :=
  [.disturb ⟨[([], .directory), (["b"], .directory), (["b", "t"], .directory)]⟩,
    .openResult ⟨"a", "t"⟩ false ⟨#[1]⟩ "000000", .openResult ⟨"a", "t"⟩ false ⟨#[2]⟩ "000001",
    .write 1 ⟨#[3]⟩, .write 0 ⟨#[4]⟩, .commit 1, .commit 0,
    .openResult ⟨"b", "t"⟩ false ⟨#[5]⟩ "000002", .commit 2]

/-- The place of the first key then holds the body that was committed last, and nothing is left of the
other one. -/
theorem kept_obstructedAndInterleaved :
    ∃ c, (start "out" [⟨"a", "t"⟩, ⟨"b", "t"⟩]).run? obstructedAndInterleaved = some c ∧
      Kept [⟨"a", "t"⟩, ⟨"b", "t"⟩] [(⟨"a", "t"⟩, 1), (⟨"a", "t"⟩, 0)]
        ((start "out" [⟨"a", "t"⟩, ⟨"b", "t"⟩]).pieces obstructedAndInterleaved) c ∧
      c.tree.content? ["a", "t"] = some ⟨#[1, 4]⟩ := by
  have hsome : ((start "out" [⟨"a", "t"⟩, ⟨"b", "t"⟩]).run?
      obstructedAndInterleaved).isSome = true := rfl
  have hmade : Tree.empty.makeDirectories ["b", "t"] =
      .ok ⟨[([], .directory), (["b"], .directory), (["b", "t"], .directory)]⟩ := rfl
  have spares : Machine.Along step? (Spares [⟨"a", "t"⟩, ⟨"b", "t"⟩])
      (start "out" [⟨"a", "t"⟩, ⟨"b", "t"⟩]) obstructedAndInterleaved := by
    refine ⟨⟨fun k _ => .inl (Tree.content?_makeDirectories hmade _),
      fun k mark => Tree.content?_makeDirectories hmade _⟩, fun s _ => ?_⟩
    refine Machine.along_of_forall fun e he s => ?_
    simp only [List.mem_cons, List.not_mem_nil, or_false] at he
    rcases he with rfl | rfl | rfl | rfl | rfl | rfl | rfl | rfl <;> trivial
  exact ⟨_, (Option.some_get hsome).symm,
    (kept_run (by decide +kernel) (Option.some_get hsome).symm spares).1, rfl⟩

/-- Keys that are not valid may have a path of their own, and still the file there is neither absent nor
theirs.  The first is named like the scratch file of a delivery that has only been opened; the path of
the second goes up and comes back to the file of another key. -/
theorem unkept_invalidKeys :
    ((∀ k ∈ [ResultKey.mk "a" "t", ⟨"a", ".t.000000.partial"⟩],
        ∀ j ∈ [ResultKey.mk "a" "t", ⟨"a", ".t.000000.partial"⟩],
          k.path "out" = j.path "out" → k = j) ∧
      ∃ c, (start "out" [⟨"a", "t"⟩, ⟨"a", ".t.000000.partial"⟩]).run?
          [.openResult ⟨"a", "t"⟩ false ⟨#[1]⟩ "000000"] = some c ∧
        ¬ IsWhole ((start "out" [⟨"a", "t"⟩, ⟨"a", ".t.000000.partial"⟩]).filings
          [.openResult ⟨"a", "t"⟩ false ⟨#[1]⟩ "000000"]) c ⟨"a", ".t.000000.partial"⟩) ∧
    (∀ k ∈ [ResultKey.mk "a" "t", ⟨"a", "../a/t"⟩], ∀ j ∈ [ResultKey.mk "a" "t", ⟨"a", "../a/t"⟩],
        k.path "out" = j.path "out" → k = j) ∧
      ∃ c, (start "out" [⟨"a", "t"⟩, ⟨"a", "../a/t"⟩]).run?
          [.openResult ⟨"a", "t"⟩ false ⟨#[1]⟩ "000000", .commit 0] = some c ∧
        (start "out" [⟨"a", "t"⟩, ⟨"a", "../a/t"⟩]).filings
          [.openResult ⟨"a", "t"⟩ false ⟨#[1]⟩ "000000", .commit 0] = [(⟨"a", "t"⟩, 0)] ∧
        c.tree.readFile ((ResultKey.mk "a" "../a/t").path "") = .ok ⟨#[1]⟩ := by
  have hopened : ((start "out" [⟨"a", "t"⟩, ⟨"a", ".t.000000.partial"⟩]).run?
      [.openResult ⟨"a", "t"⟩ false ⟨#[1]⟩ "000000"]).isSome = true := rfl
  have hfiled : ((start "out" [⟨"a", "t"⟩, ⟨"a", "../a/t"⟩]).run?
      [.openResult ⟨"a", "t"⟩ false ⟨#[1]⟩ "000000", .commit 0]).isSome = true := rfl
  have hpath : (ResultKey.mk "a" "../a/t").path "" = "a/../a/t" := by decide +kernel
  refine ⟨⟨by decide +kernel, _, (Option.some_get hopened).symm, ?_⟩,
    by decide +kernel, _, (Option.some_get hfiled).symm, rfl, hpath ▸ rfl⟩
  rintro (hnone | ⟨id, d, hlast, -⟩)
  · have hbody : (Option.get _ hopened).tree.content?
        (ResultKey.mk "a" ".t.000000.partial").place = some ⟨#[1]⟩ := rfl
    rw [hbody] at hnone
    cases hnone
  · cases hlast

end Collector

end ClusterSurvey
