import ClusterSurvey.Proofs.Collector.Step
import ClusterSurvey.Proofs.Storage.Room

/-!
# How a delivery begins

A result that comes is answered at once and leaves no trace in the tree, or its body begins to be written.
For that the key has to be valid and wanted.  Then the directory of the key is made, and a scratch file in
it; if there is no room for them, the result is answered after all.
-/

namespace ClusterSurvey

namespace Collector

variable {c c' : Collector} {key : ResultKey} {isFailure : Bool} {body : ByteArray} {mark : String}

/-- What a collector becomes when it begins to write a body. -/
inductive Begins (c : Collector) (key : ResultKey) (isFailure : Bool) (body : ByteArray)
    (mark : String) : Collector → Prop where
  /-- There is no room for it, and at most its directory is made. -/
  | hindered (cause : StorageCause) (tree : Tree) (full : c.tree.hasRoomFor key = false)
      (made : tree = c.tree ∨ c.tree.makeDirectories [key.scope] = .ok tree) :
      Begins c key isFailure body mark
        { c with
          tree := tree
          deliveries := c.deliveries ++
            [⟨key, isFailure, body, mark, .ended (.error (c.persistence key cause))⟩] }
  /-- Its directory is made and its scratch file put there. -/
  | underWay (tree : Tree) (made : c.tree.makeDirectories [key.scope] = .ok tree)
      (room : c.tree.hasRoomFor key = true ↔ c.tree.isDirectory key.place = false) :
      Begins c key isFailure body mark
        { c with
          tree := tree.set (key.scratchPlace mark) (.file body)
          deliveries := c.deliveries ++ [⟨key, isFailure, body, mark, .writing⟩]
          holder := if isFailure then some c.deliveries.length else c.holder }

/-- A scratch file can be written if its name is short enough. -/
private theorem writeFile_scratch {tree : Tree} (short : mark.utf8ByteSize = 6)
    (unused : tree.get? (key.scratchPlace mark) = none) :
    tree.writeFile (key.scratchPlace mark) body =
      if key.resultType.utf8ByteSize ≤ maxTypeOctets then
        .ok (tree.set (key.scratchPlace mark) (.file body))
      else .error .nameTooLong := by
  have hname := nameFits_scratchName key.resultType short
  have hdirectory : tree.isDirectory (key.scratchPlace mark) = false := by
    rw [Tree.isDirectory, unused]
  have hlast : (key.scratchPlace mark).getLast?.all nameFits =
      nameFits (scratchName key.resultType mark) := rfl
  rw [Tree.writeFile, hdirectory, hlast]
  by_cases hfits : key.resultType.utf8ByteSize ≤ maxTypeOctets
  · simp [hname.mpr hfits, hfits]
  · simp [mt hname.mp hfits, hfits]

/-- A body begins to be written, or there is no room for it. -/
theorem begins (short : mark.utf8ByteSize = 6) (unused : c.tree.get? (key.scratchPlace mark) = none) :
    Begins c key isFailure body mark (c.beginWriting key isFailure body mark) := by
  have hdirectories := c.tree.isOk_makeDirectories key.scope
  cases hmade : c.tree.makeDirectories [key.scope] with
  | error f =>
    have full : c.tree.hasRoomFor key = false := by
      rw [hmade] at hdirectories
      rw [Tree.hasRoomFor, ← hdirectories]
      rfl
    have heq : c.beginWriting key isFailure body mark =
        c.answerAtOnce key isFailure body mark (.error (c.persistence key (.fault f))) := by
      simp only [beginWriting, makeScratch, answerAtOnce, hmade]
    rw [heq]
    exact .hindered (.fault f) c.tree full (.inl rfl)
  | ok u =>
    rw [hmade] at hdirectories
    have hwrite : u.writeFile (key.scratchPlace mark) body = _ :=
      writeFile_scratch short (by rw [(Tree.Grows.of_makeDirectories hmade).get?_scratchPlace, unused])
    by_cases hfits : key.resultType.utf8ByteSize ≤ maxTypeOctets
    · have room : c.tree.hasRoomFor key = true ↔ c.tree.isDirectory key.place = false := by
        rw [Tree.hasRoomFor, ← hdirectories, decide_eq_true hfits]
        simp [Except.isOk, Except.toBool]
      have heq : c.beginWriting key isFailure body mark =
          { c with
            tree := u.set (key.scratchPlace mark) (.file body)
            deliveries := c.deliveries ++ [⟨key, isFailure, body, mark, .writing⟩]
            holder := if isFailure then some c.deliveries.length else c.holder } := by
        simp only [beginWriting, makeScratch, hmade, hwrite, if_pos hfits]
      rw [heq]
      exact .underWay u hmade room
    · have full : c.tree.hasRoomFor key = false := by
        rw [Tree.hasRoomFor, decide_eq_false hfits, Bool.and_false, Bool.false_and]
      have heq : c.beginWriting key isFailure body mark =
          { c with
            tree := u
            deliveries := c.deliveries ++ [⟨key, isFailure, body, mark,
              .ended (.error (c.persistence key
                (.noScratch .nameTooLong (key.directoryPath c.root) key.resultType mark)))⟩] } := by
        simp only [beginWriting, makeScratch, answerAtOnce, hmade, hwrite, if_neg hfits]
      rw [heq]
      exact .hindered _ u full (.inr hmade)

/-- What a collector becomes when a delivery is opened. -/
inductive Opens (c : Collector) (key : ResultKey) (isFailure : Bool) (body : ByteArray)
    (mark : String) : Collector → Prop where
  /-- It is answered without a look at the tree. -/
  | answered (outcome : Except CollectError Unit)
      (unwanted : ¬ (key.isValid = true ∧ c.wants key isFailure = true)) :
      Opens c key isFailure body mark (c.answerAtOnce key isFailure body mark outcome)
  /-- Its body begins to be written. -/
  | begun {c' : Collector} (valid : key.isValid = true) (wanted : c.wants key isFailure = true)
      (free : c.holder = none) (short : mark.utf8ByteSize = 6)
      (unused : c.tree.get? (key.scratchPlace mark) = none)
      (begins : Begins c key isFailure body mark c') : Opens c key isFailure body mark c'

/-- Every delivery that can be opened is answered, or its body begins to be written. -/
theorem opens (body : ByteArray) (may : c.mayOpen key isFailure mark = true) :
    Opens c key isFailure body mark (c.openResult key isFailure body mark) := by
  have writes (valid : key.isValid = true) (wanted : c.wants key isFailure = true) :
      Opens c key isFailure body mark (c.beginWriting key isFailure body mark) := by
    obtain ⟨free, short, unused⟩ : c.holder = none ∧ mark.utf8ByteSize = 6 ∧
        c.tree.get? (key.scratchPlace mark) = none := by
      simpa [mayOpen, valid, wanted, markIsFree] using may
    exact .begun valid wanted free short unused (begins short unused)
  unfold openResult
  split
  · next e he =>
    refine .answered _ fun both => ?_
    have valid := both.1
    rw [ResultKey.isValid_of_check_eq_error he] at valid
    cases valid
  · next hvalid =>
    have valid := key.check_eq_ok_iff.mp hvalid
    split
    · next hr => exact .answered _ fun both => by simp [wants, hr] at both
    · next hr =>
      split
      · next hf => exact .answered _ fun both => by simp [wants, hr, hf] at both
      · next hf => exact writes valid (by simp [wants, hr, hf])
    · next hr => exact writes valid (by simp [wants, hr])

end Collector

end ClusterSurvey
