import ClusterSurvey.Handover.Marker
import ClusterSurvey.Proofs.Text.Blank

/-!
# When a wait for a result ends

A wait ends with the first look that finds something else than nothing or blanks, and pauses once after
each look before it.  That look alone decides where the result is.
-/

namespace ClusterSurvey

namespace Pickup

/-- Whether what a look finds leaves open what becomes of the wait: there is no marker, or nothing but blanks
are in it. -/
inductive Undecided : Except ReadFault String → Prop where
  | missing : Undecided (.error (.storage .notFound))
  | blank (content : String) (empty : Text.trim content = "") : Undecided (.ok content)

/-- What a look that is not undecided comes to. -/
inductive Decides (directory : String) : Except ReadFault String → Except ReadFault String → Prop where
  /-- A path from the root stands for itself. -/
  | absolute (content : String) (named : Text.trim content ≠ "")
      (root : (Text.trim content).startsWith "/" = true) :
    Decides directory (.ok content) (.ok (Text.trim content))
  /-- Any other path is taken from the directory. -/
  | relative (content : String) (named : Text.trim content ≠ "")
      (root : (Text.trim content).startsWith "/" = false) :
    Decides directory (.ok content) (.ok (joinPath directory (Text.trim content)))
  /-- A marker that cannot be read is an error. -/
  | unreadable (fault : ReadFault) (other : fault ≠ .storage .notFound) :
    Decides directory (.error fault) (.error fault)

end Pickup

open Pickup (Undecided Decides)

namespace MarkerView

variable {directory : String} {reading path : Except ReadFault String}

/-- The looks that decide nothing are the undecided ones. -/
theorem verdict_ofReading_eq_none_iff :
    (ofReading reading).verdict directory = none ↔ Undecided reading := by
  rw [verdict_eq_none_iff]
  constructor
  · intro h
    unfold ofReading at h
    split at h
    · next content => exact .blank content (Text.trim_eq_empty_iff.mpr h)
    · exact .missing
    · cases h
  · rintro (_ | ⟨content, empty⟩)
    · rfl
    · exact Text.trim_eq_empty_iff.mp empty

/-- The others decide on a path or are an error. -/
theorem verdict_ofReading_eq_some_iff :
    (ofReading reading).verdict directory = some path ↔ Decides directory reading path := by
  constructor
  · intro h
    unfold ofReading at h
    split at h
    · next content =>
      rw [verdict, Option.ite_none_left_eq_some] at h
      obtain ⟨hblank, hpath⟩ := h
      obtain rfl := Option.some.inj hpath
      have named : Text.trim content ≠ "" := fun empty => hblank (Text.trim_eq_empty_iff.mp empty)
      cases root : (Text.trim content).startsWith "/" with
      | true =>
        rw [joinPath, root]
        exact .absolute content named root
      | false => exact .relative content named root
    · cases h
    · next fault other =>
      obtain rfl := Option.some.inj h
      exact .unreadable fault other
  · have notBlank {content : String} (named : Text.trim content ≠ "") : Text.allBlank content ≠ true :=
      fun blank => named (Text.trim_eq_empty_iff.mpr blank)
    rintro (⟨content, named, root⟩ | ⟨content, named, root⟩ | ⟨fault, other⟩)
    · rw [ofReading, verdict, if_neg (notBlank named), joinPath, root]
      rfl
    · rw [ofReading, verdict, if_neg (notBlank named)]
    · unfold ofReading
      split
      · next h => cases h
      · next h => exact absurd (Except.error.inj h) other
      · next h => rw [verdict, Except.error.inj h]

end MarkerView

namespace Pickup

variable {directory : String}

/-- A look is undecided or decides, and not both. -/
theorem undecided_iff {reading : Except ReadFault String} :
    Undecided reading ↔ ∀ path, ¬ Decides directory reading path := by
  rw [← MarkerView.verdict_ofReading_eq_none_iff, Option.eq_none_iff_forall_ne_some]
  exact forall_congr' fun path => not_congr MarkerView.verdict_ofReading_eq_some_iff

/-- A wait is not over as long as every look was undecided. -/
theorem await_eq_none_iff {history : List (Except ReadFault String)} :
    await directory (history.map .ofReading) = none ↔ ∀ reading ∈ history, Undecided reading := by
  induction history with
  | nil => exact ⟨fun _ => nofun, fun _ => rfl⟩
  | cons reading rest ih =>
    rw [List.map_cons, await, List.forall_mem_cons, ← ih,
      ← @MarkerView.verdict_ofReading_eq_none_iff directory]
    cases (MarkerView.ofReading reading).verdict directory with
    | none => simp
    | some path => simp

/-- A wait ends with the first other look, after one pause for each look before. -/
theorem await_eq_some_iff {history : List (Except ReadFault String)} {p : Pickup} :
    await directory (history.map .ofReading) = some p ↔
      ∃ reading, history[p.pauses]? = some reading ∧ Decides directory reading p.path ∧
        ∀ earlier ∈ history.take p.pauses, Undecided earlier := by
  induction history generalizing p with
  | nil => simp [await]
  | cons reading rest ih =>
    obtain ⟨path, pauses⟩ := p
    rw [List.map_cons, await]
    cases hverdict : (MarkerView.ofReading reading).verdict directory with
    | none =>
      have undecided := MarkerView.verdict_ofReading_eq_none_iff.mp hverdict
      cases pauses with
      | zero =>
        constructor
        · intro h
          obtain ⟨p, -, hp⟩ := Option.map_eq_some_iff.mp h
          cases hp
        · rintro ⟨first, hfirst, decides, -⟩
          obtain rfl := Option.some.inj hfirst
          exact absurd decides (undecided_iff.mp undecided path)
      | succ pauses =>
        have hmap :
            (await directory (rest.map .ofReading)).map (fun p => { p with pauses := p.pauses + 1 }) =
                some ⟨path, pauses + 1⟩ ↔
              await directory (rest.map .ofReading) = some ⟨path, pauses⟩ := by
          cases await directory (rest.map .ofReading) with
          | none => simp
          | some p =>
            cases p
            simp
        dsimp only
        rw [hmap, ih, List.getElem?_cons_succ, List.take_succ_cons]
        simp only [List.forall_mem_cons, undecided, true_and]
    | some decided =>
      have hdecided : ∀ path, Decides directory reading path ↔ path = decided := fun path => by
        rw [← MarkerView.verdict_ofReading_eq_some_iff, hverdict, Option.some.injEq, eq_comm]
      cases pauses with
      | zero => simp [hdecided, eq_comm]
      | succ pauses =>
        constructor
        · intro h
          cases h
        · rintro ⟨-, -, -, earlier⟩
          have undecided : Undecided reading := earlier reading (by simp)
          exact absurd ((hdecided decided).mpr rfl) (undecided_iff.mp undecided decided)

example : (await "/tmp/results" [.missing, .text " \n", .text "e2e.tar.gz\n", .unreadable .notText]).map
    (·.pauses) = some 2 := by decide

end Pickup

end ClusterSurvey
