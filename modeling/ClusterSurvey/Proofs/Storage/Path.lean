import ClusterSurvey.Collection.Delivery
import ClusterSurvey.Storage.Lookup

/-!
# Paths below a directory

A path is joined from texts, and read step by step.  A name that is plain is one step of whatever it is
joined to, neither replaces it nor climbs out of it, and is read in the directory to which the path of
this directory leads, in every tree.  The scope and the type of a valid key are plain, and so is the name
of its scratch file if the mark in it has no separators.
-/

namespace ClusterSurvey

/-- Whether a text names something in a directory: it is one step, and neither stays nor goes up. -/
structure IsPlainName (s : String) : Prop where
  nonempty : s ≠ ""
  notHere : s ≠ "."
  notAbove : s ≠ ".."
  noSlash : '/' ∉ s.toList
  noBackslash : '\\' ∉ s.toList

/-- A text that can stand alone in a path is a plain name. -/
theorem isPlainName_of_isSegment {s : String} (h : isSegment s = true) : IsPlainName s := by
  obtain ⟨nonempty, notHidden, -⟩ := (isSegment_iff s).mp h
  refine ⟨nonempty, ?_, ?_, (clear_of_isSegment h).1, (clear_of_isSegment h).2⟩
  · rintro rfl
    exact notHidden rfl
  · rintro rfl
    exact notHidden rfl

/-- The name of a scratch file is plain if its two parts are. -/
theorem isPlainName_scratchName {resultType mark : String} (segment : isSegment resultType = true)
    (noSlash : '/' ∉ mark.toList) (noBackslash : '\\' ∉ mark.toList) :
    IsPlainName (scratchName resultType mark) := by
  have hlist : (scratchName resultType mark).toList =
      '.' :: (resultType.toList ++ '.' :: (mark.toList ++ ".partial".toList)) := by
    simp [scratchName, String.toList_append]
  obtain ⟨nonempty, notHidden, -⟩ := (isSegment_iff resultType).mp segment
  obtain ⟨slash, backslash⟩ := clear_of_isSegment segment
  have hend : '/' ∉ ".partial".toList ∧ '\\' ∉ ".partial".toList := by decide
  -- The type stands behind the first dot, so that nothing but a name is left.
  have other (t : String) (h : t.toList.length ≤ 2) : scratchName resultType mark ≠ t := by
    rintro rfl
    rw [hlist] at h
    simp at h
    omega
  refine ⟨other "" (by decide), other "." (by decide), other ".." (by decide), ?_, ?_⟩
  · rw [hlist]
    simp [slash, noSlash]
  · rw [hlist]
    simp [backslash, noBackslash]

/-- A path that does not begin with a slash goes below the directory to which it is joined. -/
theorem joinPath_of_noSlash (dir : String) {s : String} (noSlash : '/' ∉ s.toList) :
    joinPath dir s = if dir = "" || dir.endsWith "/" then dir ++ s else dir ++ "/" ++ s := by
  have hrelative : s.startsWith "/" = false := by
    rw [String.startsWith_string_eq_false_iff]
    rintro ⟨rest, hrest⟩
    exact noSlash (by simp [← hrest])
  rw [joinPath, if_neg (by simp [hrelative])]

namespace Tree

variable (t : Tree) (p : Place)

/-! ### Steps -/

/-- Where some steps and then others lead. -/
theorem follow_append (xs ys : List String) :
    t.follow p (xs ++ ys) = (t.follow p xs).bind fun q => t.follow q ys := by
  induction xs generalizing p with
  | nil => rfl
  | cons x xs ih =>
    show (t.step p x).bind (fun q => t.follow q (xs ++ ys)) =
      ((t.step p x).bind fun q => t.follow q xs).bind fun q => t.follow q ys
    cases t.step p x with
    | error f => rfl
    | ok q => exact ih q

/-- An empty step in front of another one makes no difference. -/
theorem follow_empty_cons (x : String) (xs : List String) :
    t.follow p ("" :: x :: xs) = t.follow p (x :: xs) := by
  show (t.step p "").bind (fun q => (t.step q x).bind fun r => t.follow r xs) =
    (t.step p x).bind fun r => t.follow r xs
  cases hp : t.get? p with
  | none => simp only [step, hp, Except.bind]
  | some n =>
    cases n with
    | file b => simp only [step, hp, Except.bind]
    | directory =>
      have hstay : t.step p "" = .ok p := by simp only [step, hp, true_or, if_true]
      rw [hstay]
      rfl

/-- The steps of two paths with a slash between them. -/
theorem steps_append_slash (a b : String) : steps (a ++ "/" ++ b) = steps a ++ steps b := by
  have hlist : (a ++ "/" ++ b).toList = a.toList ++ '/' :: b.toList := by
    simp [String.toList_append]
  rw [steps, hlist, Text.splitAt_append_cons, List.map_append]
  rfl

/-- A path without slashes is one step. -/
theorem steps_of_noSlash {s : String} (noSlash : '/' ∉ s.toList) : steps s = [s] := by
  rw [steps, Text.splitAt_of_not_mem '/' _ noSlash, List.map_singleton, String.ofList_toList]

/-- A plain name that is joined to the path of a directory is read in this directory. -/
theorem follow_joinPath (dir : String) {s : String} (plain : IsPlainName s) :
    t.follow p (steps (joinPath dir s)) =
      (t.follow p (steps dir)).bind fun q => t.follow q [s] := by
  have hbehind (front : List String) :
      t.follow p (front ++ [s]) = (t.follow p (front ++ [""])).bind fun q => t.follow q [s] := by
    rw [← follow_append, follow_append, List.append_assoc, follow_append]
    simp only [List.singleton_append, follow_empty_cons]
  rw [joinPath_of_noSlash dir plain.noSlash]
  split
  · next hdir =>
    rcases Bool.or_eq_true_iff.mp hdir with hempty | hends
    · rw [of_decide_eq_true hempty, String.empty_append, steps_of_noSlash plain.noSlash]
      exact hbehind []
    · obtain ⟨front, rfl⟩ := Text.exists_append_of_endsWith hends
      have hdirSteps : steps (front ++ "/") = steps front ++ [""] := by
        have happend := steps_append_slash front ""
        rwa [String.append_empty] at happend
      rw [steps_append_slash, steps_of_noSlash plain.noSlash, hdirSteps]
      exact hbehind (steps front)
  · rw [steps_append_slash, steps_of_noSlash plain.noSlash]
    exact t.follow_append p (steps dir) [s]

/-- Two plain names that are joined one after the other. -/
theorem follow_joinPath_joinPath (dir : String) {s name : String} (plain : IsPlainName s)
    (plainName : IsPlainName name) :
    t.follow p (steps (joinPath (joinPath dir s) name)) =
      (t.follow p (steps dir)).bind fun q => t.follow q [s, name] := by
  rw [follow_joinPath t p _ plainName, follow_joinPath t p _ plain]
  cases t.follow p (steps dir) with
  | error f => rfl
  | ok q => exact (t.follow_append q [s] [name]).symm

end Tree

end ClusterSurvey
