import ClusterSurvey.Text.Blank
import Mathlib.Data.List.DropRight
import Mathlib.Data.List.TakeWhile

/-!
# What is left of a text without its ends

Dropping characters at the end of a text stops at the last one that is to be kept, so what stands in front of
it does not matter.  Of a blank text nothing is left.
-/

namespace ClusterSurvey.Text

/-- Nothing is dropped from what ends in a character that fails `p`. -/
theorem dropTrailing_append {p : Char → Bool} {front : List Char}
    (last : ∀ c, front.getLast? = some c → p c = false) (back : List Char) :
    dropTrailing p (front ++ back) = front ++ dropTrailing p back := by
  have hfront : front.reverse.dropWhile p = front.reverse := by
    cases hr : front.reverse with
    | nil => rfl
    | cons c rest =>
      have hlast : front.getLast? = some c := by rw [List.getLast?_eq_head?_reverse, hr, List.head?_cons]
      rw [List.dropWhile_cons_of_neg]
      simp [last c hlast]
  rw [dropTrailing, dropTrailing, List.reverse_append, List.dropWhile_append, hfront]
  split
  · next hempty =>
    rw [List.isEmpty_iff.mp hempty, List.reverse_reverse, List.reverse_nil, List.append_nil]
  · rw [List.reverse_append, List.reverse_reverse]

/-- Nothing is left of characters that all pass `p`. -/
theorem dropTrailing_of_all {p : Char → Bool} {cs : List Char} (h : ∀ c ∈ cs, p c = true) :
    dropTrailing p cs = [] :=
  List.rdropWhile_eq_nil_iff.mpr h

/-- Nothing is left of a text if it is blank, and only then. -/
theorem trim_eq_empty_iff {s : String} : trim s = "" ↔ allBlank s = true := by
  have hlist : trim s = "" ↔ stripBoth isBlank s.toList = [] := by
    rw [trim, String.ofList_eq_empty_iff]
  rw [hlist, stripBoth, dropTrailing, List.reverse_eq_nil_iff, List.dropWhile_eq_nil_iff,
    allBlank, List.all_eq_true]
  constructor
  · intro h c hc
    rw [← List.takeWhile_append_dropWhile (p := isBlank) (l := s.toList)] at hc
    rcases List.mem_append.mp hc with hfront | hback
    · exact List.mem_takeWhile_imp hfront
    · exact h c (List.mem_reverse.mpr hback)
  · intro h c hc
    rw [List.dropWhile_eq_nil_iff.mpr h] at hc
    cases hc

end ClusterSurvey.Text
