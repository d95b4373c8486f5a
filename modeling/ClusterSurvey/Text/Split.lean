/-!
# Splitting at a separator
-/

namespace ClusterSurvey.Text

variable {α : Type} [DecidableEq α]

/-- The parts of a list between the places where `sep` stands; there is always at least one. -/
def splitAt (sep : α) : List α → List (List α)
  | [] => [[]]
  | c :: cs =>
    if c = sep then [] :: splitAt sep cs
    else
      match splitAt sep cs with
      | [] => [[c]]
      | p :: ps => (c :: p) :: ps

/-- A list without the separator is one part. -/
theorem splitAt_of_not_mem (sep : α) (cs : List α) (h : sep ∉ cs) :
    splitAt sep cs = [cs] := by
  induction cs with
  | nil => rfl
  | cons c cs ih =>
    simp only [List.mem_cons, not_or] at h
    rw [splitAt, if_neg (Ne.symm h.1), ih h.2]

/-- The separator stands in no part. -/
theorem not_mem_of_mem_splitAt {sep : α} {cs part : List α} (h : part ∈ splitAt sep cs) :
    sep ∉ part := by
  induction cs generalizing part with
  | nil =>
    obtain rfl := List.mem_singleton.mp h
    exact List.not_mem_nil
  | cons c cs ih =>
    rw [splitAt] at h
    split at h
    · rcases List.mem_cons.mp h with rfl | h
      · exact List.not_mem_nil
      · exact ih h
    · next hc =>
      cases hs : splitAt sep cs with
      | nil =>
        rw [hs] at h
        obtain rfl := List.mem_singleton.mp h
        simpa using Ne.symm hc
      | cons p ps =>
        rw [hs] at h ih
        rcases List.mem_cons.mp h with rfl | h
        · exact List.not_mem_cons_of_ne_of_not_mem (Ne.symm hc) (ih List.mem_cons_self)
        · exact ih (List.mem_cons_of_mem p h)

/-- A part without the separator, and then the separator, come off the front. -/
theorem splitAt_append (sep : α) (front rest : List α) (h : sep ∉ front) :
    splitAt sep (front ++ sep :: rest) = front :: splitAt sep rest := by
  induction front with
  | nil => simp [splitAt]
  | cons c cs ih =>
    simp only [List.mem_cons, not_or] at h
    rw [List.cons_append, splitAt, if_neg (Ne.symm h.1), ih h.2]

/-- The parts of two lists with the separator between them. -/
theorem splitAt_append_cons (sep : α) (front rest : List α) :
    splitAt sep (front ++ sep :: rest) = splitAt sep front ++ splitAt sep rest := by
  have ne (cs : List α) : splitAt sep cs ≠ [] := by
    cases cs with
    | nil => exact List.cons_ne_nil _ _
    | cons c cs =>
      rw [splitAt]
      split
      · exact List.cons_ne_nil _ _
      · split <;> exact List.cons_ne_nil _ _
  induction front with
  | nil => simp [splitAt]
  | cons c cs ih =>
    rw [List.cons_append, splitAt, splitAt, ih]
    split
    · rfl
    · cases hs : splitAt sep cs with
      | nil => exact absurd hs (ne cs)
      | cons p ps => rfl

/-- The parts of a list are those that the library finds. -/
theorem splitAt_eq_splitOn (sep : α) (cs : List α) : splitAt sep cs = cs.splitOn sep := by
  induction cs with
  | nil => rfl
  | cons c cs ih =>
    rw [splitAt, ih, List.splitOn_cons_eq_if_modifyHead]
    by_cases h : c = sep
    · rw [if_pos h, if_pos (beq_iff_eq.mpr h)]
    · rw [if_neg h, if_neg (by simpa using h)]
      cases hs : cs.splitOn sep with
      | nil => exact absurd hs (List.splitOn_ne_nil sep cs)
      | cons p ps => rfl

/-- A text that ends with another one is something in front of it. -/
theorem exists_append_of_endsWith {s back : String} (h : s.endsWith back = true) :
    ∃ front, s = front ++ back := by
  rw [String.endsWith_eq_endsWith_toSlice, String.Slice.endsWith_string_iff,
    String.copy_toSlice] at h
  obtain ⟨front, hfront⟩ := h
  refine ⟨String.ofList front, String.toList_injective ?_⟩
  rw [String.toList_append, String.toList_ofList, hfront]

end ClusterSurvey.Text
