import ClusterSurvey.Toml.Reader
import Mathlib.Algebra.GroupWithZero.Nat
import Mathlib.Data.List.Nodup

/-!
# The names in a table

No two members of a table have one name, however the lines of its text add to it.  A table is therefore
told by its members alone, and the order in which they are read does not matter.
-/

namespace ClusterSurvey

/-- Two computations one after the other succeed if the first does and the second does with what it
yields. -/
theorem bind_eq_ok_iff {ε α β : Type} {x : Except ε α} {f : α → Except ε β} {b : β} :
    x >>= f = .ok b ↔ ∃ a, x = .ok a ∧ f a = .ok b := by
  cases x with
  | error e => exact ⟨nofun, fun ⟨_, h, _⟩ => nomatch h⟩
  | ok a =>
    constructor
    · exact fun h => ⟨a, rfl, h⟩
    · rintro ⟨a', ha, h⟩
      cases ha
      exact h

/-- They fail if the first does, or the second does with what the first yields. -/
theorem bind_eq_error_iff {ε α β : Type} {x : Except ε α} {f : α → Except ε β} {e : ε} :
    x >>= f = .error e ↔ x = .error e ∨ ∃ a, x = .ok a ∧ f a = .error e := by
  cases x with
  | error e' =>
    constructor
    · intro h
      cases h
      exact .inl rfl
    · rintro (h | ⟨_, h, -⟩)
      · cases h
        rfl
      · cases h
  | ok a =>
    constructor
    · exact fun h => .inr ⟨a, rfl, h⟩
    · rintro (h | ⟨a', ha, h⟩)
      · cases h
      · cases ha
        exact h

/-- What is made of the outcome of a computation is there if the outcome is. -/
theorem map_eq_ok_iff {ε α β : Type} {x : Except ε α} {g : α → β} {b : β} :
    x.map g = .ok b ↔ ∃ a, x = .ok a ∧ g a = b := by
  cases x with
  | error e => exact ⟨nofun, fun ⟨_, h, _⟩ => nomatch h⟩
  | ok a =>
    constructor
    · intro h
      cases h
      exact ⟨a, rfl, rfl⟩
    · rintro ⟨a', ha, rfl⟩
      cases ha
      rfl

namespace Toml

namespace Members

variable {ms ms' : Members} {name : String}

/-- The names of the members of a table. -/
def names (ms : Members) : List String := ms.map (·.1)

/-- A change of one member leaves the names as they are or adds the name of the member. -/
theorem names_alter {f : Option Value → Option Value} (h : ms.alter name f = some ms') :
    ms'.names = ms.names ∨ name ∉ ms.names ∧ ms'.names = ms.names ++ [name] := by
  induction ms generalizing ms' with
  | nil =>
    obtain ⟨v, -, rfl⟩ := Option.map_eq_some_iff.mp h
    exact .inr ⟨List.not_mem_nil, rfl⟩
  | cons m rest ih =>
    obtain ⟨k, v⟩ := m
    rw [alter] at h
    split at h
    · obtain ⟨w, -, rfl⟩ := Option.map_eq_some_iff.mp h
      exact .inl rfl
    · next hk =>
      obtain ⟨rest', hrest, rfl⟩ := Option.map_eq_some_iff.mp h
      rcases ih hrest with hsame | ⟨hnew, hadded⟩
      · exact .inl (congrArg (k :: ·) hsame)
      · refine .inr ⟨fun hmem => ?_, congrArg (k :: ·) hadded⟩
        rcases List.mem_cons.mp hmem with heq | hold
        · exact hk heq.symm
        · exact hnew hold

/-- It leaves them distinct. -/
theorem nodup_alter {f : Option Value → Option Value} (h : ms.alter name f = some ms')
    (distinct : ms.names.Nodup) : ms'.names.Nodup := by
  rcases names_alter h with hsame | ⟨hnew, hadded⟩
  · rwa [hsame]
  · rw [hadded, List.nodup_append]
    refine ⟨distinct, List.nodup_singleton name, fun a ha b hb => ?_⟩
    rintro rfl
    exact hnew (List.mem_singleton.mp hb ▸ ha)

/-- So does a change at the end of a path, if it does so there. -/
theorem nodup_within {dotted : Bool} {f : Origin → Members → Option Members} {path : Path}
    {origin : Origin} (h : within dotted f path origin ms = some ms')
    (keeps : ∀ origin ms ms', f origin ms = some ms' → ms.names.Nodup → ms'.names.Nodup)
    (distinct : ms.names.Nodup) : ms'.names.Nodup := by
  cases path with
  | nil =>
    rw [within] at h
    exact keeps origin ms ms' h distinct
  | cons name path =>
    rw [within] at h
    exact nodup_alter h distinct

/-- An assignment leaves the names of a table distinct. -/
theorem nodup_assign {path : Path} {v : Value} (h : ms.assign path name v = some ms')
    (distinct : ms.names.Nodup) : ms'.names.Nodup := by
  refine nodup_within h (fun origin ms ms' hadd hms => ?_) distinct
  split at hadd
  · cases hadd
  · exact nodup_alter hadd hms

/-- So does every line. -/
theorem nodup_take {p p' : Progress} {s : Statement} (h : p.take s = some p')
    (distinct : p.members.names.Nodup) : p'.members.names.Nodup := by
  cases s with
  | assign path name v =>
    obtain ⟨ms, hms, heq⟩ := Option.bind_eq_some_iff.mp h
    cases heq
    exact nodup_within hms (fun origin ms ms' h hms => nodup_assign h hms) distinct
  | openTable path name =>
    obtain ⟨ms, hms, heq⟩ := Option.bind_eq_some_iff.mp h
    cases heq
    exact nodup_within hms (fun origin ms ms' h hms => nodup_alter h hms) distinct
  | openItem path name =>
    obtain ⟨ms, hms, heq⟩ := Option.bind_eq_some_iff.mp h
    cases heq
    exact nodup_within hms (fun origin ms ms' h hms => nodup_alter h hms) distinct

private theorem nodup_foldlM {statements : List Statement} {p p' : Progress}
    (h : statements.foldlM Progress.take p = some p') (distinct : p.members.names.Nodup) :
    p'.members.names.Nodup := by
  induction statements generalizing p with
  | nil =>
    cases h
    exact distinct
  | cons s rest ih =>
    rw [List.foldlM_cons] at h
    obtain ⟨q, hq, hrest⟩ := Option.bind_eq_some_iff.mp h
    exact ih hrest (nodup_take hq distinct)

/-- The names in the table of a text are distinct. -/
theorem nodup_ofText? {s : String} (h : ofText? s = some ms) : ms.names.Nodup := by
  obtain ⟨statements, -, h⟩ := Option.bind_eq_some_iff.mp h
  obtain ⟨p, hp, heq⟩ := Option.bind_eq_some_iff.mp h
  cases heq
  exact nodup_foldlM hp List.nodup_nil

/-- The members of a table in the order of their names are its members. -/
theorem sorted_perm (ms : Members) : ms.sorted.Perm ms := List.mergeSort_perm ms _

end Members

/-! ### What the readers take -/

/-- Nothing is read from a value that is refused. -/
theorem Value.refuse_ne_ok {α : Type} (v : Value) (expected : String) (a : α) :
    v.refuse expected ≠ .ok a := by
  unfold refuse
  cases v.found with
  | error e => exact nofun
  | ok found => exact nofun

namespace Reader

/-- A text is read from a string alone. -/
theorem text_eq_ok_iff {v : Value} {s : String} : text v = .ok s ↔ v = .scalar (.text s) := by
  unfold text
  split
  · next t =>
    constructor
    · intro h
      cases h
      rfl
    · intro h
      cases h
      rfl
  · next other =>
    refine ⟨fun h => absurd h (v.refuse_ne_ok _ s), ?_⟩
    rintro rfl
    exact absurd rfl (other s)

/-- A number of at most sixty-four bits is called an integer. -/
private theorem foundInteger_of_lt {n : Nat} (h : n < 2 ^ 64) : foundInteger n = .ok (.integer n) := by
  unfold foundInteger
  rw [if_pos]
  simp only [Nat.pow_eq]
  omega

/-- What is called an integer is the number itself. -/
private theorem eq_of_foundInteger {z m : Int} (h : foundInteger z = .ok (.integer m)) : m = z := by
  unfold foundInteger at h
  split at h
  · cases h
    rfl
  · split at h
    · cases h
    · split at h <;> cases h

/-- A natural number is read from an integer of so many bits alone. -/
theorem natural_eq_ok_iff {bits : Nat} (small : bits ≤ 64) {v : Value} {n : Nat} :
    natural bits v = .ok n ↔ v = .scalar (.integer n) ∧ n < 2 ^ bits := by
  constructor
  · intro h
    unfold natural at h
    split at h
    · next z =>
      obtain ⟨found, hfound, hread⟩ := bind_eq_ok_iff.mp h
      split at hread
      · next m =>
        obtain rfl := eq_of_foundInteger hfound
        split at hread
        · next hm =>
          cases hread
          rw [Int.toNat_of_nonneg hm.1]
          refine ⟨rfl, (Int.toNat_lt hm.1).mpr ?_⟩
          exact_mod_cast hm.2
        · cases hread
      · cases hread
    · next other => exact absurd h (Value.refuse_ne_ok v _ n)
  · rintro ⟨rfl, hn⟩
    have hword : n < 2 ^ 64 := Nat.lt_of_lt_of_le hn (Nat.pow_le_pow_right (by decide) small)
    have hrange : (0 : Int) ≤ n ∧ (n : Int) < Nat.pow 2 bits :=
      ⟨Int.natCast_nonneg n, Int.ofNat_lt.mpr hn⟩
    refine bind_eq_ok_iff.mpr ⟨.integer n, foundInteger_of_lt hword, ?_⟩
    dsimp only
    rw [if_pos hrange]
    rfl

end Reader

end Toml

end ClusterSurvey
