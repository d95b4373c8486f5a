import ClusterSurvey.Proofs.Text.Digits
import ClusterSurvey.Text.Natural

/-!
# Numbers of limited size

A number is read from decimal digits, at least one of them and perhaps with a plus sign in front, if it
has no more bits than allowed, and from nothing else.  Leading zeros do not matter.
-/

namespace ClusterSurvey.Text

/-- Whether a text spells out a number in decimal digits. -/
def IsNumeral (t : String) (n : Nat) : Prop :=
  ∃ digits : List Char, digits ≠ [] ∧ (∀ c ∈ digits, c.isDigit = true) ∧
    (t.toList = digits ∨ t.toList = '+' :: digits) ∧ n = Nat.ofDigitChars 10 digits 0

/-- The digits in base ten are the decimal digits. -/
theorem digitIn?_ten_eq_some_iff {c : Char} {d : Nat} :
    digitIn? 10 c = some d ↔ c.isDigit = true ∧ d = c.toNat - '0'.toNat := by
  constructor
  · intro h
    have hdigit : c.isDigit = true := by
      rw [eq_digitChar_of_digitIn? h, Nat.isDigit_digitChar]
      exact decide_eq_true (lt_of_digitIn? h)
    rw [digitIn?_ten_of_isDigit hdigit] at h
    exact ⟨hdigit, (Option.some.inj h).symm⟩
  · rintro ⟨hdigit, rfl⟩
    exact digitIn?_ten_of_isDigit hdigit

/-- More digits do not make a number less. -/
private theorem le_ofDigitChars (cs : List Char) (m : Nat) : m ≤ Nat.ofDigitChars 10 cs m := by
  induction cs generalizing m with
  | nil => exact Nat.le_refl m
  | cons c cs ih =>
    rw [Nat.ofDigitChars_cons]
    exact Nat.le_trans (by omega) (ih _)

/-- Digits are appended as long as the number stays below the bound. -/
theorem appendDigits_eq_ok_iff {bound m n : Nat} (hm : m < bound) {cs : List Char} :
    appendDigits bound m cs = .ok n ↔
      (∀ c ∈ cs, c.isDigit = true) ∧ n = Nat.ofDigitChars 10 cs m ∧ n < bound := by
  induction cs generalizing m with
  | nil =>
    rw [appendDigits]
    constructor
    · intro h
      cases h
      exact ⟨List.forall_mem_nil _, rfl, hm⟩
    · rintro ⟨-, rfl, -⟩
      rfl
  | cons c cs ih =>
    rw [appendDigits, List.forall_mem_cons, Nat.ofDigitChars_cons]
    split
    · next hnone =>
      constructor
      · intro h
        cases h
      · rintro ⟨⟨hdigit, -⟩, -⟩
        rw [digitIn?_ten_of_isDigit hdigit] at hnone
        cases hnone
    · next d hd =>
      obtain ⟨hdigit, rfl⟩ := digitIn?_ten_eq_some_iff.mp hd
      split
      · next hlt => rw [ih hlt, and_iff_right hdigit]
      · next hge =>
        constructor
        · intro h
          cases h
        · rintro ⟨-, rfl, hlt⟩
          exact absurd (Nat.lt_of_le_of_lt (le_ofDigitChars cs _) hlt) hge

/-- A plus sign is no digit. -/
private theorem ne_plus_of_isDigit {cs rest : List Char} (h : ∀ c ∈ cs, c.isDigit = true) :
    cs ≠ '+' :: rest := by
  rintro rfl
  have hplus := h '+' List.mem_cons_self
  revert hplus
  decide

/-- A number is read from a numeral of so many bits, and from nothing else. -/
theorem readNatural_eq_ok_iff {bits n : Nat} {t : String} :
    readNatural bits t = .ok n ↔ IsNumeral t n ∧ n < 2 ^ bits := by
  have zero_lt : 0 < Nat.pow 2 bits := Nat.two_pow_pos bits
  unfold readNatural IsNumeral
  split
  · next hempty =>
    refine ⟨nofun, ?_⟩
    rintro ⟨⟨digits, ne, hdigits, hplain | hsign, -⟩, -⟩
    · exact absurd (hplain.symm.trans hempty) ne
    · cases hsign.symm.trans hempty
  · next hplus =>
    refine ⟨nofun, ?_⟩
    rintro ⟨⟨digits, ne, hdigits, hplain | hsign, -⟩, -⟩
    · exact absurd (hplain.symm.trans hplus) (ne_plus_of_isDigit hdigits)
    · cases hsign.symm.trans hplus
      exact absurd rfl ne
  · next cs hsigned ht =>
    rw [appendDigits_eq_ok_iff zero_lt]
    constructor
    · rintro ⟨hdigits, hn, hlt⟩
      exact ⟨⟨cs, fun hnil => hsigned (by rw [hnil]), hdigits, .inr ht, hn⟩, hlt⟩
    · rintro ⟨⟨digits, ne, hdigits, hplain | hsign, hn⟩, hlt⟩
      · exact absurd (hplain.symm.trans ht) (ne_plus_of_isDigit hdigits)
      · cases hsign.symm.trans ht
        exact ⟨hdigits, hn, hlt⟩
  · next hempty _ hunsigned =>
    rw [appendDigits_eq_ok_iff zero_lt]
    constructor
    · rintro ⟨hdigits, hn, hlt⟩
      exact ⟨⟨t.toList, fun hnil => hempty hnil, hdigits, .inl rfl, hn⟩, hlt⟩
    · rintro ⟨⟨digits, ne, hdigits, hplain | hsign, hn⟩, hlt⟩
      · rw [hplain]
        exact ⟨hdigits, hn, hlt⟩
      · exact absurd hsign (hunsigned digits)

end ClusterSurvey.Text
