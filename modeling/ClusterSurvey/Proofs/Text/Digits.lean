import ClusterSurvey.Text.Digits
import Mathlib.Algebra.GroupWithZero.Nat
import Mathlib.Data.List.Basic
import Mathlib.Data.List.Induction

/-!
# Written numbers

Without leading zeros every number is written in one way in a base, and reading what is written gives the
number back.  What follows the digits of a number does not matter unless it begins with a digit itself.
-/

namespace ClusterSurvey.Text

variable {base : Nat}

/-! ### Digits at the head of a text -/

/-- Whether a text begins with no digit. -/
def StopsDigits (base : Nat) (cs : List Char) : Prop :=
  ∀ c, cs.head? = some c → digitIn? base c = none

theorem stopsDigits_nil : StopsDigits base [] := by
  rintro c ⟨⟩

theorem stopsDigits_cons {c : Char} (h : digitIn? base c = none) (cs : List Char) :
    StopsDigits base (c :: cs) := by
  rintro d ⟨⟩
  exact h

/-- No digits stand at the head of such a text. -/
theorem StopsDigits.spanDigits_eq {cs : List Char} (h : StopsDigits base cs) :
    spanDigits base cs = ([], cs) := by
  cases cs with
  | nil => rfl
  | cons c cs => rw [spanDigits, h c rfl]

/-- Digits are read up to the end of a text if what follows begins with none. -/
theorem spanDigits_append {back : List Char} (stop : StopsDigits base back) (cs : List Char) :
    spanDigits base (cs ++ back) = ((spanDigits base cs).1, (spanDigits base cs).2 ++ back) := by
  induction cs with
  | nil => exact stop.spanDigits_eq
  | cons c cs ih =>
    rw [List.cons_append, spanDigits, spanDigits, ih]
    cases digitIn? base c <;> rfl

/-- A text is its digits and what follows them. -/
theorem exists_append_of_spanDigits (base : Nat) (cs : List Char) :
    ∃ front, cs = front ++ (spanDigits base cs).2 ∧
      front.map (digitIn? base) = (spanDigits base cs).1.map some := by
  induction cs with
  | nil => exact ⟨[], rfl, rfl⟩
  | cons c cs ih =>
    obtain ⟨front, happend, hdigits⟩ := ih
    rw [spanDigits]
    cases hc : digitIn? base c with
    | some d =>
      refine ⟨c :: front, congrArg (c :: ·) happend, ?_⟩
      rw [List.map_cons, hdigits, hc]
      rfl
    | none => exact ⟨[], rfl, rfl⟩

/-- The digits of a text are the digits that its characters are. -/
theorem spanDigits_of_map {cs : List Char} {ds : List Nat}
    (h : cs.map (digitIn? base) = ds.map some) : spanDigits base cs = (ds, []) := by
  induction cs generalizing ds with
  | nil =>
    cases ds with
    | nil => rfl
    | cons d ds => cases h
  | cons c cs ih =>
    cases ds with
    | nil => cases h
    | cons d ds =>
      rw [List.map_cons, List.map_cons, List.cons.injEq] at h
      rw [spanDigits, h.1, ih h.2]

/-- No digit is as great as the base. -/
theorem lt_of_digitIn? {c : Char} {d : Nat} (h : digitIn? base c = some d) : d < base := by
  rw [digitIn?, Option.ite_none_right_eq_some] at h
  obtain ⟨hlt, heq⟩ := h
  cases heq
  exact hlt

/-- The digits of a text are below the base. -/
theorem lt_of_mem_spanDigits {cs : List Char} {d : Nat} (h : d ∈ (spanDigits base cs).1) :
    d < base := by
  obtain ⟨front, -, hdigits⟩ := exists_append_of_spanDigits base cs
  have hmem : some d ∈ front.map (digitIn? base) := by
    rw [hdigits]
    exact List.mem_map_of_mem h
  obtain ⟨c, -, hc⟩ := List.mem_map.mp hmem
  exact lt_of_digitIn? hc

/-- A text of digits alone, and of one at least, is the number that they stand for. -/
theorem readDigits?_of_map {cs : List Char} {ds : List Nat} (ne : ds ≠ [])
    (h : cs.map (digitIn? base) = ds.map some) : readDigits? base cs = some (ofDigits base ds) := by
  unfold readDigits?
  rw [spanDigits_of_map h]
  split
  · next heq =>
    cases heq
    exact absurd rfl ne
  · next heq =>
    cases heq
    rfl
  · next heq => cases heq

/-! ### Numbers as they are written -/

/-- The digit that is written for a number below the base is this number. -/
theorem digitIn?_digitChar (small : base ≤ 16) {d : Nat} (hd : d < base) :
    digitIn? base (Nat.digitChar d) = some d := by
  have all : ∀ (b : Fin 17) (d : Fin 16), d.val < b.val →
      digitIn? b (Nat.digitChar d) = some d.val := by
    decide +kernel
  exact all ⟨base, Nat.lt_succ_of_le small⟩ ⟨d, Nat.lt_of_lt_of_le hd small⟩ hd

/-- Every digit is a character of ASCII. -/
theorem toNat_lt_of_digitIn? {c : Char} {d : Nat} (h : digitIn? base c = some d) : c.toNat < 128 := by
  have hle (b : Char) (hcb : c ≤ b) : c.toNat ≤ b.toNat := hcb
  unfold digitIn? at h
  dsimp only at h
  split at h
  · next hd => exact Nat.lt_of_le_of_lt (hle '9' hd.2) (by decide)
  · split at h
    · next hd => exact Nat.lt_of_le_of_lt (hle 'f' hd.2) (by decide)
    · split at h
      · next hd => exact Nat.lt_of_le_of_lt (hle 'F' hd.2) (by decide)
      · rw [if_neg (Nat.lt_irrefl base)] at h
        cases h

/-- A decimal digit is what is written for the number that it is. -/
theorem eq_digitChar_of_digitIn? {c : Char} {d : Nat} (h : digitIn? 10 c = some d) :
    c = Nat.digitChar d := by
  have all : ∀ n : Fin 128, ∀ d : Fin 10, digitIn? 10 (Char.ofNat n) = some d.val →
      Char.ofNat n = Nat.digitChar d := by
    decide +kernel
  have heq := all ⟨c.toNat, toNat_lt_of_digitIn? h⟩ ⟨d, lt_of_digitIn? h⟩
  rw [Char.ofNat_toNat] at heq
  exact heq h

/-- Whether digits have no leading zero, unless they are this zero alone. -/
def IsTrimmed (ds : List Nat) : Prop := ds ≠ [] ∧ (ds.head? = some 0 → ds.length = 1)

/-- One more digit counts behind the others. -/
theorem ofDigits_concat (ds : List Nat) (d : Nat) :
    ofDigits base (ds ++ [d]) = ofDigits base ds * base + d := by
  rw [ofDigits, List.foldl_append]
  rfl

/-- The first digit counts in front of the others. -/
theorem ofDigits_cons (d : Nat) (ds : List Nat) :
    ofDigits base (d :: ds) = d * base ^ ds.length + ofDigits base ds := by
  induction ds using List.reverseRecOn with
  | nil => simp [ofDigits]
  | append_singleton ds e ih =>
    rw [← List.cons_append, ofDigits_concat, ih, ofDigits_concat, List.length_append, Nat.add_mul,
      Nat.mul_assoc, ← Nat.pow_succ, Nat.add_assoc]
    rfl

/-- The digits of a number in its last places stand for what is left of it there. -/
theorem ofDigits_places (base n k : Nat) :
    ofDigits base ((List.range k).reverse.map fun i => n / base ^ i % base) = n % base ^ k := by
  induction k with
  | zero => rw [Nat.pow_zero, Nat.mod_one]; rfl
  | succ k ih =>
    rw [List.range_succ, List.reverse_append, List.reverse_singleton, List.singleton_append,
      List.map_cons, ofDigits_cons, ih, List.length_map, List.length_reverse, List.length_range,
      Nat.mod_pow_succ, Nat.mul_comm, Nat.add_comm]

/-- A number whose first digit is not zero is not zero. -/
theorem ofDigits_pos (hbase : 0 < base) {ds : List Nat} (ne : ds ≠ []) (head : ds.head? ≠ some 0) :
    0 < ofDigits base ds := by
  induction ds using List.reverseRecOn with
  | nil => exact absurd rfl ne
  | append_singleton ds d ih =>
    rw [ofDigits_concat]
    cases ds with
    | nil =>
      have hd : d ≠ 0 := fun h => head (by rw [h]; rfl)
      exact Nat.add_pos_right _ (Nat.pos_of_ne_zero hd)
    | cons e ds =>
      exact Nat.add_pos_left (Nat.mul_pos (ih (List.cons_ne_nil e ds) head) hbase) d

/-- Digits without a leading zero are what is written for the number that they stand for. -/
theorem toDigits_ofDigits (hbase : 1 < base) {ds : List Nat} (lt : ∀ d ∈ ds, d < base)
    (trimmed : IsTrimmed ds) : Nat.toDigits base (ofDigits base ds) = ds.map Nat.digitChar := by
  induction ds using List.reverseRecOn with
  | nil => exact absurd rfl trimmed.1
  | append_singleton ds d ih =>
    have hd : d < base := lt d (List.mem_append_right ds (List.mem_singleton_self d))
    cases ds with
    | nil =>
      have hone : ofDigits base ([] ++ [d]) = d := by
        rw [ofDigits_concat]
        simp [ofDigits]
      rw [hone, Nat.toDigits_of_lt_base hd]
      rfl
    | cons e ds =>
      have head : (e :: ds).head? ≠ some 0 := by
        intro h
        have hone := trimmed.2 h
        simp at hone
      have hpos := ofDigits_pos (Nat.zero_lt_of_lt hbase) (List.cons_ne_nil e ds) head
      have hfront := ih (fun x hx => lt x (List.mem_append_left [d] hx))
        ⟨List.cons_ne_nil e ds, fun h => absurd h head⟩
      have hle : base ≤ base * ofDigits base (e :: ds) + d :=
        Nat.le_add_right_of_le (Nat.le_mul_of_pos_right base hpos)
      rw [ofDigits_concat, Nat.mul_comm, Nat.toDigits_of_base_le hbase hle,
        Nat.mul_add_div (Nat.zero_lt_of_lt hbase), Nat.mul_add_mod, Nat.div_eq_of_lt hd,
        Nat.mod_eq_of_lt hd, Nat.add_zero, hfront, List.map_append]
      rfl

/-- What is written for a number are its digits without a leading zero. -/
theorem exists_digits (hbase : 1 < base) (n : Nat) :
    ∃ ds, Nat.toDigits base n = ds.map Nat.digitChar ∧ (∀ d ∈ ds, d < base) ∧
      ofDigits base ds = n ∧ IsTrimmed ds := by
  induction n using Nat.strongRecOn with
  | ind n ih =>
    by_cases hn : n < base
    · refine ⟨[n], Nat.toDigits_of_lt_base hn, ?_, ?_, List.cons_ne_nil n [], fun _ => rfl⟩
      · rw [List.forall_mem_singleton]
        exact hn
      · simp [ofDigits]
    · have hle := Nat.not_lt.mp hn
      have hquot : 0 < n / base := Nat.div_pos hle (Nat.zero_lt_of_lt hbase)
      obtain ⟨ds, hds, lt, value, ne, trimmed⟩ :=
        ih (n / base) (Nat.div_lt_self (Nat.lt_of_lt_of_le (Nat.zero_lt_of_lt hbase) hle) hbase)
      refine ⟨ds ++ [n % base], ?_, ?_, ?_, List.append_ne_nil_of_left_ne_nil ne _, ?_⟩
      · rw [Nat.toDigits_of_base_le hbase hle, hds, List.map_append]
        rfl
      · rw [List.forall_mem_append, List.forall_mem_singleton]
        exact ⟨lt, Nat.mod_lt n (Nat.zero_lt_of_lt hbase)⟩
      · rw [ofDigits_concat, value, Nat.div_add_mod']
      · -- A zero in front would be all of the quotient, which is none.
        intro head
        rw [List.head?_append_of_ne_nil ds ne] at head
        have hone := trimmed head
        obtain ⟨d, rfl⟩ := List.length_eq_one_iff.mp hone
        cases head
        have hzero : ofDigits base [0] = 0 := by simp [ofDigits]
        omega

/-- The digits of what is written for a number. -/
theorem spanDigits_toDigits (hbase : 1 < base) (small : base ≤ 16) (n : Nat) :
    ∃ ds, spanDigits base (Nat.toDigits base n) = (ds, []) ∧ ofDigits base ds = n ∧
      ds.length = (Nat.toDigits base n).length ∧ IsTrimmed ds ∧
      (Nat.toDigits base n).map (digitIn? base) = ds.map some := by
  obtain ⟨ds, hds, lt, value, trimmed⟩ := exists_digits hbase n
  have hmap : (Nat.toDigits base n).map (digitIn? base) = ds.map some := by
    rw [hds, List.map_map]
    exact List.map_congr_left fun d hd => digitIn?_digitChar small (lt d hd)
  refine ⟨ds, spanDigits_of_map hmap, value, ?_, trimmed, hmap⟩
  rw [hds, List.length_map]

/-- A character is a decimal digit in base ten if it is one of the usual ten. -/
theorem digitIn?_ten_of_isDigit {c : Char} (h : c.isDigit = true) :
    digitIn? 10 c = some (c.toNat - '0'.toNat) := by
  have hd := Char.isDigit_iff_toNat.mp h
  have hrange : '0' ≤ c ∧ c ≤ '9' := hd
  unfold digitIn?
  dsimp only
  have hlt : c.toNat - '0'.toNat < 10 := by
    have h0 : '0'.toNat = 48 := rfl
    have h9 : '9'.toNat = 57 := rfl
    omega
  rw [if_pos hrange, if_pos hlt]

/-- A text of decimal digits is the number that the library reads. -/
theorem readDigits?_of_isDigit {cs : List Char} (ne : cs ≠ []) (digits : cs.all Char.isDigit = true) :
    readDigits? 10 cs = some (Nat.ofDigitChars 10 cs 0) := by
  have hmap : cs.map (digitIn? 10) = (cs.map fun c => c.toNat - '0'.toNat).map some := by
    rw [List.map_map]
    exact List.map_congr_left fun c hc => digitIn?_ten_of_isDigit (List.all_eq_true.mp digits c hc)
  rw [readDigits?_of_map (mt List.map_eq_nil_iff.mp ne) hmap, Nat.ofDigitChars_eq_foldl, ofDigits,
    List.foldl_map]
  simp only [Nat.mul_comm]

end ClusterSurvey.Text
