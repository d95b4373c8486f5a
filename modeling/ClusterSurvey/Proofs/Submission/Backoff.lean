import ClusterSurvey.Submission.RetryPolicy
import Mathlib.Algebra.GroupWithZero.Nat

/-!
# Delays that double

Delays are reckoned in doubles.  A base of at most fifty-three binary digits is doubled without being
rounded, and a product past the greatest double is past every limit as well.  So the delay is the one
that unbounded numbers give, but for one case: a base of zero times a factor past the greatest double is
no number, and then the limit stands.
-/

namespace ClusterSurvey

/-! ### What is not rounded -/

/-- A number that has only zeros behind its first `p` binary digits is the nearest one to itself. -/
theorem roundBinary_of_dvd {p n : Nat} (h : 2 ^ (n.log2 + 1 - p) ∣ n) : roundBinary p n = n := by
  have hpos : 0 < 2 ^ (n.log2 + 1 - p) := Nat.two_pow_pos _
  unfold roundBinary
  simp only [Nat.pow_eq]
  rw [Nat.mod_eq_zero_of_dvd h, if_neg (by omega), Nat.div_mul_cancel h]

/-- So is a number of at most `p` binary digits times a power of two. -/
theorem roundBinary_mul_two_pow {p m : Nat} (h : m < 2 ^ p) (k : Nat) :
    roundBinary p (m * 2 ^ k) = m * 2 ^ k := by
  rcases Nat.eq_zero_or_pos m with rfl | hm
  · simp [roundBinary]
  · have hne : m * 2 ^ k ≠ 0 := Nat.ne_of_gt (Nat.mul_pos hm (Nat.two_pow_pos k))
    have hlog : (m * 2 ^ k).log2 < p + k := by
      rw [Nat.log2_lt hne, Nat.pow_add]
      exact Nat.mul_lt_mul_of_pos_right h (Nat.two_pow_pos k)
    refine roundBinary_of_dvd (Nat.dvd_mul_left_of_dvd (Nat.pow_dvd_pow 2 ?_) m)
    omega

namespace Double

/-- A number of at most fifty-three binary digits times a power of two is a double, unless it is past
all of them. -/
theorem nearest_mul_two_pow {m : Nat} (h : m < 2 ^ 53) (k : Nat) :
    nearest (m * 2 ^ k) = if m * 2 ^ k < 2 ^ maxDigits then finite (m * 2 ^ k) else infinite := by
  unfold nearest
  dsimp only
  rw [roundBinary_mul_two_pow h k]
  rcases Nat.eq_zero_or_pos (m * 2 ^ k) with hzero | hpos
  · rw [hzero, if_pos (by decide), if_pos (Nat.two_pow_pos maxDigits)]
  · simp only [Nat.log2_lt (Nat.ne_of_gt hpos)]

/-- Every number of at most fifty-three binary digits is a double. -/
theorem nearest_of_lt {m : Nat} (h : m < 2 ^ 53) : nearest m = finite m := by
  have hnearest := nearest_mul_two_pow h 0
  rw [Nat.pow_zero, Nat.mul_one] at hnearest
  rw [hnearest, if_pos (Nat.lt_trans h (Nat.pow_lt_pow_right (by decide) (by decide)))]

/-- So is every power of two that is not past all of them. -/
theorem nearest_two_pow (k : Nat) :
    nearest (2 ^ k) = if k < maxDigits then finite (2 ^ k) else infinite := by
  have hnearest := @nearest_mul_two_pow 1 (by decide) k
  rw [Nat.one_mul] at hnearest
  simp only [hnearest, Nat.pow_lt_pow_iff_right (Nat.lt_succ_self 1)]

/-- What a number of at most fifty-three binary digits times a power of two comes to: it is exact, or past
all doubles, or it is zero times the infinite one. -/
theorem mul_two_pow_cases {m : Nat} (h : m < 2 ^ 53) (k : Nat) :
    ((m ≠ 0 ∨ k < maxDigits) ∧ (nearest m).mul (nearest (2 ^ k)) = finite (m * 2 ^ k)) ∨
      (2 ^ maxDigits ≤ m * 2 ^ k ∧ (nearest m).mul (nearest (2 ^ k)) = infinite) ∨
      (m = 0 ∧ maxDigits ≤ k ∧ (nearest m).mul (nearest (2 ^ k)) = notANumber) := by
  rw [nearest_of_lt h, nearest_two_pow]
  by_cases hk : k < maxDigits
  · rw [if_pos hk, mul, nearest_mul_two_pow h]
    by_cases hfits : m * 2 ^ k < 2 ^ maxDigits
    · exact .inl ⟨.inr hk, if_pos hfits⟩
    · exact .inr (.inl ⟨Nat.le_of_not_lt hfits, if_neg hfits⟩)
  · have hfactor : 2 ^ maxDigits ≤ 2 ^ k := Nat.pow_le_pow_right (by decide) (Nat.le_of_not_lt hk)
    rw [if_neg hk, mul]
    by_cases hm : m = 0
    · exact .inr (.inr ⟨hm, Nat.le_of_not_lt hk, if_pos hm⟩)
    · have hpast : 2 ^ k ≤ m * 2 ^ k := Nat.le_mul_of_pos_left _ (Nat.pos_of_ne_zero hm)
      exact .inr (.inl ⟨Nat.le_trans hfactor hpast, if_neg hm⟩)

/-- What a double comes to that is capped by a limit of at most fifty-three binary digits: nothing that
is not finite is less than the limit. -/
theorem toWord_capped {limit : Nat} (h : limit < 2 ^ 53) (x : Double) :
    ((x.min (nearest limit)).max (finite 0)).toWord =
      match x with
      | finite n => Min.min n limit
      | _ => limit := by
  have hword : limit ≤ greatestWord := Nat.le_trans (Nat.le_of_lt h) (by decide)
  rw [nearest_of_lt h]
  cases x with
  | finite n =>
    simp only [Double.min, Double.max, toWord, Nat.max_zero]
    exact Nat.min_eq_left (Nat.le_trans (Nat.min_le_right n limit) hword)
  | infinite =>
    simp only [Double.min, Double.max, toWord, Nat.max_zero]
    exact Nat.min_eq_left hword
  | notANumber =>
    simp only [Double.min, Double.max, toWord, Nat.max_zero]
    exact Nat.min_eq_left hword

end Double

namespace RetryPolicy

variable {p : RetryPolicy} {attempt : Nat}

/-! ### The delay after an attempt -/

/-- The delay after an attempt is the base doubled for each attempt before, up to the limit, unless there
is nothing to double and the factor is past the greatest double. -/
theorem baseDelay_eq (base : p.backoffBase < 2 ^ 53) (limit : p.backoffMax < 2 ^ 53)
    (h : 0 < attempt) :
    p.baseDelay attempt =
      if p.backoffBase = 0 ∧ Double.maxDigits < attempt then p.backoffMax
      else min (p.backoffBase * 2 ^ (attempt - 1)) p.backoffMax := by
  unfold baseDelay
  rw [if_neg (Nat.ne_of_gt h)]
  dsimp only
  rw [Nat.pow_eq, Double.toWord_capped limit]
  rcases Double.mul_two_pow_cases base (attempt - 1) with ⟨hcounts, hproduct⟩ |
    ⟨hpast, hproduct⟩ | ⟨hzero, hlate, hproduct⟩
  · rw [hproduct, if_neg]
    rintro ⟨hzero, hlate⟩
    rcases hcounts with hne | hlt
    · exact hne hzero
    · omega
  · have hlimit : p.backoffMax < 2 ^ Double.maxDigits :=
      Nat.lt_trans limit (Nat.pow_lt_pow_right (by decide) (by decide))
    rw [hproduct, if_neg, Nat.min_eq_right (Nat.le_trans (Nat.le_of_lt hlimit) hpast)]
    rintro ⟨hzero, -⟩
    rw [hzero, Nat.zero_mul] at hpast
    exact absurd (Nat.two_pow_pos Double.maxDigits) (Nat.not_lt_of_le hpast)
  · rw [hproduct, if_pos ⟨hzero, by omega⟩]

/-- The delays of a policy, before they are spread. -/
structure Doubles (p : RetryPolicy) : Prop where
  /-- The base is doubled for each attempt before, up to the limit. -/
  formula : ∀ attempt, 0 < attempt → p.backoffBase ≠ 0 ∨ attempt ≤ 1024 →
    p.baseDelay attempt = min (p.backoffBase * 2 ^ (attempt - 1)) p.backoffMax
  /-- A base of zero stays what it is as long as the factor is a double. -/
  idle : p.backoffBase = 0 → ∀ attempt, attempt ≤ 1024 → p.baseDelay attempt = 0
  /-- Behind that the limit stands. -/
  late : p.backoffBase = 0 → ∀ attempt, 1024 < attempt → p.baseDelay attempt = p.backoffMax
  /-- No delay is shorter than the one before. -/
  monotone : ∀ a b, a ≤ b → p.baseDelay a ≤ p.baseDelay b
  /-- No delay exceeds the limit. -/
  le_limit : ∀ attempt, p.baseDelay attempt ≤ p.backoffMax

/-- Before the first attempt there is no delay. -/
theorem baseDelay_zero (p : RetryPolicy) : p.baseDelay 0 = 0 := rfl

/-- If base and limit have at most fifty-three binary digits, the delays of a policy double up to the
limit. -/
theorem doubles_of_lt (base : p.backoffBase < 2 ^ 53) (limit : p.backoffMax < 2 ^ 53) : Doubles p := by
  have formula (attempt : Nat) (h : 0 < attempt) (hcounts : p.backoffBase ≠ 0 ∨ attempt ≤ 1024) :
      p.baseDelay attempt = min (p.backoffBase * 2 ^ (attempt - 1)) p.backoffMax := by
    rw [baseDelay_eq base limit h, if_neg]
    rintro ⟨hzero, hlate⟩
    exact hcounts.elim (absurd hzero) (Nat.not_le_of_lt hlate)
  have late (hzero : p.backoffBase = 0) (attempt : Nat) (h : 1024 < attempt) :
      p.baseDelay attempt = p.backoffMax := by
    rw [baseDelay_eq base limit (Nat.zero_lt_of_lt h), if_pos ⟨hzero, h⟩]
  have le_limit (attempt : Nat) : p.baseDelay attempt ≤ p.backoffMax := by
    rcases Nat.eq_zero_or_pos attempt with rfl | h
    · exact Nat.zero_le _
    · rw [baseDelay_eq base limit h]
      split
      · exact Nat.le_refl _
      · exact Nat.min_le_right _ _
  refine ⟨formula, fun hzero attempt h => ?_, late, fun a b hab => ?_, le_limit⟩
  · rcases Nat.eq_zero_or_pos attempt with rfl | hpos
    · exact p.baseDelay_zero
    · rw [formula attempt hpos (.inr h), hzero, Nat.zero_mul, Nat.zero_min]
  · rcases Nat.eq_zero_or_pos a with rfl | ha
    · exact Nat.zero_le _
    · by_cases hlate : p.backoffBase = 0 ∧ 1024 < b
      · rw [late hlate.1 b hlate.2]
        exact le_limit a
      · have hb : p.backoffBase ≠ 0 ∨ b ≤ 1024 := by omega
        have hpow : 2 ^ (a - 1) ≤ 2 ^ (b - 1) := Nat.pow_le_pow_right (by decide) (by omega)
        rw [formula a ha (by omega), formula b (by omega) hb]
        exact Nat.le_min.mpr ⟨Nat.le_trans (Nat.min_le_left _ _) (Nat.mul_le_mul_left _ hpow),
          Nat.min_le_right _ _⟩

/-- The greatest numbers for which that is known. -/
theorem doubles_greatest :
    let p : RetryPolicy := { default with backoffBase := 2 ^ 53 - 1, backoffMax := 2 ^ 53 - 1 }
    p.backoffBase < 2 ^ 53 ∧ p.backoffMax < 2 ^ 53 ∧ Doubles p ∧ p.baseDelay 1025 = 2 ^ 53 - 1 :=
  ⟨by decide, by decide, doubles_of_lt (by decide) (by decide), by decide +kernel⟩

/-- Nothing, doubled for 1024 attempts, is the limit. -/
theorem baseDelay_nothing_late :
    let p : RetryPolicy := { default with backoffBase := 0 }
    p.backoffBase < 2 ^ 53 ∧ p.backoffMax < 2 ^ 53 ∧ p.baseDelay 1024 = 0 ∧
      p.baseDelay 1025 = 10000 ∧ min (p.backoffBase * 2 ^ (1025 - 1)) p.backoffMax = 0 :=
  ⟨by decide, by decide, by decide +kernel, by decide +kernel, by decide +kernel⟩

end RetryPolicy

end ClusterSurvey
