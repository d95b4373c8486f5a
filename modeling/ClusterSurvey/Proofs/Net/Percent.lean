import ClusterSurvey.Net.Url

/-!
# What percent signs stand for

A text that is written with percent signs stands for what it stood for before, whatever characters are
escaped in a path: an escape begins with the percent sign, which is no digit, so that it never completes
a percent sign that was there before.  What a written form stands for has no more octets than the form
itself, and as many only if nothing in it is escaped.
-/

namespace ClusterSurvey.Net

/-! ### Octets of characters -/

/-- The octets of characters. -/
def octetsOf (cs : List Char) : List UInt8 := cs.flatMap String.utf8EncodeChar

theorem octetsOf_append (cs ds : List Char) : octetsOf (cs ++ ds) = octetsOf cs ++ octetsOf ds :=
  List.flatMap_append

theorem octetsOf_cons (c : Char) (cs : List Char) :
    octetsOf (c :: cs) = String.utf8EncodeChar c ++ octetsOf cs :=
  List.flatMap_cons

/-- The octets of a text are those of its characters. -/
theorem toList_octets (s : String) : (Text.octets s).data.toList = octetsOf s.toList := by
  have h : (String.ofList s.toList).toByteArray = s.toList.utf8Encode := String.toByteArray_ofList
  rw [String.ofList_toList] at h
  have hs : Text.octets s = s.toList.utf8Encode := h
  rw [hs, List.utf8Encode]
  simp [octetsOf]

/-- A character of the common half stands for itself. -/
theorem utf8EncodeChar_of_ascii {c : Char} (h : c.toNat ≤ 0x7f) :
    String.utf8EncodeChar c = [UInt8.ofNat c.toNat] := by
  have hv : c.val.toNat ≤ 0x7f := h
  simp only [String.utf8EncodeChar, if_pos hv]
  rfl

/-- The octets of any other character lie in the upper half. -/
theorem le_of_mem_utf8EncodeChar {c : Char} (h : 0x7f < c.toNat) {b : UInt8}
    (hb : b ∈ String.utf8EncodeChar c) : 0x80 ≤ b.toNat := by
  have hv : ¬ c.val.toNat ≤ 0x7f := Nat.not_le_of_lt h
  simp only [String.utf8EncodeChar, if_neg hv] at hb
  split at hb
  · simp only [List.mem_cons, List.not_mem_nil, or_false] at hb
    rcases hb with rfl | rfl <;> rw [UInt8.toNat_ofNat'] <;> omega
  · split at hb
    · simp only [List.mem_cons, List.not_mem_nil, or_false] at hb
      rcases hb with rfl | rfl | rfl <;> rw [UInt8.toNat_ofNat'] <;> omega
    · simp only [List.mem_cons, List.not_mem_nil, or_false] at hb
      rcases hb with rfl | rfl | rfl | rfl <;> rw [UInt8.toNat_ofNat'] <;> omega

/-- Only the percent sign has its octet. -/
theorem ne_percentSign_of_mem {c : Char} (hc : c ≠ '%') {b : UInt8}
    (hb : b ∈ String.utf8EncodeChar c) : b ≠ percentSign := by
  rintro rfl
  by_cases h : c.toNat ≤ 0x7f
  · rw [utf8EncodeChar_of_ascii h, List.mem_singleton] at hb
    have hnat := congrArg UInt8.toNat hb
    rw [UInt8.toNat_ofNat'] at hnat
    have hpercent : c.toNat = '%'.toNat := by
      have hsign : percentSign.toNat = 0x25 := rfl
      have hchar : '%'.toNat = 0x25 := rfl
      omega
    exact hc (Char.toNat_inj.mp hpercent)
  · have hle := le_of_mem_utf8EncodeChar (Nat.lt_of_not_le h) hb
    revert hle
    decide

/-! ### Reading percent signs -/

/-- The digit with which octets begin, and what follows it. -/
def digitHead? : List UInt8 → Option (Nat × List UInt8)
  | [] => none
  | b :: bs => (octetDigit? b).map fun x => (x, bs)

/-- The octet for which two digits stand, and what follows them. -/
def digitPair? (bs : List UInt8) : Option (UInt8 × List UInt8) :=
  (digitHead? bs).bind fun p => (digitHead? p.2).map fun q => (UInt8.ofNat (p.1 * 16 + q.1), q.2)

theorem percentDecode_of_ne {b : UInt8} (h : b ≠ percentSign) (bs : List UInt8) :
    percentDecode (b :: bs) = b :: percentDecode bs := by
  rcases bs with - | ⟨x, - | ⟨y, bs⟩⟩
  · rfl
  · rfl
  · rw [percentDecode, if_neg h]

/-- A percent sign with two digits stands for an octet, and any other one for itself. -/
theorem percentDecode_percentSign (bs : List UInt8) :
    percentDecode (percentSign :: bs) =
      match digitPair? bs with
      | some (b, rest) => b :: percentDecode rest
      | none => percentSign :: percentDecode bs := by
  rcases bs with - | ⟨x, - | ⟨y, bs⟩⟩
  · rfl
  · cases hx : octetDigit? x <;> simp [digitPair?, digitHead?, hx, percentDecode]
  · rw [percentDecode, if_pos rfl]
    cases hx : octetDigit? x <;> cases hy : octetDigit? y <;>
      simp [digitPair?, digitHead?, hx, hy]

/-- Two digits are more than nothing. -/
theorem length_lt_of_digitPair? {bs : List UInt8} {p : UInt8 × List UInt8}
    (h : digitPair? bs = some p) : p.2.length < bs.length := by
  have hhead {ds : List UInt8} {q : Nat × List UInt8} (hq : digitHead? ds = some q) :
      q.2.length < ds.length := by
    cases ds with
    | nil => cases hq
    | cons d ds =>
      obtain ⟨x, -, rfl⟩ := Option.map_eq_some_iff.mp hq
      exact Nat.lt_succ_self _
  obtain ⟨q, hq, hmap⟩ := Option.bind_eq_some_iff.mp h
  obtain ⟨r, hr, rfl⟩ := Option.map_eq_some_iff.mp hmap
  exact Nat.lt_trans (hhead hr) (hhead hq)

/-- Octets without a percent sign stand for themselves. -/
theorem percentDecode_append_of_ne {bs : List UInt8} (h : ∀ b ∈ bs, b ≠ percentSign)
    (rest : List UInt8) : percentDecode (bs ++ rest) = bs ++ percentDecode rest := by
  induction bs with
  | nil => rfl
  | cons b bs ih =>
    rw [List.cons_append, percentDecode_of_ne (h b List.mem_cons_self),
      ih fun x hx => h x (List.mem_cons_of_mem b hx), List.cons_append]

/-- What a written form stands for has no more octets than the form. -/
theorem length_percentDecode_le (bs : List UInt8) : (percentDecode bs).length ≤ bs.length := by
  fun_induction percentDecode bs with
  | case1 a b rest x y hx hy ih =>
    simp only [List.length_cons]
    omega
  | case2 a b rest hpair ih => exact Nat.succ_le_succ ih
  | case3 p a b rest hp ih => exact Nat.succ_le_succ ih
  | case4 p rest hshort ih => exact Nat.succ_le_succ ih
  | case5 => exact Nat.le_refl 0

/-! ### Writing percent signs -/

private theorem octetDigit?_upperDigit :
    ∀ n : Fin 16, octetDigit? (UInt8.ofNat (upperDigit n).toNat) = some n.val ∧
      (upperDigit n).toNat ≤ 0x7f ∧ upperDigit n ≠ '/' := by
  decide

/-- An octet behind a percent sign stands for itself. -/
theorem percentDecode_percentOctet (b : UInt8) (rest : List UInt8) :
    percentDecode (octetsOf (percentOctet b) ++ rest) = b :: percentDecode rest := by
  have hb := b.toNat_lt
  obtain ⟨hhigh, hhigh', -⟩ := octetDigit?_upperDigit ⟨b.toNat / 16, by omega⟩
  obtain ⟨hlow, hlow', -⟩ := octetDigit?_upperDigit ⟨b.toNat % 16, by omega⟩
  have hoctets : octetsOf (percentOctet b) = [percentSign,
      UInt8.ofNat (upperDigit (b.toNat / 16)).toNat, UInt8.ofNat (upperDigit (b.toNat % 16)).toNat] := by
    simp only [percentOctet, octetsOf, List.flatMap_cons, List.flatMap_nil,
      utf8EncodeChar_of_ascii hhigh', utf8EncodeChar_of_ascii hlow']
    rfl
  rw [hoctets]
  simp only [List.cons_append, List.nil_append, percentDecode, if_true, hhigh, hlow]
  have hsum : b.toNat / 16 * 16 + b.toNat % 16 = b.toNat := Nat.div_add_mod' b.toNat 16
  rw [hsum, UInt8.ofNat_toNat]

/-- Octets behind percent signs stand for themselves. -/
theorem percentDecode_percentOctets (bs rest : List UInt8) :
    percentDecode (octetsOf (bs.flatMap percentOctet) ++ rest) = bs ++ percentDecode rest := by
  induction bs with
  | nil => rfl
  | cons b bs ih =>
    rw [List.flatMap_cons, octetsOf_append, List.append_assoc, percentDecode_percentOctet, ih,
      List.cons_append]

/-- A character behind percent signs begins with one, and stands for its octets. -/
theorem percentChar_eq (c : Char) :
    percentChar c = (String.utf8EncodeChar c).flatMap percentOctet := by
  rw [percentChar, toList_octets]
  simp [octetsOf]

/-! ### Texts in a path -/

/-- The form of characters in a path. -/
def inPath (cs : List Char) : List Char := percentEncode escapedInPath cs

theorem inPath_cons (c : Char) (cs : List Char) :
    inPath (c :: cs) = (if escapedInPath c then percentChar c else [c]) ++ inPath cs := by
  rw [inPath, percentEncode, List.flatMap_cons]
  rfl

/-- No characters but none at all have an empty form. -/
theorem inPath_eq_nil_iff (cs : List Char) : inPath cs = [] ↔ cs = [] := by
  constructor
  · intro h
    cases cs with
    | nil => rfl
    | cons c cs =>
      rw [inPath_cons, List.append_eq_nil_iff, percentChar_eq] at h
      obtain ⟨hform, -⟩ := h
      split at hform
      · have ne : String.utf8EncodeChar c ≠ [] := String.utf8EncodeChar_ne_nil
        obtain ⟨b, hb⟩ := List.exists_mem_of_ne_nil _ ne
        cases List.flatMap_eq_nil_iff.mp hform b hb
      · cases hform
  · rintro rfl
    rfl

/-- The digit that a character is. -/
def charDigit? (c : Char) : Option Nat :=
  if c.toNat ≤ 0x7f then octetDigit? (UInt8.ofNat c.toNat) else none

/-- No digit is escaped. -/
theorem charDigit?_of_escapedInPath {c : Char} (h : escapedInPath c = true) : charDigit? c = none := by
  have hascii : ∀ n : Fin 128, escapedInPath (Char.ofNat n) = true →
      octetDigit? (UInt8.ofNat n) = none := by
    decide
  unfold charDigit?
  split
  · next hc =>
    refine hascii ⟨c.toNat, by omega⟩ ?_
    rwa [Char.ofNat_toNat]
  · rfl

/-- Characters begin with a digit if the first one is a digit. -/
theorem digitHead?_octetsOf_cons (c : Char) (cs : List Char) :
    digitHead? (octetsOf (c :: cs)) = (charDigit? c).map fun x => (x, octetsOf cs) := by
  rw [octetsOf_cons]
  unfold charDigit?
  split
  · next hc =>
    rw [utf8EncodeChar_of_ascii hc]
    rfl
  · next hc =>
    cases hbs : String.utf8EncodeChar c with
    | nil => exact absurd hbs String.utf8EncodeChar_ne_nil
    | cons b bs =>
      have hb := le_of_mem_utf8EncodeChar (Nat.lt_of_not_le hc) (hbs ▸ List.mem_cons_self)
      have hnone : octetDigit? b = none := by
        unfold octetDigit?
        dsimp only
        rw [if_neg (by omega), if_neg (by omega), if_neg (by omega)]
      simp [digitHead?, hnone]

/-- So does their form in a path. -/
theorem digitHead?_octetsOf_inPath (c : Char) (cs : List Char) :
    digitHead? (octetsOf (inPath (c :: cs))) =
      (charDigit? c).map fun x => (x, octetsOf (inPath cs)) := by
  rw [inPath_cons]
  split
  · next hc =>
    have hpercent : ∃ rest, octetsOf (percentChar c ++ inPath cs) = percentSign :: rest := by
      cases hbs : String.utf8EncodeChar c with
      | nil => exact absurd hbs String.utf8EncodeChar_ne_nil
      | cons b bs =>
        rw [percentChar_eq, hbs]
        exact ⟨_, rfl⟩
    obtain ⟨rest, hrest⟩ := hpercent
    rw [hrest, charDigit?_of_escapedInPath hc]
    rfl
  · exact digitHead?_octetsOf_cons c (inPath cs)

/-- Whether a percent sign stands for an octet in front of some characters is the same in front of
their form in a path. -/
theorem digitPair?_cases (cs : List Char) :
    (digitPair? (octetsOf cs) = none ∧ digitPair? (octetsOf (inPath cs)) = none) ∨
      ∃ b ds, ds.length < cs.length ∧ digitPair? (octetsOf cs) = some (b, octetsOf ds) ∧
        digitPair? (octetsOf (inPath cs)) = some (b, octetsOf (inPath ds)) := by
  rcases cs with - | ⟨c, - | ⟨d, ds⟩⟩
  · exact .inl ⟨rfl, rfl⟩
  · refine .inl ⟨?_, ?_⟩
    · rw [digitPair?, digitHead?_octetsOf_cons]
      cases charDigit? c <;> rfl
    · rw [digitPair?, digitHead?_octetsOf_inPath]
      cases charDigit? c <;> rfl
  · simp only [digitPair?, digitHead?_octetsOf_cons, digitHead?_octetsOf_inPath]
    cases hc : charDigit? c with
    | none => exact .inl ⟨rfl, rfl⟩
    | some x =>
      simp only [Option.map_some, Option.bind_some, digitHead?_octetsOf_cons,
        digitHead?_octetsOf_inPath]
      cases hd : charDigit? d with
      | none => exact .inl ⟨rfl, rfl⟩
      | some y => exact .inr ⟨_, ds, Nat.lt_add_of_pos_right Nat.two_pos, rfl, rfl⟩

/-- The form of characters in a path stands for what they stand for themselves. -/
theorem percentDecode_inPath (cs : List Char) :
    percentDecode (octetsOf (inPath cs)) = percentDecode (octetsOf cs) := by
  induction hn : cs.length using Nat.strongRecOn generalizing cs with
  | ind n ih =>
    cases cs with
    | nil => rfl
    | cons c cs =>
      have hrest := ih cs.length (by rw [← hn]; exact Nat.lt_succ_self _) cs rfl
      by_cases hc : c = '%'
      · subst hc
        have hsign (ds : List Char) : octetsOf ('%' :: ds) = percentSign :: octetsOf ds := rfl
        have hform : inPath ('%' :: cs) = '%' :: inPath cs := rfl
        rw [hform, hsign, hsign, percentDecode_percentSign, percentDecode_percentSign]
        rcases digitPair?_cases cs with ⟨hnone, hnone'⟩ | ⟨b, ds, hlt, hsome, hsome'⟩
        · rw [hnone, hnone', hrest]
        · have hlater := ih ds.length (by rw [← hn]; exact Nat.lt_succ_of_lt hlt) ds rfl
          simp only [hsome, hsome', hlater]
      · have hplain : ∀ b ∈ String.utf8EncodeChar c, b ≠ percentSign :=
          fun b hb => ne_percentSign_of_mem hc hb
        rw [octetsOf_cons, percentDecode_append_of_ne hplain, inPath_cons]
        split
        · rw [octetsOf_append, percentChar_eq, percentDecode_percentOctets, hrest]
        · rw [List.singleton_append, octetsOf_cons, percentDecode_append_of_ne hplain, hrest]

/-! ### Texts that come through -/

/-- Characters stand for a text if what percent signs in them stand for are its octets. -/
theorem percentText?_eq_some_iff (cs : List Char) (s : String) :
    percentText? (String.ofList cs) = some s ↔ percentDecode (octetsOf cs) = octetsOf s.toList := by
  unfold percentText?
  rw [Text.ofOctets?_eq_some_iff, toList_octets, String.toList_ofList, ← toList_octets s]
  constructor
  · intro h
    rw [h]
  · intro h
    rw [h]

/-- Whether nothing in a text is an escape: behind no percent sign stand two digits. -/
def IsUnescaped (cs : List Char) : Prop :=
  ∀ x y, ['%', x, y] <:+: cs → charDigit? x = none ∨ charDigit? y = none

theorem isUnescaped_cons_of_ne {c : Char} (h : c ≠ '%') (cs : List Char) :
    IsUnescaped (c :: cs) ↔ IsUnescaped cs := by
  have hinfix (x y : Char) : ['%', x, y] <:+: c :: cs ↔ ['%', x, y] <:+: cs := by
    rw [List.infix_cons_iff, List.cons_prefix_cons]
    exact ⟨fun hor => hor.resolve_left fun hand => h hand.1.symm, Or.inr⟩
  simp only [IsUnescaped, hinfix]

/-- Behind a percent sign a text begins with no octet, and has no escape further on. -/
theorem isUnescaped_percentSign (cs : List Char) :
    IsUnescaped ('%' :: cs) ↔ digitPair? (octetsOf cs) = none ∧ IsUnescaped cs := by
  have hinfix (x y : Char) : ['%', x, y] <:+: '%' :: cs ↔ [x, y] <+: cs ∨ ['%', x, y] <:+: cs := by
    rw [List.infix_cons_iff, List.cons_prefix_cons]
    exact or_congr_left ⟨And.right, And.intro rfl⟩
  have hpair : digitPair? (octetsOf cs) = none ↔
      ∀ x y, [x, y] <+: cs → charDigit? x = none ∨ charDigit? y = none := by
    rcases cs with - | ⟨c, - | ⟨d, ds⟩⟩
    · exact ⟨fun _ x y hp => absurd hp.length_le (by simp), fun _ => rfl⟩
    · refine ⟨fun _ x y hp => absurd hp.length_le (by simp), fun _ => ?_⟩
      rw [digitPair?, digitHead?_octetsOf_cons]
      cases charDigit? c <;> rfl
    · rw [digitPair?, digitHead?_octetsOf_cons]
      cases hc : charDigit? c <;> cases hd : charDigit? d <;>
        simp [digitHead?_octetsOf_cons, List.cons_prefix_cons, hc, hd]
  simp only [IsUnescaped, hinfix, hpair]
  exact ⟨fun h => ⟨fun x y hp => h x y (.inl hp), fun x y hi => h x y (.inr hi)⟩,
    fun h x y hor => hor.elim (h.1 x y) (h.2 x y)⟩

/-- Characters stand for themselves if nothing in them is an escape. -/
theorem percentDecode_octetsOf_eq_self_iff (cs : List Char) :
    percentDecode (octetsOf cs) = octetsOf cs ↔ IsUnescaped cs := by
  induction cs with
  | nil =>
    exact ⟨fun _ x y h => absurd h.length_le (by simp), fun _ => rfl⟩
  | cons c cs ih =>
    by_cases hc : c = '%'
    · subst hc
      have hsign : octetsOf ('%' :: cs) = percentSign :: octetsOf cs := rfl
      rw [hsign, percentDecode_percentSign, isUnescaped_percentSign, ← ih]
      cases hpair : digitPair? (octetsOf cs) with
      | none => simp
      | some p =>
        have hlength := length_percentDecode_le p.2
        have hshort := length_lt_of_digitPair? hpair
        refine ⟨fun h => ?_, fun h => nomatch h.1⟩
        have hcount := congrArg List.length h
        simp only [List.length_cons] at hcount
        omega
    · have hplain : ∀ b ∈ String.utf8EncodeChar c, b ≠ percentSign :=
        fun b hb => ne_percentSign_of_mem hc hb
      rw [octetsOf_cons, percentDecode_append_of_ne hplain, List.append_right_inj, ih,
        isUnescaped_cons_of_ne hc]

instance (cs : List Char) : Decidable (IsUnescaped cs) :=
  decidable_of_iff _ (percentDecode_octetsOf_eq_self_iff cs)

/-- A text stands for itself if nothing in it is an escape. -/
theorem percentText?_eq_self_iff (s : String) : percentText? s = some s ↔ IsUnescaped s.toList := by
  rw [← percentDecode_octetsOf_eq_self_iff, ← percentText?_eq_some_iff, String.ofList_toList]

/-- The form of characters in a path stands for the text for which they stand themselves. -/
theorem percentText?_inPath (cs : List Char) :
    percentText? (String.ofList (inPath cs)) = percentText? (String.ofList cs) := by
  unfold percentText?
  rw [toList_octets, toList_octets, String.toList_ofList, String.toList_ofList, percentDecode_inPath]

/-- The first characters of a text stand for it only if they are the whole text and nothing in it is
escaped. -/
theorem eq_of_percentText?_of_isPrefix {cs ds : List Char} (h : cs <+: ds)
    (hs : percentText? (String.ofList cs) = some (String.ofList ds)) : cs = ds := by
  obtain ⟨rest, rfl⟩ := h
  rw [percentText?_eq_some_iff, String.toList_ofList, octetsOf_append] at hs
  have hle := length_percentDecode_le (octetsOf cs)
  rw [hs, List.length_append] at hle
  have hnil : octetsOf rest = [] := List.length_eq_zero_iff.mp (by omega)
  cases rest with
  | nil => exact (List.append_nil cs).symm
  | cons c rest =>
    rw [octetsOf_cons] at hnil
    exact absurd (List.append_eq_nil_iff.mp hnil).1 String.utf8EncodeChar_ne_nil

/-- A text without escapes does not begin with an escaped point. -/
theorem IsUnescaped.ne_escapedPoint {cs : List Char} (h : IsUnescaped cs) (e : Char)
    (he : e = 'e' ∨ e = 'E') (rest : List Char) : cs ≠ '%' :: '2' :: e :: rest := by
  rintro rfl
  have hfront : ['%', '2', e] <+: '%' :: '2' :: e :: rest := ⟨rest, rfl⟩
  rcases h '2' e hfront.isInfix with htwo | hletter
  · revert htwo
    decide
  · rcases he with rfl | rfl <;> revert hletter <;> decide

/-- The form of characters in a path has no slash but theirs. -/
theorem slash_not_mem_inPath {cs : List Char} (h : '/' ∉ cs) : '/' ∉ inPath cs := by
  intro hmem
  obtain ⟨c, hc, hmem⟩ := List.mem_flatMap.mp hmem
  split at hmem
  · rw [percentChar_eq] at hmem
    obtain ⟨b, -, hb⟩ := List.mem_flatMap.mp hmem
    have hlt := b.toNat_lt
    obtain ⟨-, -, hhigh⟩ := octetDigit?_upperDigit ⟨b.toNat / 16, by omega⟩
    obtain ⟨-, -, hlow⟩ := octetDigit?_upperDigit ⟨b.toNat % 16, by omega⟩
    simp only [percentOctet, List.mem_cons, List.not_mem_nil, or_false] at hb
    rcases hb with hb | hb | hb
    · cases hb
    · exact hhigh hb.symm
    · exact hlow hb.symm
  · rw [List.mem_singleton] at hmem
    exact h (hmem ▸ hc)

end ClusterSurvey.Net
