import ClusterSurvey.Json.Basic
import ClusterSurvey.Json.Draft
import ClusterSurvey.Proofs.Text.Digits

/-!
# Reading what is written

The written form of a value is a text of the grammar, and scanning it finds the value again and stops right
behind it.  So it is with every value that holds no floating-point numbers and no integers outside of
sixty-four bits.
-/

namespace ClusterSurvey.Json

/-! ### Strings -/

/-- A character is escaped by a letter, by the digits of its code, or not at all. -/
theorem escape_cases (c : Char) :
    (∃ e, escape c = ['\\', e] ∧ e ≠ 'u' ∧ shortEscape? e = some c) ∨
    (c.toNat < 0x20 ∧
      escape c = ['\\', 'u', '0', '0', hexDigit (c.toNat / 16), hexDigit (c.toNat % 16)]) ∨
    (c ≠ '"' ∧ c ≠ '\\' ∧ ¬ c.toNat < 0x20 ∧ escape c = [c]) := by
  by_cases letter : c ∈ ['"', '\\', '\u0008', '\u000c', '\n', '\r', '\t']
  · refine .inl ?_
    simp only [List.mem_cons, List.not_mem_nil, or_false] at letter
    rcases letter with rfl | rfl | rfl | rfl | rfl | rfl | rfl <;> exact ⟨_, rfl, by decide, rfl⟩
  · simp only [List.mem_cons, List.not_mem_nil, or_false, not_or] at letter
    by_cases control : c.toNat < 0x20
    · refine .inr (.inl ⟨control, ?_⟩)
      simp only [escape, letter, control, ↓reduceIte]
    · refine .inr (.inr ⟨letter.1, letter.2.1, control, ?_⟩)
      simp only [escape, letter, control, ↓reduceIte]

/-- The four digits of a control character's code. -/
private theorem scanHex_control {c : Char} (h : c.toNat < 0x20) (rest : List Char) :
    scanHex ('0' :: '0' :: hexDigit (c.toNat / 16) :: hexDigit (c.toNat % 16) :: rest) =
      .ok (c.toNat, rest) := by
  have high : Text.digitIn? 16 (hexDigit (c.toNat / 16)) = some (c.toNat / 16) :=
    Text.digitIn?_digitChar (Nat.le_refl 16) (by omega)
  have low : Text.digitIn? 16 (hexDigit (c.toNat % 16)) = some (c.toNat % 16) :=
    Text.digitIn?_digitChar (Nat.le_refl 16) (Nat.mod_lt _ (by omega))
  have zero : Text.digitIn? 16 '0' = some 0 := by decide
  simp only [scanHex, high, low, zero]
  congr 2
  omega

/-- This code is no half of a surrogate pair. -/
private theorem scanUnit_control {c : Char} (h : c.toNat < 0x20) (rest : List Char) :
    scanUnit c.toNat rest = .ok (some c, rest) := by
  have low : ¬ isLowHalf c.toNat = true := by
    simp only [isLowHalf, Bool.and_eq_true, decide_eq_true_eq]
    omega
  have high : ¬ isHighHalf c.toNat = true := by
    simp only [isHighHalf, Bool.and_eq_true, decide_eq_true_eq]
    omega
  rw [scanUnit.eq_def, if_neg low, if_neg high, Char.ofNat_toNat]

/-- An escaped character is read as itself. -/
theorem scanString_escape (c : Char) (rest : List Char) :
    scanString (escape c ++ rest) = (scanString rest).cons (some c) := by
  rcases escape_cases c with ⟨e, hescape, hunit, hletter⟩ | ⟨control, hescape⟩ | plain
  · rw [hescape, List.cons_append, List.cons_append, List.nil_append, scanString.eq_def]
    simp only [Char.reduceEq, ↓reduceIte, hunit, hletter]
  · rw [hescape]
    simp only [List.cons_append, List.nil_append]
    rw [scanString.eq_def]
    simp only [Char.reduceEq, ↓reduceIte]
    split
    · next hx => cases (scanHex_control control rest).symm.trans hx
    · next hx =>
      cases (scanHex_control control rest).symm.trans hx
      split
      · next hu => cases (scanUnit_control control rest).symm.trans hu
      · next hu =>
        cases (scanUnit_control control rest).symm.trans hu
        rfl
  · obtain ⟨hquote, hback, hplain, hescape⟩ := plain
    rw [hescape, List.singleton_append, scanString.eq_def]
    simp only [if_neg hquote, if_neg hback, if_neg hplain]

/-- A string is read behind its opening quote up to its closing one. -/
theorem scanString_flatMap_escape (cs rest : List Char) :
    scanString (cs.flatMap escape ++ '"' :: rest) = .closed (some cs) rest := by
  induction cs with
  | nil =>
    rw [List.flatMap_nil, List.nil_append, scanString.eq_def]
    rfl
  | cons c cs ih =>
    rw [List.flatMap_cons, List.append_assoc, scanString_escape, ih]
    rfl

/-! ### Numbers -/

/-- Whether no number goes on at the head of a text. -/
def EndsNumber (cs : List Char) : Prop :=
  ∀ c, cs.head? = some c → c.isDigit = false ∧ c ≠ '.' ∧ c ≠ 'e' ∧ c ≠ 'E'

theorem endsNumber_nil : EndsNumber [] := nofun

/-- What stands behind a value in an array or an object ends a number. -/
theorem endsNumber_cons {c : Char} (h : c ∈ [',', ']', '\x7d']) (cs : List Char) :
    EndsNumber (c :: cs) := by
  rintro d ⟨⟩
  simp only [List.mem_cons, List.not_mem_nil, or_false] at h
  rcases h with rfl | rfl | rfl <;> decide

/-- Digits are read as far as they go. -/
theorem spanDigits_append {ds rest : List Char} (digits : ∀ c ∈ ds, c.isDigit = true)
    (ends : EndsNumber rest) : spanDigits (ds ++ rest) = (ds, rest) := by
  have stop : rest.takeWhile Char.isDigit = [] ∧ rest.dropWhile Char.isDigit = rest := by
    cases rest with
    | nil => exact ⟨rfl, rfl⟩
    | cons c cs =>
      have hc : ¬ c.isDigit = true := by rw [(ends c rfl).1]; exact Bool.false_ne_true
      exact ⟨List.takeWhile_cons_of_neg hc, List.dropWhile_cons_of_neg hc⟩
  rw [spanDigits, List.takeWhile_append_of_pos digits, List.dropWhile_append_of_pos digits, stop.1,
    stop.2, List.append_nil]

/-- Nothing behind a number is taken for its fraction. -/
private theorem scanFraction_of_endsNumber {rest : List Char} (ends : EndsNumber rest) :
    scanFraction rest = .ok ([], rest) := by
  unfold scanFraction
  split
  · next cs => exact absurd rfl (ends '.' rfl).2.1
  · rfl

/-- Nor is anything taken for its exponent. -/
private theorem scanExponent_of_endsNumber {rest : List Char} (ends : EndsNumber rest) :
    scanExponent rest = .ok (none, rest) := by
  cases rest with
  | nil => rfl
  | cons c cs =>
    obtain ⟨-, -, lower, upper⟩ := ends c rfl
    rw [scanExponent.eq_def]
    exact if_neg (not_or.mpr ⟨lower, upper⟩)

/-- Only zero is written with a zero in front. -/
private theorem head?_toDigits {n : Nat} (h : (Nat.toDigits 10 n).head? = some '0') :
    Nat.toDigits 10 n = ['0'] := by
  obtain ⟨ds, hds, lt, -, -, trimmed⟩ := Text.exists_digits (by decide : 1 < 10) n
  rw [hds] at h ⊢
  cases ds with
  | nil => cases h
  | cons d ds =>
    have hd : d < 10 := lt d List.mem_cons_self
    have hzero : Nat.digitChar d = '0' := Option.some.inj h
    have zero : ∀ d : Fin 10, Nat.digitChar d = '0' → d.val = 0 := by decide
    obtain rfl : d = 0 := zero ⟨d, hd⟩ hzero
    obtain rfl : ds = [] := List.length_eq_zero_iff.mp (Nat.succ.inj (trimmed rfl))
    rfl

/-- A natural number is read up to its last digit. -/
theorem scanNumeral_toDigits (n : Nat) {rest : List Char} (ends : EndsNumber rest) :
    scanNumeral false (Nat.toDigits 10 n ++ rest) = .ok (⟨false, Nat.toDigits 10 n, [], none⟩, rest) := by
  have digits : ∀ c ∈ Nat.toDigits 10 n, c.isDigit = true :=
    fun c hc => Nat.isDigit_of_mem_toDigits (by decide) (by decide) hc
  have wellFormed : ¬ (Nat.toDigits 10 n = [] ∨
      ((Nat.toDigits 10 n).head? = some '0' ∧ Nat.toDigits 10 n ≠ ['0'])) := by
    rintro (hnil | ⟨hhead, hne⟩)
    · exact Nat.toDigits_ne_nil hnil
    · exact hne (head?_toDigits hhead)
  rw [scanNumeral, spanDigits_append digits ends]
  dsimp only
  rw [if_neg wellFormed, scanFraction_of_endsNumber ends]
  dsimp only [bind, Except.bind]
  rw [scanExponent_of_endsNumber ends]
  rfl

/-- A natural number of sixty-four bits is read as itself. -/
theorem scanNumber_toDigits {n : Nat} (small : n < word) {rest : List Char} (ends : EndsNumber rest) :
    scanNumber false (Nat.toDigits 10 n ++ rest) = ⟨.number (.natural n), some rest⟩ := by
  have denotes : (⟨false, Nat.toDigits 10 n, [], none⟩ : Numeral).denotes? = some (.natural n) := by
    simp only [Numeral.denotes?, Nat.ofDigitChars_toDigits (by decide : 1 < 10) (Nat.le_refl 10)]
    simp [small]
  rw [scanNumber, scanNumeral_toDigits n ends]
  dsimp only
  rw [denotes]

/-! ### Values -/

/-- The draft that the written form of a value holds. -/
inductive Denotes : Json → Draft → Prop where
  | null : Denotes .null .null
  | bool (b : Bool) : Denotes (.bool b) (.bool b)
  | natural {n : Nat} (small : n < word) : Denotes (.ofNat n) (.number (.natural n))
  | string (s : String) : Denotes (.string s) (.string s)
  | array {items : List (Json × Draft)} (each : ∀ p ∈ items, Denotes p.1 p.2) :
    Denotes (.array (items.map (·.1))) (.array (items.map (·.2)) none)
  | object {members : List (String × Json × Draft)} (each : ∀ m ∈ members, Denotes m.2.1 m.2.2) :
    Denotes (.object (members.map fun m => (m.1, m.2.1)))
      (.object (members.map fun m => (.name m.1, m.2.2)) none)

/-- Whether scanning finds a draft in the written form of a value, whatever follows it.  Each level of the
value uses up two steps, and at least one character. -/
def Scans (j : Json) (d : Draft) : Prop :=
  ∀ (fuel : Nat) (rest : List Char), 2 * (renderChars j).length ≤ fuel → EndsNumber rest →
    scanValue fuel (renderChars j ++ rest) = ⟨d, some rest⟩

/-- A character that is no blank stays where it is. -/
theorem skipGap_cons {c : Char} (h : isGap c = false) (cs : List Char) : skipGap (c :: cs) = c :: cs := by
  refine List.dropWhile_cons_of_neg ?_
  rw [h]
  exact Bool.false_ne_true

/-- A value is not written like blanks or like the end of an array. -/
theorem exists_renderChars {j : Json} {d : Draft} (h : Denotes j d) :
    ∃ c cs, renderChars j = c :: cs ∧ isGap c = false ∧ c ≠ ']' := by
  cases h with
  | null => exact ⟨_, _, rfl, rfl, by decide⟩
  | bool b => cases b <;> exact ⟨_, _, rfl, rfl, by decide⟩
  | natural small =>
    next n =>
      obtain ⟨c, cs, hcs⟩ := List.exists_cons_of_ne_nil (Nat.toDigits_ne_nil (n := n) (b := 10))
      have digit : c.isDigit = true :=
        Nat.isDigit_of_mem_toDigits (by decide) (by decide) (hcs ▸ List.mem_cons_self)
      refine ⟨c, cs, hcs, ?_, ?_⟩
      · simp only [isGap, Bool.or_eq_false_iff, decide_eq_false_iff_not]
        refine ⟨⟨⟨?_, ?_⟩, ?_⟩, ?_⟩ <;> (rintro rfl; cases digit)
      · rintro rfl
        cases digit
  | string s => exact ⟨_, _, rfl, rfl, by decide⟩
  | array each => exact ⟨_, _, rfl, rfl, by decide⟩
  | object each => exact ⟨_, _, rfl, rfl, by decide⟩

/-- The items of an array are found one after the other. -/
private theorem scanItems_renderItems (p : Json × Draft) (ps : List (Json × Draft))
    (each : ∀ q ∈ p :: ps, Scans q.1 q.2) (fuel : Nat) (rest : List Char)
    (enough : 2 * (renderItems ((p :: ps).map (·.1))).length ≤ fuel) :
    scanItems fuel (renderItems ((p :: ps).map (·.1)) ++ rest) =
      ⟨(p :: ps).map (·.2), none, some rest⟩ := by
  induction ps generalizing p fuel with
  | nil =>
    have first := each p List.mem_cons_self
    simp only [List.map_cons, List.map_nil, renderItems, List.append_assoc, List.singleton_append,
      List.length_append, List.length_singleton] at enough ⊢
    obtain ⟨fuel, rfl⟩ : ∃ k, fuel = k + 1 := ⟨fuel - 1, by omega⟩
    rw [scanItems, first fuel _ (by omega) (endsNumber_cons (by decide) rest)]
    dsimp only
    rw [skipGap_cons rfl]
    rfl
  | cons q qs ih =>
    have first := each p List.mem_cons_self
    have others := fun fuel h => ih q (fun r hr => each r (List.mem_cons_of_mem p hr)) fuel h
    simp only [List.map_cons, renderItems, List.append_assoc, List.cons_append, List.length_append,
      List.length_cons] at enough others ⊢
    obtain ⟨fuel, rfl⟩ : ∃ k, fuel = k + 1 := ⟨fuel - 1, by omega⟩
    rw [scanItems, first fuel _ (by omega) (endsNumber_cons (by decide) _)]
    dsimp only
    rw [skipGap_cons rfl]
    dsimp only
    rw [if_neg (by decide), if_pos rfl, others fuel (by omega)]

/-- Behind a member an object ends or goes on. -/
private theorem scanMembers_member {fuel : Nat} {name : String} {d : Draft} {c : Char}
    {behind tail : List Char} (gap : isGap c = false)
    (value : scanValue fuel behind = ⟨d, some (c :: tail)⟩) :
    scanMembers (fuel + 1) (renderString name ++ ':' :: behind) =
      if c = '\x7d' then ⟨[(.name name, d)], none, some tail⟩
      else if c = ',' then
        ⟨(.name name, d) :: (scanMembers fuel tail).members, (scanMembers fuel tail).ending,
          (scanMembers fuel tail).rest⟩
      else ⟨[(.name name, d)], some (.plain .malformed), none⟩ := by
  rw [renderString, List.cons_append, List.cons_append, List.append_assoc, List.singleton_append,
    scanMembers, skipGap_cons rfl]
  dsimp only
  rw [if_pos rfl, scanString_flatMap_escape]
  dsimp only
  rw [skipGap_cons rfl, String.ofList_toList]
  dsimp only
  rw [if_pos rfl, value]
  dsimp only
  rw [skipGap_cons gap]

/-- The members of an object are found one after the other as well. -/
private theorem scanMembers_renderMembers (m : String × Json × Draft) (ms : List (String × Json × Draft))
    (each : ∀ n ∈ m :: ms, Scans n.2.1 n.2.2) (fuel : Nat) (rest : List Char)
    (enough : 2 * (renderMembers ((m :: ms).map fun n => (n.1, n.2.1))).length ≤ fuel) :
    scanMembers fuel (renderMembers ((m :: ms).map fun n => (n.1, n.2.1)) ++ rest) =
      ⟨(m :: ms).map fun n => (.name n.1, n.2.2), none, some rest⟩ := by
  induction ms generalizing m fuel with
  | nil =>
    have first := each m List.mem_cons_self
    simp only [List.map_cons, List.map_nil, renderMembers, List.append_assoc, List.cons_append,
      List.nil_append, List.length_append, List.length_cons, List.length_nil] at enough ⊢
    obtain ⟨fuel, rfl⟩ : ∃ k, fuel = k + 1 := ⟨fuel - 1, by omega⟩
    rw [scanMembers_member rfl (first fuel _ (by omega) (endsNumber_cons (by decide) rest)), if_pos rfl]
  | cons n ns ih =>
    have first := each m List.mem_cons_self
    have others := fun fuel h => ih n (fun r hr => each r (List.mem_cons_of_mem m hr)) fuel h
    simp only [List.map_cons, renderMembers, List.append_assoc, List.cons_append, List.length_append,
      List.length_cons] at enough others ⊢
    obtain ⟨fuel, rfl⟩ : ∃ k, fuel = k + 1 := ⟨fuel - 1, by omega⟩
    rw [scanMembers_member rfl (first fuel _ (by omega) (endsNumber_cons (by decide) _)),
      if_neg (by decide), if_pos rfl, others fuel (by omega)]

/-- Where a digit stands, a number is read. -/
private theorem scanValue_digit {c : Char} (digit : c.isDigit = true) (fuel : Nat) (cs : List Char) :
    scanValue (fuel + 1) (c :: cs) = scanNumber false (c :: cs) := by
  have other : ∀ d, d.isDigit = false → c ≠ d := by
    rintro d hd rfl
    rw [digit] at hd
    cases hd
  have gap : isGap c = false := by
    simp only [isGap, Bool.or_eq_false_iff, decide_eq_false_iff_not]
    exact ⟨⟨⟨other _ rfl, other _ rfl⟩, other _ rfl⟩, other _ rfl⟩
  rw [scanValue, skipGap_cons gap]
  dsimp only
  rw [if_neg (other 'n' rfl), if_neg (other 't' rfl), if_neg (other 'f' rfl), if_neg (other '-' rfl),
    if_pos digit]

/-- Where a bracket stands, the items of an array are read. -/
private theorem scanValue_items {c : Char} (gap : isGap c = false) (bracket : c ≠ ']') (fuel : Nat)
    (cs : List Char) :
    scanValue (fuel + 1) ('[' :: c :: cs) =
      ⟨.array (scanItems fuel (c :: cs)).items (scanItems fuel (c :: cs)).ending,
        (scanItems fuel (c :: cs)).rest⟩ := by
  rw [scanValue, skipGap_cons rfl]
  simp only [Char.reduceEq, ↓reduceIte, show Char.isDigit '[' = false from rfl, Bool.false_eq_true,
    skipGap_cons gap]
  split
  · next heq => exact absurd (List.cons.inj heq).1 bracket
  · next heq => cases heq
  · rfl

/-- Scanning the written form of a value finds what the value denotes. -/
theorem scans_of_denotes {j : Json} {d : Draft} (h : Denotes j d) : Scans j d := by
  induction h with
  | null =>
    intro fuel rest enough ends
    obtain ⟨fuel, rfl⟩ : ∃ k, fuel = k + 1 := ⟨fuel - 1, by simp [renderChars] at enough; omega⟩
    rfl
  | bool b =>
    intro fuel rest enough ends
    cases b <;>
    · obtain ⟨fuel, rfl⟩ : ∃ k, fuel = k + 1 := ⟨fuel - 1, by simp [renderChars] at enough; omega⟩
      rfl
  | @natural n small =>
    intro fuel rest enough ends
    obtain ⟨c, cs, hcs⟩ := List.exists_cons_of_ne_nil (Nat.toDigits_ne_nil (n := n) (b := 10))
    have digit : c.isDigit = true :=
      Nat.isDigit_of_mem_toDigits (by decide) (by decide) (hcs ▸ List.mem_cons_self)
    have found := scanNumber_toDigits small ends
    change 2 * (Nat.toDigits 10 n).length ≤ fuel at enough
    change scanValue fuel (Nat.toDigits 10 n ++ rest) = _
    rw [hcs] at enough found ⊢
    obtain ⟨fuel, rfl⟩ : ∃ k, fuel = k + 1 := ⟨fuel - 1, by simp at enough; omega⟩
    rw [List.cons_append, scanValue_digit digit]
    exact found
  | string s =>
    intro fuel rest enough ends
    simp only [renderChars, renderString, List.cons_append, List.append_assoc, List.length_cons,
      List.nil_append] at enough ⊢
    obtain ⟨fuel, rfl⟩ : ∃ k, fuel = k + 1 := ⟨fuel - 1, by omega⟩
    change scanText (s.toList.flatMap escape ++ '"' :: rest) = _
    rw [scanText, scanString_flatMap_escape]
    dsimp only
    rw [String.ofList_toList]
  | @array items each ih =>
    intro fuel rest enough ends
    simp only [renderChars, List.cons_append, List.length_cons] at enough ⊢
    obtain ⟨fuel, rfl⟩ : ∃ k, fuel = k + 1 := ⟨fuel - 1, by omega⟩
    cases items with
    | nil => rfl
    | cons p ps =>
      have found := scanItems_renderItems p ps ih fuel rest (by omega)
      obtain ⟨c, cs, hcs, gap, bracket⟩ := exists_renderChars (each p List.mem_cons_self)
      have begins : ∃ more, renderItems ((p :: ps).map (·.1)) ++ rest = c :: more := by
        cases ps <;>
        · simp only [List.map_cons, List.map_nil, renderItems, hcs, List.cons_append]
          exact ⟨_, rfl⟩
      obtain ⟨more, hmore⟩ := begins
      rw [hmore] at found ⊢
      rw [scanValue_items gap bracket, found]
  | @object members each ih =>
    intro fuel rest enough ends
    simp only [renderChars, List.cons_append, List.length_cons] at enough ⊢
    obtain ⟨fuel, rfl⟩ : ∃ k, fuel = k + 1 := ⟨fuel - 1, by omega⟩
    cases members with
    | nil => rfl
    | cons m ms =>
      have found := scanMembers_renderMembers m ms ih fuel rest (by omega)
      have begins : ∃ more,
          renderMembers ((m :: ms).map fun n => (n.1, n.2.1)) ++ rest = '"' :: more := by
        cases ms with
        | nil => exact ⟨_, rfl⟩
        | cons n ns => exact ⟨_, rfl⟩
      obtain ⟨more, hmore⟩ := begins
      rw [hmore] at found ⊢
      change Scanned.mk (.object (scanMembers fuel ('"' :: more)).members
        (scanMembers fuel ('"' :: more)).ending) (scanMembers fuel ('"' :: more)).rest = _
      rw [found]

/-- The document of a written value holds what the value denotes, and nothing else. -/
theorem document_render {j : Json} {d : Draft} (h : Denotes j d) :
    Document.ofText j.render = ⟨d, false⟩ := by
  have found := scans_of_denotes h (2 * (renderChars j).length + 2) [] (by omega) endsNumber_nil
  rw [List.append_nil] at found
  rw [Document.ofText, render, String.toList_ofList, found]
  rfl

end ClusterSurvey.Json
