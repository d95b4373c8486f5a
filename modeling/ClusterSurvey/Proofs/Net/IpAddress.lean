import ClusterSurvey.Net.IpAddress
import ClusterSurvey.Proofs.Text.Digits

/-!
# Reading internet addresses

Reading takes an address off the front of a text and leaves what follows, whatever that is, as long as it
does not go on like an address.  A short address has one written form only; a long one has many, but all of
them have two colons at least.
-/

namespace ClusterSurvey.Net

open Text (IsTrimmed StopsDigits digitIn? ofDigits spanDigits)

variable {cs rest back body : List Char} {base bound n : Nat} {most : Option Nat} {padded first : Bool}

/-! ### Numbers -/

/-- A number is read up to where its digits end. -/
theorem readNumber?_append (stop : StopsDigits base back) (cs : List Char) :
    readNumber? base most padded bound (cs ++ back) =
      (readNumber? base most padded bound cs).map fun p => (p.1, p.2 ++ back) := by
  unfold readNumber?
  rw [Text.spanDigits_append stop]
  dsimp only
  split
  · rfl
  · split
    · rfl
    · split <;> rfl

/-- What has been read as a number are digits of its value, without a leading zero where none is allowed. -/
theorem readNumber?_eq_some (h : readNumber? base most padded bound cs = some (n, rest)) :
    ∃ front ds, cs = front ++ rest ∧ front.map (digitIn? base) = ds.map some ∧
      ofDigits base ds = n ∧ n < bound ∧ (padded = false → IsTrimmed ds) ∧ (∀ d ∈ ds, d < base) := by
  obtain ⟨front, happend, hdigits⟩ := Text.exists_append_of_spanDigits base cs
  have lt : ∀ d ∈ (spanDigits base cs).1, d < base := fun d hd => Text.lt_of_mem_spanDigits hd
  unfold readNumber? at h
  dsimp only at h
  split at h
  · cases h
  · next hsome =>
    split at h
    · cases h
    · next hzero =>
      rw [Option.ite_none_right_eq_some] at h
      obtain ⟨hlt, heq⟩ := h
      cases heq
      refine ⟨front, _, happend, hdigits, rfl, hlt, ?_, lt⟩
      rintro rfl
      refine ⟨fun hnil => hsome (.inl hnil), fun head => ?_⟩
      have hlong : ¬ 1 < (spanDigits base cs).1.length := fun hlong => hzero ⟨rfl, head, hlong⟩
      have hpos : 0 < (spanDigits base cs).1.length :=
        List.length_pos_of_ne_nil fun hnil => hsome (.inl hnil)
      omega

/-- A text with no digit in front is no number. -/
theorem readNumber?_of_stops (stop : StopsDigits base cs) :
    readNumber? base most padded bound cs = none := by
  unfold readNumber?
  rw [stop.spanDigits_eq]
  dsimp only
  rw [if_pos (.inl rfl)]

/-- Reading what is written for a number gives the number back. -/
theorem readNumber?_toDigits (hbase : 1 < base) (small : base ≤ 16) (hn : n < bound)
    (short : ∀ m, most = some m → (Nat.toDigits base n).length ≤ m) (stop : StopsDigits base rest) :
    readNumber? base most padded bound (Nat.toDigits base n ++ rest) = some (n, rest) := by
  obtain ⟨ds, hspan, value, length, trimmed, -⟩ := Text.spanDigits_toDigits hbase small n
  have hmost : ¬ (ds = [] ∨ most.any (· < ds.length) = true) := by
    rintro (hnil | hany)
    · exact trimmed.1 hnil
    · cases most with
      | none => cases hany
      | some m =>
        have hm := short m rfl
        rw [Option.any_some, decide_eq_true_iff, length] at hany
        omega
  have hzero : ¬ ((!padded) = true ∧ ds.head? = some 0 ∧ 1 < ds.length) := by
    rintro ⟨-, head, hlong⟩
    have hone := trimmed.2 head
    omega
  unfold readNumber?
  rw [Text.spanDigits_append stop, hspan]
  dsimp only
  rw [if_neg hmost, if_neg hzero, value, if_pos hn, List.nil_append]

/-- A text of digits alone is read as the number that it is, where there may be leading zeros. -/
theorem readNumber?_of_readDigits? (h : Text.readDigits? base cs = some n) (hn : n < bound) :
    readNumber? base none true bound cs = some (n, []) := by
  unfold Text.readDigits? at h
  split at h
  · cases h
  · next ds ne hspan =>
    cases h
    have hsome : ds ≠ [] := ne
    unfold readNumber?
    rw [hspan]
    simp [hsome, hn]
  · cases h

/-- A decimal number without leading zeros is what is written for it. -/
theorem eq_toDigits_of_readNumber? (h : readNumber? 10 most false bound cs = some (n, rest)) :
    cs = Nat.toDigits 10 n ++ rest ∧ n < bound := by
  obtain ⟨front, ds, happend, hdigits, value, hlt, trimmed, lt⟩ := readNumber?_eq_some h
  refine ⟨?_, hlt⟩
  have hfront : front = ds.map Nat.digitChar := by
    clear h happend trimmed lt value
    induction front generalizing ds with
    | nil =>
      cases ds with
      | nil => rfl
      | cons d ds => cases hdigits
    | cons c front ih =>
      cases ds with
      | nil => cases hdigits
      | cons d ds =>
        rw [List.map_cons, List.map_cons, List.cons.injEq] at hdigits
        rw [List.map_cons, Text.eq_digitChar_of_digitIn? hdigits.1, ih ds hdigits.2]
  rw [happend, hfront, ← value, Text.toDigits_ofDigits (by decide) lt (trimmed rfl)]

/-- A character is taken from the front of a text, or of what follows if the text is empty. -/
theorem readChar?_append {c : Char} (other : back.head? ≠ some c) (cs : List Char) :
    readChar? c (cs ++ back) = (readChar? c cs).map (· ++ back) := by
  cases cs with
  | nil =>
    cases back with
    | nil => rfl
    | cons d back =>
      have hd : d ≠ c := fun h => other (congrArg some h)
      simp [readChar?, hd]
  | cons d cs =>
    rw [List.cons_append, readChar?, readChar?]
    split <;> rfl

/-- No character is taken that is not there. -/
theorem readChar?_of_head? {c : Char} (other : cs.head? ≠ some c) : readChar? c cs = none := by
  cases cs with
  | nil => rfl
  | cons d cs => exact if_neg fun h => other (congrArg some h)

theorem readChar?_eq_some {c : Char} (h : readChar? c cs = some rest) : cs = c :: rest := by
  cases cs with
  | nil => cases h
  | cons d cs =>
    rw [readChar?, Option.ite_none_right_eq_some] at h
    obtain ⟨rfl, heq⟩ := h
    cases heq
    rfl

/-! ### Short addresses -/

/-- What follows a separator, which is not there in front of the first part. -/
def opened? (c : Char) (first : Bool) (cs : List Char) : Option (List Char) :=
  if first then some cs else readChar? c cs

theorem opened?_append {c : Char} (other : back.head? ≠ some c) (first : Bool) (cs : List Char) :
    opened? c first (cs ++ back) = (opened? c first cs).map (· ++ back) := by
  cases first with
  | true => rfl
  | false => exact readChar?_append other cs

theorem readOctets?_succ (n : Nat) (first : Bool) (cs : List Char) :
    readOctets? (n + 1) first cs =
      (opened? '.' first cs).bind fun body =>
        (readNumber? 10 (some 3) false 256 body).bind fun p =>
          (readOctets? n false p.2).map fun q => (p.1 :: q.1, q.2) := by
  simp only [Option.map_eq_bind]
  cases first <;> rfl

/-- Octets are read up to where they end. -/
theorem readOctets?_append (stop : StopsDigits 10 back) (point : back.head? ≠ some '.') (n : Nat)
    (first : Bool) (cs : List Char) :
    readOctets? n first (cs ++ back) =
      (readOctets? n first cs).map fun p => (p.1, p.2 ++ back) := by
  induction n generalizing first cs with
  | zero => rfl
  | succ n ih =>
    rw [readOctets?_succ, readOctets?_succ, opened?_append point]
    cases opened? '.' first cs with
    | none => rfl
    | some body =>
      simp only [Option.map_some, Option.bind_some, readNumber?_append stop]
      cases readNumber? 10 (some 3) false 256 body with
      | none => rfl
      | some p =>
        simp only [Option.map_some, Option.bind_some, ih]
        cases readOctets? n false p.2 <;> rfl

/-- What is written for octets behind the first one. -/
def octetsTail (os : List Nat) : List Char := os.flatMap fun o => '.' :: Nat.toDigits 10 o

theorem v4Text_cons (o : Nat) (os : List Nat) :
    IpAddress.v4Text (o :: os) = Nat.toDigits 10 o ++ octetsTail os := by
  unfold IpAddress.v4Text octetsTail
  induction os generalizing o with
  | nil => simp
  | cons p os ih =>
    rw [List.map_cons, List.map_cons, List.intercalate_cons_cons, ← List.map_cons, ih,
      List.flatMap_cons]
    simp

/-- Octets are written in decimal digits and points. -/
theorem isDigit_of_mem_v4Text {os : List Nat} {c : Char} (h : c ∈ IpAddress.v4Text os) :
    c.isDigit = true ∨ c = '.' := by
  have hdigit {o : Nat} (ho : c ∈ Nat.toDigits 10 o) : c.isDigit = true :=
    Nat.isDigit_of_mem_toDigits (by decide) (Nat.le_refl 10) ho
  cases os with
  | nil => cases h
  | cons o os =>
    rw [v4Text_cons, List.mem_append] at h
    rcases h with h | h
    · exact .inl (hdigit h)
    · obtain ⟨p, -, hp⟩ := List.mem_flatMap.mp h
      rcases List.mem_cons.mp hp with rfl | hp
      · exact .inr rfl
      · exact .inl (hdigit hp)

/-- Octets that have been read stand there as they are written. -/
theorem eq_of_readOctets? {os : List Nat} (h : readOctets? n first cs = some (os, rest)) :
    os.length = n ∧ (∀ o ∈ os, o < 256) ∧
      cs = (if first then IpAddress.v4Text os else octetsTail os) ++ rest := by
  induction n generalizing first cs os with
  | zero =>
    rw [readOctets?] at h
    cases h
    refine ⟨rfl, List.forall_mem_nil _, ?_⟩
    cases first <;> rfl
  | succ n ih =>
    rw [readOctets?_succ] at h
    simp only [Option.bind_eq_some_iff, Option.map_eq_some_iff] at h
    obtain ⟨body, hopen, ⟨o, more⟩, hnumber, ⟨os', rest'⟩, hmore, heq⟩ := h
    cases heq
    obtain ⟨hbody, hlt⟩ := eq_toDigits_of_readNumber? hnumber
    obtain ⟨hlength, hall, hmore⟩ := ih hmore
    refine ⟨congrArg (· + 1) hlength, List.forall_mem_cons.mpr ⟨hlt, hall⟩, ?_⟩
    dsimp only at hbody hmore
    rw [if_neg Bool.false_ne_true] at hmore
    cases first with
    | true =>
      cases hopen
      rw [if_pos rfl, v4Text_cons, List.append_assoc, ← hmore]
      exact hbody
    | false =>
      rw [if_neg Bool.false_ne_true, readChar?_eq_some hopen, hbody, hmore, octetsTail, octetsTail,
        List.flatMap_cons]
      simp

theorem opened?_octetsTail (o : Nat) (os : List Nat) (rest : List Char) :
    opened? '.' false (octetsTail (o :: os) ++ rest) =
      some (Nat.toDigits 10 o ++ (octetsTail os ++ rest)) := by
  rw [opened?, if_neg Bool.false_ne_true, octetsTail, List.flatMap_cons, List.cons_append,
    List.cons_append, readChar?, if_pos rfl, List.append_assoc]
  rfl

/-- What is written for octets is read as these octets. -/
theorem readOctets?_octetsTail {os : List Nat} (lt : ∀ o ∈ os, o < 256) (stop : StopsDigits 10 rest) :
    readOctets? os.length false (octetsTail os ++ rest) = some (os, rest) := by
  induction os with
  | nil => rfl
  | cons o os ih =>
    rw [List.forall_mem_cons] at lt
    have hshort : (Nat.toDigits 10 o).length ≤ 3 :=
      (Nat.length_toDigits_le_iff (by decide) (by decide)).mpr (Nat.lt_of_lt_of_le lt.1 (by decide))
    have hstop : StopsDigits 10 (octetsTail os ++ rest) := by
      cases os with
      | nil => exact stop
      | cons p os => exact Text.stopsDigits_cons (by decide) _
    have hnumber : readNumber? 10 (some 3) false 256 (Nat.toDigits 10 o ++ (octetsTail os ++ rest)) =
        some (o, octetsTail os ++ rest) := by
      refine readNumber?_toDigits (by decide) (by decide) lt.1 ?_ hstop
      rintro m ⟨⟩
      exact hshort
    rw [List.length_cons, readOctets?_succ, opened?_octetsTail, Option.bind_some, hnumber,
      Option.bind_some, ih lt.2]
    rfl

/-- What is written for four octets is read as a short address. -/
theorem readV4?_v4Text {os : List Nat} (length : os.length = 4) (lt : ∀ o ∈ os, o < 256)
    (stop : StopsDigits 10 rest) : readV4? (IpAddress.v4Text os ++ rest) = some (os, rest) := by
  cases os with
  | nil => cases length
  | cons o os =>
    have hfirst : readOctets? (os.length + 1) true (IpAddress.v4Text (o :: os) ++ rest) =
        readOctets? (os.length + 1) false (octetsTail (o :: os) ++ rest) := by
      rw [readOctets?_succ, readOctets?_succ, opened?_octetsTail, v4Text_cons, List.append_assoc]
      rfl
    rw [List.length_cons] at length
    rw [readV4?, ← length, hfirst]
    exact readOctets?_octetsTail lt stop

/-- A point follows the first digits of a short address. -/
theorem point_of_readV4? {os : List Nat} (h : readV4? cs = some (os, rest)) :
    (spanDigits 16 cs).2.head? = some '.' := by
  obtain ⟨length, -, heq⟩ := eq_of_readOctets? h
  obtain - | ⟨o, - | ⟨p, os⟩⟩ := os
  · cases length
  · cases length
  · obtain ⟨ds, hds, lt, -, -⟩ := Text.exists_digits (by decide : 1 < 10) o
    have hspan : spanDigits 16 (Nat.toDigits 10 o) = (ds, []) := by
      refine Text.spanDigits_of_map ?_
      rw [hds, List.map_map]
      exact List.map_congr_left fun d hd =>
        Text.digitIn?_digitChar (Nat.le_refl 16) (Nat.lt_trans (lt d hd) (by decide))
    have hcs : cs = Nat.toDigits 10 o ++ '.' :: (Nat.toDigits 10 p ++ octetsTail os ++ rest) := by
      rw [heq, if_pos rfl, v4Text_cons, octetsTail, List.flatMap_cons, octetsTail]
      simp
    rw [hcs, Text.spanDigits_append (Text.stopsDigits_cons (by decide) _), hspan]
    rfl

/-! ### Long addresses -/

/-- The two groups for which four octets stand. -/
def pairUp : List Nat → List Nat
  | [a, b, c, d] => [a * 256 + b, c * 256 + d]
  | _ => []

/-- A group is read, or a short address where there is room for two groups, or nothing more. -/
theorem readGroups_succ (n : Nat) (first : Bool) (cs : List Char) :
    readGroups (n + 1) first cs =
      match opened? ':' first cs with
      | none => ([], false, cs)
      | some body =>
        match if 1 ≤ n then readV4? body else none with
        | some p => (pairUp p.1, true, p.2)
        | none =>
          match readNumber? 16 (some 4) true 65536 body with
          | none => ([], false, cs)
          | some p =>
            (p.1 :: (readGroups n false p.2).1, (readGroups n false p.2).2.1,
              (readGroups n false p.2).2.2) := by
  rw [readGroups, ← opened?]
  cases opened? ':' first cs with
  | none => rfl
  | some body =>
    dsimp only
    cases hshort : (if 1 ≤ n then readV4? body else none) with
    | none => cases readNumber? 16 (some 4) true 65536 body <;> rfl
    | some p =>
      rw [Option.ite_none_right_eq_some] at hshort
      obtain ⟨length, -, -⟩ := eq_of_readOctets? hshort.2
      obtain ⟨os, rest⟩ := p
      obtain - | ⟨a, - | ⟨b, - | ⟨c, - | ⟨d, - | ⟨e, os⟩⟩⟩⟩⟩ := os
      any_goals cases length
      rfl

/-- The three ways to go on with the groups of an address. -/
theorem readGroups_cases (n : Nat) (first : Bool) (cs : List Char) :
    readGroups (n + 1) first cs = ([], false, cs) ∨
      (∃ body os rest, opened? ':' first cs = some body ∧ 1 ≤ n ∧ readV4? body = some (os, rest) ∧
        readGroups (n + 1) first cs = (pairUp os, true, rest)) ∨
      ∃ body g rest, opened? ':' first cs = some body ∧ (1 ≤ n → readV4? body = none) ∧
        readNumber? 16 (some 4) true 65536 body = some (g, rest) ∧
        readGroups (n + 1) first cs =
          (g :: (readGroups n false rest).1, (readGroups n false rest).2.1,
            (readGroups n false rest).2.2) := by
  rw [readGroups_succ]
  cases opened? ':' first cs with
  | none => exact .inl rfl
  | some body =>
    dsimp only
    cases hshort : (if 1 ≤ n then readV4? body else none) with
    | some p =>
      rw [Option.ite_none_right_eq_some] at hshort
      exact .inr (.inl ⟨body, p.1, p.2, rfl, hshort.1, hshort.2, rfl⟩)
    | none =>
      have hnone : 1 ≤ n → readV4? body = none := fun hn => by rwa [if_pos hn] at hshort
      cases hnumber : readNumber? 16 (some 4) true 65536 body with
      | none => exact .inl rfl
      | some p => exact .inr (.inr ⟨body, p.1, p.2, rfl, hnone, hnumber, rfl⟩)

/-- A long address is eight groups, or two lots of groups with two colons between them. -/
theorem readV6?_eq (cs : List Char) :
    readV6? cs =
      if (readGroups 8 true cs).1.length = 8 then
        some ((readGroups 8 true cs).1, (readGroups 8 true cs).2.2)
      else if (readGroups 8 true cs).2.1 then none
      else
        ((readChar? ':' (readGroups 8 true cs).2.2).bind (readChar? ':')).map fun tail =>
          let front := (readGroups 8 true cs).1
          let back := readGroups (8 - (front.length + 1)) true tail
          (front ++ List.replicate (8 - front.length - back.1.length) 0 ++ back.1, back.2.2) := by
  unfold readV6?
  generalize readGroups 8 true cs = r
  obtain ⟨front, short, rest⟩ := r
  dsimp only
  split
  · rfl
  · cases short with
    | true => rfl
    | false =>
      simp only [Bool.false_eq_true, if_false]
      obtain - | ⟨c, - | ⟨d, tail⟩⟩ := rest
      · rfl
      · by_cases hc : c = ':'
        · subst hc
          rfl
        · simp [readChar?, hc]
      · by_cases hc : c = ':'
        · by_cases hd : d = ':'
          · subst hc hd
            rfl
          · simp [readChar?, hc, hd]
        · simp [readChar?, hc]

/-- A text with a short address in front is no long address. -/
theorem readV6?_of_readV4? {p : List Nat × List Char} (h : readV4? cs = some p) : readV6? cs = none := by
  have hread : readGroups 8 true cs = (pairUp p.1, true, p.2) := by
    rw [readGroups_succ]
    simp [opened?, h]
  obtain ⟨length, -, -⟩ := eq_of_readOctets? h
  have hpair : (pairUp p.1).length ≠ 8 := by
    obtain ⟨os, rest⟩ := p
    obtain - | ⟨a, - | ⟨b, - | ⟨c, - | ⟨d, - | ⟨e, os⟩⟩⟩⟩⟩ := os
    any_goals cases length
    simp [pairUp]
  rw [readV6?_eq, hread]
  simp [hpair]

/-! ### The characters of an address -/

/-- Whether a character may stand in an address. -/
def isLiteralChar (c : Char) : Bool := (digitIn? 16 c).isSome || c = ':' || c = '.'

/-- Whether a text does not go on like an address. -/
def StopsAddress (cs : List Char) : Prop := ∀ c, cs.head? = some c → isLiteralChar c = false

/-- Whether a text is some characters of an address and then another text. -/
def Consumes (cs rest : List Char) : Prop :=
  ∃ front, cs = front ++ rest ∧ ∀ c ∈ front, isLiteralChar c = true

/-- A decimal digit is one in base sixteen. -/
theorem digitIn?_sixteen_of_ten {c : Char} {d : Nat} (h : digitIn? 10 c = some d) :
    digitIn? 16 c = some d := by
  rw [Text.eq_digitChar_of_digitIn? h]
  exact Text.digitIn?_digitChar (Nat.le_refl 16) (Nat.lt_trans (Text.lt_of_digitIn? h) (by decide))

theorem StopsAddress.stopsDigits_sixteen (h : StopsAddress cs) : StopsDigits 16 cs := by
  intro c hc
  have hfalse := h c hc
  simp only [isLiteralChar, Bool.or_eq_false_iff, Option.isSome_eq_false_iff,
    Option.isNone_iff_eq_none] at hfalse
  exact hfalse.1.1

theorem StopsAddress.stopsDigits_ten (h : StopsAddress cs) : StopsDigits 10 cs := by
  intro c hc
  cases hd : digitIn? 10 c with
  | none => rfl
  | some d =>
    have hnone := h.stopsDigits_sixteen c hc
    rw [digitIn?_sixteen_of_ten hd] at hnone
    cases hnone

theorem StopsAddress.head?_ne (h : StopsAddress cs) {c : Char} (literal : isLiteralChar c = true) :
    cs.head? ≠ some c := by
  intro hc
  rw [h c hc] at literal
  cases literal

theorem Consumes.refl (cs : List Char) : Consumes cs cs := ⟨[], rfl, List.forall_mem_nil _⟩

theorem Consumes.trans {ds : List Char} (h : Consumes cs ds) (h' : Consumes ds rest) :
    Consumes cs rest := by
  obtain ⟨front, rfl, literal⟩ := h
  obtain ⟨front', rfl, literal'⟩ := h'
  exact ⟨front ++ front', (List.append_assoc _ _ _).symm,
    List.forall_mem_append.mpr ⟨literal, literal'⟩⟩

theorem consumes_of_opened? {c : Char} (literal : isLiteralChar c = true)
    (h : opened? c first cs = some body) : Consumes cs body := by
  cases first with
  | true =>
    cases h
    exact .refl cs
  | false => exact ⟨[c], readChar?_eq_some h, List.forall_mem_singleton.mpr literal⟩

theorem consumes_of_readNumber? (hbase : base = 10 ∨ base = 16)
    (h : readNumber? base most padded bound cs = some (n, rest)) : Consumes cs rest := by
  obtain ⟨front, ds, happend, hdigits, -⟩ := readNumber?_eq_some h
  refine ⟨front, happend, fun c hc => ?_⟩
  have hmem : digitIn? base c ∈ ds.map some := hdigits ▸ List.mem_map_of_mem hc
  obtain ⟨d, -, hd⟩ := List.mem_map.mp hmem
  have hsixteen : digitIn? 16 c = some d := by
    rcases hbase with rfl | rfl
    · exact digitIn?_sixteen_of_ten hd.symm
    · exact hd.symm
  simp [isLiteralChar, hsixteen]

theorem consumes_of_readOctets? {os : List Nat} (h : readOctets? n first cs = some (os, rest)) :
    Consumes cs rest := by
  induction n generalizing first cs os with
  | zero =>
    cases h
    exact .refl _
  | succ n ih =>
    rw [readOctets?_succ] at h
    simp only [Option.bind_eq_some_iff, Option.map_eq_some_iff] at h
    obtain ⟨body, hopen, ⟨o, more⟩, hnumber, ⟨os', rest'⟩, hmore, heq⟩ := h
    cases heq
    exact (consumes_of_opened? (by decide) hopen).trans
      ((consumes_of_readNumber? (.inl rfl) hnumber).trans (ih hmore))

theorem consumes_readGroups (n : Nat) (first : Bool) (cs : List Char) :
    Consumes cs (readGroups n first cs).2.2 := by
  induction n generalizing first cs with
  | zero => exact .refl cs
  | succ n ih =>
    rcases readGroups_cases n first cs with heq | ⟨body, os, rest, hopen, -, hshort, heq⟩ |
      ⟨body, g, rest, hopen, -, hnumber, heq⟩
    · rw [heq]
      exact .refl cs
    · rw [heq]
      exact (consumes_of_opened? (by decide) hopen).trans (consumes_of_readOctets? hshort)
    · rw [heq]
      exact (consumes_of_opened? (by decide) hopen).trans
        ((consumes_of_readNumber? (.inr rfl) hnumber).trans (ih false rest))

/-- The two ways in which a text begins with a long address. -/
theorem readV6?_cases {gs : List Nat} (h : readV6? cs = some (gs, rest)) :
    ((readGroups 8 true cs).1.length = 8 ∧ (readGroups 8 true cs).2.2 = rest) ∨
      ∃ m tail, (readGroups 8 true cs).2.2 = ':' :: ':' :: tail ∧ (readGroups m true tail).2.2 = rest := by
  rw [readV6?_eq] at h
  split at h
  · next hlength =>
    cases h
    exact .inl ⟨hlength, rfl⟩
  · split at h
    · cases h
    · rw [Option.map_eq_some_iff] at h
      obtain ⟨tail, hcolons, heq⟩ := h
      rw [Option.bind_eq_some_iff] at hcolons
      obtain ⟨mid, hfirst, hsecond⟩ := hcolons
      cases heq
      exact .inr ⟨_, tail, by rw [readChar?_eq_some hfirst, readChar?_eq_some hsecond], rfl⟩

theorem consumes_of_readV6? {gs : List Nat} (h : readV6? cs = some (gs, rest)) : Consumes cs rest := by
  have hgroups := consumes_readGroups 8 true cs
  rcases readV6?_cases h with ⟨-, rfl⟩ | ⟨m, tail, hcolons, rfl⟩
  · exact hgroups
  · rw [hcolons] at hgroups
    have hcolon : Consumes (':' :: ':' :: tail) tail := ⟨[':', ':'], rfl, by simp [isLiteralChar]⟩
    exact hgroups.trans (hcolon.trans (consumes_readGroups m true tail))

/-- In a text that is a long address stand only characters of one. -/
theorem isLiteralChar_of_readV6? {gs : List Nat} (h : readV6? cs = some (gs, [])) :
    ∀ c ∈ cs, isLiteralChar c = true := by
  obtain ⟨front, rfl, literal⟩ := consumes_of_readV6? h
  rwa [List.append_nil]

theorem Consumes.count_le (h : Consumes cs rest) (c : Char) : rest.count c ≤ cs.count c := by
  obtain ⟨front, rfl, -⟩ := h
  rw [List.count_append]
  exact Nat.le_add_left _ _

/-- There are not many more groups than colons. -/
theorem length_readGroups_le (n : Nat) (first : Bool) (cs : List Char) :
    (readGroups n first cs).1.length ≤ cs.count ':' + 1 + first.toNat := by
  induction n generalizing first cs with
  | zero => exact Nat.zero_le _
  | succ n ih =>
    have hcolon {body : List Char} (hopen : opened? ':' first cs = some body) :
        body.count ':' + 1 ≤ cs.count ':' + first.toNat := by
      cases first with
      | true =>
        cases hopen
        exact Nat.le_refl _
      | false =>
        rw [readChar?_eq_some hopen, List.count_cons_self]
        exact Nat.le_refl _
    rcases readGroups_cases n first cs with heq | ⟨body, os, rest, hopen, -, hshort, heq⟩ |
      ⟨body, g, rest, hopen, -, hnumber, heq⟩
    · rw [heq]
      exact Nat.zero_le _
    · have hle := hcolon hopen
      have hpair : (pairUp os).length ≤ 2 := by
        unfold pairUp
        split <;> simp
      rw [heq]
      dsimp only
      omega
    · have hle := hcolon hopen
      have hrest := (consumes_of_readNumber? (.inr rfl) hnumber).count_le ':'
      have hmore := ih false rest
      rw [heq]
      simp only [List.length_cons, Bool.toNat_false] at hmore ⊢
      omega

/-- A long address has two colons at least. -/
theorem two_le_count_of_readV6? {gs : List Nat} (h : readV6? cs = some (gs, rest)) :
    2 ≤ cs.count ':' := by
  rcases readV6?_cases h with ⟨hlength, -⟩ | ⟨m, tail, hcolons, -⟩
  · have hle := length_readGroups_le 8 true cs
    rw [hlength, Bool.toNat_true] at hle
    omega
  · have hle := (consumes_readGroups 8 true cs).count_le ':'
    rw [hcolons, List.count_cons_self, List.count_cons_self] at hle
    omega

/-! ### What follows an address -/

/-- Groups are read up to where they end. -/
theorem readGroups_append (stop : StopsAddress back) (n : Nat) (first : Bool) (cs : List Char) :
    readGroups n first (cs ++ back) =
      ((readGroups n first cs).1, (readGroups n first cs).2.1, (readGroups n first cs).2.2 ++ back) := by
  induction n generalizing first cs with
  | zero => rfl
  | succ n ih =>
    have hshort (body : List Char) : (if 1 ≤ n then readV4? (body ++ back) else none) =
        (if 1 ≤ n then readV4? body else none).map fun p => (p.1, p.2 ++ back) := by
      split
      · exact readOctets?_append stop.stopsDigits_ten (stop.head?_ne (by decide)) 4 true body
      · rfl
    rw [readGroups_succ, readGroups_succ, opened?_append (stop.head?_ne (by decide))]
    cases opened? ':' first cs with
    | none => rfl
    | some body =>
      dsimp only [Option.map_some]
      rw [hshort, readNumber?_append stop.stopsDigits_sixteen]
      cases (if 1 ≤ n then readV4? body else none) with
      | some p => rfl
      | none =>
        cases readNumber? 16 (some 4) true 65536 body with
        | none => rfl
        | some p =>
          dsimp only [Option.map_some, Option.map_none]
          rw [ih]

/-- A long address is read up to where it ends. -/
theorem readV6?_append (stop : StopsAddress back) (cs : List Char) :
    readV6? (cs ++ back) = (readV6? cs).map fun p => (p.1, p.2 ++ back) := by
  have hcolon := stop.head?_ne (c := ':') (by decide)
  rw [readV6?_eq, readV6?_eq, readGroups_append stop]
  dsimp only
  split
  · rfl
  · split
    · rfl
    · rw [readChar?_append hcolon]
      cases readChar? ':' (readGroups 8 true cs).2.2 with
      | none => rfl
      | some mid =>
        simp only [Option.map_some, Option.bind_some]
        rw [readChar?_append hcolon]
        cases readChar? ':' mid with
        | none => rfl
        | some tail => simp only [Option.map_some, readGroups_append stop]

end ClusterSurvey.Net
