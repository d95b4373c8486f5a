import ClusterSurvey.Proofs.Net.IpAddress
import Mathlib.Data.List.TakeWhile

/-!
# Writing internet addresses

What is written for an address is read as this address, whether zeros are left out of it or its end is
written as a short address.
-/

namespace ClusterSurvey.Net

open Text (StopsDigits ofDigits)

variable {cs rest : List Char} {n : Nat} {first : Bool}

/-- What is written for groups behind the first one. -/
def groupsTail (gs : List Nat) : List Char := gs.flatMap fun g => ':' :: Nat.toDigits 16 g

theorem groupsText_cons (g : Nat) (gs : List Nat) :
    IpAddress.groupsText (g :: gs) = Nat.toDigits 16 g ++ groupsTail gs := by
  unfold IpAddress.groupsText groupsTail
  induction gs generalizing g with
  | nil => simp
  | cons h gs ih =>
    rw [List.map_cons, List.map_cons, List.intercalate_cons_cons, ← List.map_cons, ih,
      List.flatMap_cons]
    simp

/-- Whether a text ends, or goes on with two colons. -/
def EndsGroups (cs : List Char) : Prop := cs = [] ∨ ∃ tail, cs = ':' :: ':' :: tail

theorem EndsGroups.stopsDigits (h : EndsGroups cs) : StopsDigits 16 cs := by
  rcases h with rfl | ⟨tail, rfl⟩
  · exact Text.stopsDigits_nil
  · exact Text.stopsDigits_cons (by decide) _

/-- No address begins without a digit. -/
theorem readV4?_of_stops (stop : StopsDigits 16 cs) (point : cs.head? ≠ some '.') :
    readV4? cs = none := by
  cases h : readV4? cs with
  | none => rfl
  | some p =>
    have hpoint := point_of_readV4? h
    rw [stop.spanDigits_eq] at hpoint
    exact absurd hpoint point

/-- There are no more groups where a text ends so. -/
theorem EndsGroups.readGroups_eq (h : EndsGroups cs) (n : Nat) (first : Bool) :
    readGroups n first cs = ([], false, cs) := by
  cases n with
  | zero => rfl
  | succ n =>
    have hbody {body : List Char} (hopen : opened? ':' first cs = some body) :
        StopsDigits 16 body ∧ body.head? ≠ some '.' := by
      have hplain : StopsDigits 16 cs ∧ cs.head? ≠ some '.' := by
        refine ⟨h.stopsDigits, ?_⟩
        rcases h with rfl | ⟨tail, rfl⟩ <;> simp
      cases first with
      | true =>
        cases hopen
        exact hplain
      | false =>
        rcases h with rfl | ⟨tail, rfl⟩
        · cases hopen
        · cases hopen
          exact ⟨Text.stopsDigits_cons (by decide) _, by simp⟩
    rcases readGroups_cases n first cs with heq | ⟨body, os, rest, hopen, -, hshort, -⟩ |
      ⟨body, g, rest, hopen, -, hnumber, -⟩
    · exact heq
    · rw [readV4?_of_stops (hbody hopen).1 (hbody hopen).2] at hshort
      cases hshort
    · rw [readNumber?_of_stops (hbody hopen).1] at hnumber
      cases hnumber

/-- A group is read where one is written and no point follows. -/
theorem readGroups_toDigits {g : Nat} (lt : g < 65536) (stop : StopsDigits 16 rest)
    (point : rest.head? ≠ some '.') (hopen : opened? ':' first cs = some (Nat.toDigits 16 g ++ rest))
    (n : Nat) :
    readGroups (n + 1) first cs =
      (g :: (readGroups n false rest).1, (readGroups n false rest).2.1,
        (readGroups n false rest).2.2) := by
  have hnumber : readNumber? 16 (some 4) true 65536 (Nat.toDigits 16 g ++ rest) = some (g, rest) := by
    refine readNumber?_toDigits (by decide) (Nat.le_refl 16) lt ?_ stop
    rintro m ⟨⟩
    exact (Nat.length_toDigits_le_iff (by decide) (by decide)).mpr lt
  have hshort : readV4? (Nat.toDigits 16 g ++ rest) = none := by
    cases h : readV4? (Nat.toDigits 16 g ++ rest) with
    | none => rfl
    | some p =>
      obtain ⟨ds, hspan, -⟩ := Text.spanDigits_toDigits (by decide : 1 < 16) (Nat.le_refl 16) g
      have hpoint := point_of_readV4? h
      rw [Text.spanDigits_append stop, hspan] at hpoint
      exact absurd hpoint point
  rw [readGroups_succ, hopen]
  simp only [hshort, ite_self, hnumber]

/-- What follows a group among others does not go on with it. -/
private theorem stops_groupsTail (ends : EndsGroups rest) (gs : List Nat) :
    StopsDigits 16 (groupsTail gs ++ rest) ∧ (groupsTail gs ++ rest).head? ≠ some '.' := by
  cases gs with
  | nil =>
    refine ⟨ends.stopsDigits, ?_⟩
    rcases ends with rfl | ⟨tail, rfl⟩ <;> simp [groupsTail]
  | cons g gs => exact ⟨Text.stopsDigits_cons (by decide) _, by simp [groupsTail]⟩

theorem readGroups_groupsTail {gs : List Nat} (lt : ∀ g ∈ gs, g < 65536) (hn : gs.length ≤ n)
    (ends : EndsGroups rest) : readGroups n false (groupsTail gs ++ rest) = (gs, false, rest) := by
  induction gs generalizing n with
  | nil => exact ends.readGroups_eq n false
  | cons g gs ih =>
    cases n with
    | zero => cases hn
    | succ n =>
      rw [List.forall_mem_cons] at lt
      have hopen : opened? ':' false (groupsTail (g :: gs) ++ rest) =
          some (Nat.toDigits 16 g ++ (groupsTail gs ++ rest)) := by
        rw [groupsTail, List.flatMap_cons, List.append_assoc]
        rfl
      obtain ⟨stop, point⟩ := stops_groupsTail ends gs
      rw [readGroups_toDigits lt.1 stop point hopen, ih lt.2 (Nat.le_of_succ_le_succ hn)]

/-- What is written for groups is read as these groups. -/
theorem readGroups_groupsText {gs : List Nat} (lt : ∀ g ∈ gs, g < 65536) (hn : gs.length ≤ n)
    (ends : EndsGroups rest) :
    readGroups n true (IpAddress.groupsText gs ++ rest) = (gs, false, rest) := by
  cases gs with
  | nil => exact ends.readGroups_eq n true
  | cons g gs =>
    cases n with
    | zero => cases hn
    | succ n =>
      rw [List.forall_mem_cons] at lt
      obtain ⟨stop, point⟩ := stops_groupsTail ends gs
      rw [groupsText_cons, List.append_assoc, readGroups_toDigits lt.1 stop point rfl,
        readGroups_groupsTail lt.2 (Nat.le_of_succ_le_succ hn) ends]

/-- Two colons stand for as many zeros as are missing. -/
theorem readV6?_colons {front groups : List Nat} {tail : List Char} {short : Bool}
    (lt : ∀ g ∈ front, g < 65536) (room : front.length < 8)
    (read : readGroups (8 - (front.length + 1)) true tail = (groups, short, [])) :
    readV6? (IpAddress.groupsText front ++ ':' :: ':' :: tail) =
      some (front ++ List.replicate (8 - front.length - groups.length) 0 ++ groups, []) := by
  have hcolons : (readChar? ':' (':' :: ':' :: tail)).bind (readChar? ':') = some tail := rfl
  rw [readV6?_eq, readGroups_groupsText lt (Nat.le_of_lt room) (.inr ⟨tail, rfl⟩)]
  dsimp only
  rw [if_neg (Nat.ne_of_lt room), if_neg Bool.false_ne_true, hcolons, Option.map_some, read]

/-- The longest run of zeros among some groups stands where it is said to stand. -/
theorem exists_append_zeroRun (gs : List Nat) :
    ∃ front back, gs = front ++ List.replicate (IpAddress.zeroRun gs).2 0 ++ back ∧
      front.length = (IpAddress.zeroRun gs).1 := by
  induction gs with
  | nil => exact ⟨[], [], rfl, rfl⟩
  | cons g gs ih =>
    rw [IpAddress.zeroRun]
    split
    · refine ⟨[], (g :: gs).dropWhile (· = 0), ?_, rfl⟩
      have hzeros : (g :: gs).takeWhile (· = 0) =
          List.replicate (IpAddress.leadingZeros (g :: gs)) 0 := by
        refine List.eq_replicate_iff.mpr ⟨rfl, fun x hx => ?_⟩
        simpa using List.mem_takeWhile_imp hx
      rw [List.nil_append, ← hzeros, List.takeWhile_append_dropWhile]
    · obtain ⟨front, back, heq, hlength⟩ := ih
      exact ⟨g :: front, back, congrArg (g :: ·) heq, congrArg (· + 1) hlength⟩

/-- What is written for eight groups is read as them, whether zeros are left out or not. -/
theorem readV6?_compressed {gs : List Nat} (length : gs.length = 8) (lt : ∀ g ∈ gs, g < 65536) :
    readV6? (IpAddress.compressed gs) = some (gs, []) := by
  have whole {n : Nat} {groups : List Nat} (lt : ∀ g ∈ groups, g < 65536) (hn : groups.length ≤ n) :
      readGroups n true (IpAddress.groupsText groups) = (groups, false, []) := by
    have hread := readGroups_groupsText lt hn (.inl rfl)
    rwa [List.append_nil] at hread
  unfold IpAddress.compressed
  obtain ⟨front, back, heq, hstart⟩ := exists_append_zeroRun gs
  generalize IpAddress.zeroRun gs = run at heq hstart
  obtain ⟨start, len⟩ := run
  dsimp only at heq hstart ⊢
  split
  · next hlen =>
    have htake : gs.take start = front := by
      rw [heq, ← hstart, List.append_assoc, List.take_left]
    have hdrop : gs.drop (start + len) = back := by
      rw [heq]
      refine List.drop_left' ?_
      rw [List.length_append, List.length_replicate, hstart]
    have hlength : front.length + len + back.length = 8 := by
      rw [← length, heq, List.length_append, List.length_append, List.length_replicate]
    have ltFront : ∀ g ∈ front, g < 65536 := fun g hg => lt g (htake ▸ hg |> List.mem_of_mem_take)
    have ltBack : ∀ g ∈ back, g < 65536 := fun g hg => lt g (hdrop ▸ hg |> List.mem_of_mem_drop)
    have hzeros : 8 - front.length - back.length = len := by omega
    rw [htake, hdrop, List.append_assoc, List.cons_append, List.cons_append, List.nil_append,
      readV6?_colons ltFront (by omega) (whole ltBack (by omega)), hzeros, ← heq]
  · rw [readV6?_eq, whole lt (Nat.le_of_eq length), if_pos length]

/-- So is a long address that ends in a short one. -/
theorem readV6?_v6Text {gs : List Nat} (length : gs.length = 8) (lt : ∀ g ∈ gs, g < 65536) :
    readV6? (IpAddress.v6Text gs) = some (gs, []) := by
  unfold IpAddress.v6Text
  split
  · next a b =>
    have ha : a < 65536 := lt a (by simp)
    have hb : b < 65536 := lt b (by simp)
    have hoctets : ∀ o ∈ [a / 256, a % 256, b / 256, b % 256], o < 256 := by
      simp only [List.forall_mem_cons, List.not_mem_nil, false_implies, implies_true, and_true]
      omega
    have hshort := readV4?_v4Text rfl hoctets Text.stopsDigits_nil
    rw [List.append_nil] at hshort
    generalize IpAddress.v4Text [a / 256, a % 256, b / 256, b % 256] = short at hshort
    have hpair : readGroups 6 false (':' :: short) = ([a, b], true, []) := by
      rw [readGroups_succ]
      simp [opened?, readChar?, hshort, pairUp, Nat.div_add_mod']
    have htail : readGroups 7 true ("ffff".toList ++ ':' :: short) = ([65535, a, b], true, []) := by
      have hstop : StopsDigits 16 (':' :: short) := Text.stopsDigits_cons (by decide) short
      rw [readGroups_toDigits (by decide : 65535 < 65536) hstop (by simp) rfl, hpair]
    exact readV6?_colons (List.forall_mem_nil _) (by decide) htail
  · exact readV6?_compressed length lt

/-- The octets of a short address stand for it. -/
theorem ofOctets_octetsOfV4 (v : BitVec 32) : ofOctets (IpAddress.octetsOfV4 v) = .v4 v := by
  have hvalue : ofDigits 256 (IpAddress.octetsOfV4 v) = v.toNat % 256 ^ 4 :=
    Text.ofDigits_places 256 v.toNat 4
  have hlt : v.toNat < 256 ^ 4 := v.isLt
  refine congrArg IpAddress.v4 (BitVec.eq_of_toNat_eq ?_)
  rw [BitVec.toNat_ofNat, hvalue, Nat.mod_eq_of_lt hlt, Nat.mod_eq_of_lt v.isLt]

/-- Four octets are those of the short address that they stand for. -/
theorem octetsOfV4_ofDigits {os : List Nat} (length : os.length = 4) (lt : ∀ o ∈ os, o < 256) :
    IpAddress.octetsOfV4 (BitVec.ofNat 32 (ofDigits 256 os)) = os := by
  obtain ⟨a, b, c, d, rfl⟩ : ∃ a b c d, os = [a, b, c, d] := by
    match os, length with
    | [a, b, c, d], _ => exact ⟨a, b, c, d, rfl⟩
  simp only [List.forall_mem_cons, List.not_mem_nil, false_imp_iff, implies_true, and_true] at lt
  simp only [IpAddress.octetsOfV4, ofDigits, BitVec.toNat_ofNat, List.foldl, List.map, List.cons.injEq,
    Nat.pow_eq, and_true]
  refine ⟨?_, ?_, ?_, ?_⟩ <;> omega

/-- A short address that has been read is written as it stood there. -/
theorem text_of_readV4? {os : List Nat} (h : readV4? cs = some (os, [])) :
    (ofOctets os).text = String.ofList cs := by
  obtain ⟨length, lt, heq⟩ := eq_of_readOctets? h
  rw [if_pos rfl, List.append_nil] at heq
  rw [ofOctets, IpAddress.text, octetsOfV4_ofDigits length lt, ← heq]

/-- The groups of a long address stand for it. -/
theorem ofGroups_groupsOfV6 (v : BitVec 128) : ofGroups (IpAddress.groupsOfV6 v) = .v6 v := by
  have hvalue : ofDigits 65536 (IpAddress.groupsOfV6 v) = v.toNat % 65536 ^ 8 :=
    Text.ofDigits_places 65536 v.toNat 8
  have hlt : v.toNat < 65536 ^ 8 := v.isLt
  refine congrArg IpAddress.v6 (BitVec.eq_of_toNat_eq ?_)
  rw [BitVec.toNat_ofNat, hvalue, Nat.mod_eq_of_lt hlt, Nat.mod_eq_of_lt v.isLt]

/-- An address is read from what is written for it. -/
theorem parse?_text (ip : IpAddress) : IpAddress.parse? ip.text = some ip := by
  unfold IpAddress.parse? IpAddress.read? IpAddress.text
  cases ip with
  | v4 v =>
    have hlt : ∀ o ∈ IpAddress.octetsOfV4 v, o < 256 := by
      intro o ho
      obtain ⟨shift, -, rfl⟩ := List.mem_map.mp ho
      exact Nat.mod_lt _ (by decide)
    have hread := readV4?_v4Text rfl hlt Text.stopsDigits_nil
    rw [List.append_nil] at hread
    dsimp only
    rw [String.toList_ofList, hread]
    exact congrArg some (ofOctets_octetsOfV4 v)
  | v6 v =>
    have hlt : ∀ g ∈ IpAddress.groupsOfV6 v, g < 65536 := by
      intro g hg
      obtain ⟨shift, -, rfl⟩ := List.mem_map.mp hg
      exact Nat.mod_lt _ (by decide)
    have hread := readV6?_v6Text rfl hlt
    have hshort : readV4? (IpAddress.v6Text (IpAddress.groupsOfV6 v)) = none := by
      cases h : readV4? (IpAddress.v6Text (IpAddress.groupsOfV6 v)) with
      | none => rfl
      | some p =>
        rw [readV6?_of_readV4? h] at hread
        cases hread
    dsimp only
    rw [String.toList_ofList, hshort, hread]
    exact congrArg some (ofGroups_groupsOfV6 v)

end ClusterSurvey.Net
