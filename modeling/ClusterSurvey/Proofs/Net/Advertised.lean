import ClusterSurvey.Net.Advertised
import ClusterSurvey.Net.Url
import ClusterSurvey.Proofs.Net.IpText
import Mathlib.Data.List.TakeDrop

/-!
# The host of the certificate

A run has a certificate issued for the host of the address that its operator advertises.  This host is what
stands in front of the port, without the brackets of a long address; that of a socket address is written
anew.
-/

namespace ClusterSurvey.Net

open Text (StopsDigits)

/-! ### Advertised addresses -/

/-- Whether a character stands in the name of a host or in a short address. -/
def isHostChar (c : Char) : Bool := isLabelChar c || c = '.'

/-- Whether a text is the port behind a host: nothing, or a colon and the digits of a number below
65536. -/
def IsPortPart (cs : List Char) : Prop :=
  cs = [] ∨ ∃ ds, cs = ':' :: ds ∧ ds ≠ [] ∧ ds.all Char.isDigit = true ∧
    Nat.ofDigitChars 10 ds 0 < 65536

/-- Whether a text has neither a colon nor a square bracket, as a host that a port follows directly. -/
def IsHostText (cs : List Char) : Prop := ∀ c ∈ cs, c ≠ ':' ∧ isBracket c = false

theorem IsHostText.colon_not_mem {cs : List Char} (h : IsHostText cs) : ':' ∉ cs :=
  fun hmem => (h ':' hmem).1 rfl

/-- Whether a text is a long address. -/
def IsLong (s : String) : Prop := ∃ v, IpAddress.parse? s = some (.v6 v)

/-- The host that a name in a certificate is, a domain name in lower case. -/
def AltName.host : AltName → HostName
  | .ip a => .address a
  | .dns text => .domain (String.ofList (text.toList.map Char.toLower))

/-- Whether a character stands in an advertised address. -/
def isAddressChar (c : Char) : Bool := c.isAlphanum || "-_.:[]".toList.contains c

private theorem toNat_lt_of_isAlphanum {c : Char} (h : c.isAlphanum = true) : c.toNat < 128 := by
  have below (b : Char) (hb : c.val ≤ b.val) : c.toNat ≤ b.toNat := hb
  have hcases : (c.isUpper || c.isLower || c.isDigit) = true := h
  rw [Bool.or_eq_true, Bool.or_eq_true] at hcases
  rcases hcases with (upper | lower) | digit
  · have hrange : 'A'.val ≤ c.val ∧ c.val ≤ 'Z'.val := of_decide_eq_true upper
    exact Nat.lt_of_le_of_lt (below 'Z' hrange.2) (by decide)
  · have hrange : 'a'.val ≤ c.val ∧ c.val ≤ 'z'.val := by
      have hle : (decide ('a'.val ≤ c.val) && decide (c.val ≤ 'z'.val)) = true := lower
      simpa using hle
    exact Nat.lt_of_le_of_lt (below 'z' hrange.2) (by decide)
  · exact Nat.lt_of_le_of_lt (Char.isDigit_iff_toNat.mp digit).2 (by decide)

/-- What stands in a name is no bracket, no colon and no percent sign, and none of what stands in no
domain name, in lower case too. -/
theorem plain_of_isHostChar {c : Char} (h : isHostChar c = true) :
    isAddressChar c = true ∧ isBracket c = false ∧ c ≠ ':' ∧ c ≠ '%' ∧
      isForbidden c.toLower = false := by
  have all : ∀ n : Fin 128, isHostChar (Char.ofNat n) = true →
      isAddressChar (Char.ofNat n) = true ∧ isBracket (Char.ofNat n) = false ∧ Char.ofNat n ≠ ':' ∧
        Char.ofNat n ≠ '%' ∧ isForbidden (Char.ofNat n).toLower = false := by
    decide +kernel
  have hlt : c.toNat < 128 := by
    simp only [isHostChar, isLabelChar, Bool.or_eq_true, decide_eq_true_iff] at h
    obtain ((h | rfl) | rfl) | rfl := h
    · exact toNat_lt_of_isAlphanum h
    · decide
    · decide
    · decide
  have hc := all ⟨c.toNat, hlt⟩
  rw [Char.ofNat_toNat] at hc
  exact hc h

/-- What stands in a long address stands in an advertised one, and is no bracket. -/
theorem plain_of_isLiteralChar {c : Char} (h : isLiteralChar c = true) :
    isAddressChar c = true ∧ isBracket c = false := by
  have all : ∀ n : Fin 128, isLiteralChar (Char.ofNat n) = true →
      isAddressChar (Char.ofNat n) = true ∧ isBracket (Char.ofNat n) = false := by
    decide +kernel
  have hlt : c.toNat < 128 := by
    simp only [isLiteralChar, Bool.or_eq_true, decide_eq_true_iff, Option.isSome_iff_exists] at h
    obtain (⟨d, hd⟩ | rfl) | rfl := h
    · exact Text.toNat_lt_of_digitIn? hd
    · decide
    · decide
  have hc := all ⟨c.toNat, hlt⟩
  rw [Char.ofNat_toNat] at hc
  exact hc h

variable {cs host port literal front back : List Char} {address : String} {gs os : List Nat}

/-! ### Cutting an address into parts -/

/-- A port of decimal digits is read in all the places where a port is read. -/
theorem port_of_digits {ds : List Char} (ne : ds ≠ []) (digits : ds.all Char.isDigit = true)
    (lt : Nat.ofDigitChars 10 ds 0 < 65536) :
    port? ds = .ok (some (Nat.ofDigitChars 10 ds 0)) ∧ isPort ds = true ∧
      SocketAddress.readPort? (':' :: ds) = some (Nat.ofDigitChars 10 ds 0, []) := by
  have hread := Text.readDigits?_of_isDigit ne digits
  refine ⟨?_, ?_, ?_⟩
  · unfold port?
    rw [if_neg ne, hread]
    dsimp only
    rw [if_pos lt]
  · unfold isPort
    dsimp only
    split
    · rw [List.all_cons, Bool.and_eq_true] at digits
      exact absurd digits.1 (by decide)
    · simp [ne, digits, lt]
  · exact readNumber?_of_readDigits? hread lt

/-- A text is split at its last colon. -/
theorem splitLastColon?_append (h : ':' ∉ back) (front : List Char) :
    splitLastColon? (front ++ ':' :: back) = some (front, back) := by
  have hback : ∀ c ∈ back.reverse, decide (c ≠ ':') = true := fun c hc =>
    decide_eq_true fun heq => h (heq ▸ List.mem_reverse.mp hc)
  have hspan : (front ++ ':' :: back).reverse.span (· ≠ ':') = (back.reverse, ':' :: front.reverse) := by
    rw [List.span_eq_takeWhile_dropWhile, List.reverse_append, List.reverse_cons, List.append_assoc,
      List.takeWhile_append_of_pos hback, List.dropWhile_append_of_pos hback]
    simp
  rw [splitLastColon?, hspan]
  simp

theorem splitLastColon?_of_not_mem (h : ':' ∉ cs) : splitLastColon? cs = none := by
  have hall : cs.reverse.dropWhile (· ≠ ':') = [] :=
    List.dropWhile_eq_nil_iff.mpr fun c hc =>
      decide_eq_true fun heq => h (heq ▸ List.mem_reverse.mp hc)
  rw [splitLastColon?, List.span_eq_takeWhile_dropWhile, hall]

private theorem dropWhile_isBracket (plain : ∀ c ∈ cs, isBracket c = false) :
    cs.dropWhile isBracket = cs := by
  cases cs with
  | nil => rfl
  | cons c cs => exact List.dropWhile_cons_of_neg (by simp [plain c List.mem_cons_self])

/-- Where no brackets are, none go. -/
theorem stripBrackets_eq_self (plain : ∀ c ∈ cs, isBracket c = false) : stripBrackets cs = cs := by
  rw [stripBrackets, dropWhile_isBracket plain,
    dropWhile_isBracket fun c hc => plain c (List.mem_reverse.mp hc), List.reverse_reverse]

/-- The brackets around a text without brackets go. -/
theorem stripBrackets_bracketed (ne : cs ≠ []) (plain : ∀ c ∈ cs, isBracket c = false) :
    stripBrackets ('[' :: (cs ++ [']'])) = cs := by
  have hfront : ('[' :: (cs ++ [']'])).dropWhile isBracket = cs ++ [']'] := by
    obtain ⟨c, cs, rfl⟩ := List.exists_cons_of_ne_nil ne
    rw [List.dropWhile_cons_of_pos (by decide), List.cons_append,
      List.dropWhile_cons_of_neg (by simp [plain c List.mem_cons_self])]
  rw [stripBrackets, hfront, List.reverse_append, List.reverse_singleton, List.singleton_append,
    List.dropWhile_cons_of_pos (by decide),
    dropWhile_isBracket fun c hc => plain c (List.mem_reverse.mp hc), List.reverse_reverse]

/-! ### The host of the certificate -/

/-- A text that is an address is read to its end as a short or as a long one. -/
theorem parse?_cases {ip : IpAddress} (h : IpAddress.parse? address = some ip) :
    (∃ os, readV4? address.toList = some (os, []) ∧ ip = ofOctets os) ∨
      ∃ gs, readV6? address.toList = some (gs, []) ∧ ip = ofGroups gs := by
  unfold IpAddress.parse? IpAddress.read? at h
  cases hshort : readV4? address.toList with
  | some p =>
    rw [hshort] at h
    obtain ⟨os, - | ⟨c, rest⟩⟩ := p
    · cases h
      exact .inl ⟨os, rfl, rfl⟩
    · cases h
  | none =>
    rw [hshort] at h
    cases hlong : readV6? address.toList with
    | none =>
      rw [hlong] at h
      cases h
    | some p =>
      rw [hlong] at h
      obtain ⟨gs, - | ⟨c, rest⟩⟩ := p
      · cases h
        exact .inr ⟨gs, rfl, rfl⟩
      · cases h

theorem IsLong.exists_groups (h : IsLong address) :
    ∃ gs, readV6? address.toList = some (gs, []) ∧ IpAddress.parse? address = some (ofGroups gs) := by
  obtain ⟨v, hv⟩ := h
  rcases parse?_cases hv with ⟨os, -, ⟨⟩⟩ | ⟨gs, hread, hgroups⟩
  exact ⟨gs, hread, hv.trans (congrArg some hgroups)⟩

/-- How a socket address without brackets is read. -/
theorem SocketAddress.parse?_of_head? (h : cs.head? ≠ some '[') :
    SocketAddress.parse? (String.ofList cs) =
      (readV4? cs).bind fun p => (SocketAddress.readPort? p.2).bind fun q =>
        if q.2 = [] then some ⟨ofOctets p.1, q.1⟩ else none := by
  unfold SocketAddress.parse?
  rw [String.toList_ofList]
  split
  · exact absurd rfl h
  · rfl

/-- How one with brackets is read. -/
theorem SocketAddress.parse?_bracket (cs : List Char) :
    SocketAddress.parse? (String.ofList ('[' :: cs)) =
      (readV6? cs).bind fun p => (SocketAddress.skipZone? p.2).bind fun r =>
        (readChar? ']' r).bind fun r => (SocketAddress.readPort? r).bind fun q =>
          if q.2 = [] then some ⟨ofGroups p.1, q.1⟩ else none := by
  unfold SocketAddress.parse?
  rw [String.toList_ofList]
  rfl

/-- A text with a colon has a last one. -/
private theorem exists_last_colon (h : ':' ∈ cs) :
    ∃ front back, cs = front ++ ':' :: back ∧ ':' ∉ back := by
  obtain ⟨back, front, heq, hback⟩ := List.eq_append_cons_of_mem (List.mem_reverse.mpr h)
  refine ⟨front.reverse, back.reverse, ?_, fun hmem => hback (List.mem_reverse.mp hmem)⟩
  rw [← List.reverse_reverse cs, heq, List.reverse_append, List.reverse_cons, List.append_assoc]
  rfl

/-- A host with two colons keeps all but its brackets, unless it is that of a socket. -/
theorem advertisedHost_of_colons (socket : SocketAddress.parse? (String.ofList cs) = none)
    (colons : 2 ≤ cs.count ':') :
    advertisedHost (String.ofList cs) = String.ofList (stripBrackets cs) := by
  have hpos : 0 < cs.count ':' := Nat.lt_of_lt_of_le Nat.two_pos colons
  obtain ⟨front, back, rfl, hback⟩ := exists_last_colon (List.count_pos_iff.mp hpos)
  have hfront : ':' ∈ front := by
    rw [List.count_append, List.count_cons_self, List.count_eq_zero_of_not_mem hback] at colons
    exact List.count_pos_iff.mp (Nat.le_of_succ_le_succ colons)
  unfold advertisedHost
  rw [socket, String.toList_ofList, splitLastColon?_append hback]
  exact if_neg fun h => h.1 hfront

/-- No port is read where no colon is. -/
theorem SocketAddress.readPort?_of_head? (h : cs.head? ≠ some ':') :
    SocketAddress.readPort? cs = none := by
  unfold SocketAddress.readPort?
  rw [readChar?_of_head? h]
  rfl

/-- What follows a short address in a host has no colon. -/
private theorem colon_not_mem_rest {rest : List Char} (plain : IsHostText host)
    (h : readV4? host = some (os, rest)) : ':' ∉ rest := by
  obtain ⟨-, -, rfl⟩ := eq_of_readOctets? h
  exact fun hmem => (plain ':' (List.mem_append_right _ hmem)).1 rfl

/-- A host without a port is its own host. -/
theorem advertisedHost_of_isHostText (plain : IsHostText host) :
    advertisedHost (String.ofList host) = String.ofList host := by
  have hhead : host.head? ≠ some '[' := fun h =>
    absurd (plain '[' (List.mem_of_head? h)).2 (by decide)
  have hsocket : SocketAddress.parse? (String.ofList host) = none := by
    rw [SocketAddress.parse?_of_head? hhead]
    cases hshort : readV4? host with
    | none => rfl
    | some p =>
      have hcolon := colon_not_mem_rest plain hshort
      rw [Option.bind_some,
        SocketAddress.readPort?_of_head? fun h => hcolon (List.mem_of_head? h)]
      rfl
  unfold advertisedHost
  rw [hsocket, String.toList_ofList, splitLastColon?_of_not_mem plain.colon_not_mem]
  dsimp only
  rw [stripBrackets_eq_self fun c hc => (plain c hc).2]

/-- A host with a port is a socket address exactly if it is a short address. -/
private theorem parse?_host_port {ds : List Char} (plain : IsHostText host) {n : Nat}
    (read : SocketAddress.readPort? (':' :: ds) = some (n, [])) :
    SocketAddress.parse? (String.ofList (host ++ ':' :: ds)) =
      (readV4? host).bind fun p => if p.2 = [] then some ⟨ofOctets p.1, n⟩ else none := by
  have happend : readV4? (host ++ ':' :: ds) =
      (readV4? host).map fun p => (p.1, p.2 ++ ':' :: ds) :=
    readOctets?_append (Text.stopsDigits_cons (by decide) ds) (by simp) 4 true host
  have hopen : (host ++ ':' :: ds).head? ≠ some '[' := by
    cases host with
    | nil => nofun
    | cons c cs =>
      rintro ⟨⟩
      exact absurd (plain '[' List.mem_cons_self).2 (by decide)
  rw [SocketAddress.parse?_of_head? hopen, happend]
  cases hshort : readV4? host with
  | none => rfl
  | some p =>
    obtain ⟨os, - | ⟨c, rest⟩⟩ := p
    · simp [read]
    · have hcolon := colon_not_mem_rest plain hshort
      have hhead : (c :: rest ++ ':' :: ds).head? ≠ some ':' := by
        rintro ⟨⟩
        exact hcolon List.mem_cons_self
      rw [Option.map_some, Option.bind_some, SocketAddress.readPort?_of_head? hhead]
      rfl

/-- A port is cut off a host.  The host of a socket address is written anew, as it stood there. -/
theorem advertisedHost_append_port (plain : IsHostText host) (isPort : IsPortPart port) :
    advertisedHost (String.ofList (host ++ port)) = String.ofList host := by
  rcases isPort with rfl | ⟨ds, rfl, digit, digits, lt⟩
  · rw [List.append_nil, advertisedHost_of_isHostText plain]
  · obtain ⟨-, hport, hread⟩ := port_of_digits digit digits lt
    have hsocket := parse?_host_port plain hread
    unfold advertisedHost
    rw [hsocket]
    by_cases hshort : ∃ os, readV4? host = some (os, [])
    · obtain ⟨os, hshort⟩ := hshort
      rw [hshort, Option.bind_some, if_pos rfl]
      exact text_of_readV4? hshort
    · have hnone : ((readV4? host).bind fun p =>
          if p.2 = [] then some (SocketAddress.mk (ofOctets p.1) (Nat.ofDigitChars 10 ds 0))
          else none) = none := by
        cases hfour : readV4? host with
        | none => rfl
        | some p =>
          refine if_neg fun hnil => hshort ⟨p.1, ?_⟩
          rw [hfour, ← hnil]
      have hcolon : ':' ∉ ds := fun hmem => absurd (List.all_eq_true.mp digits ':' hmem) (by decide)
      rw [hnone, String.toList_ofList, splitLastColon?_append hcolon]
      exact if_pos ⟨plain.colon_not_mem, hport⟩

/-- A name has neither brackets nor colons. -/
theorem isHostText_of_named (chars : host.all isHostChar = true) : IsHostText host := fun c hc =>
  have hplain := plain_of_isHostChar (List.all_eq_true.mp chars c hc)
  ⟨hplain.2.2.1, hplain.2.1⟩

/-- A text that is a long address ends in front of a bracket. -/
private theorem readV6?_bracket (h : readV6? literal = some (gs, [])) (rest : List Char) :
    readV6? (literal ++ ']' :: rest) = some (gs, ']' :: rest) := by
  have hstop : StopsAddress (']' :: rest) := by
    rintro c ⟨⟩
    decide
  rw [readV6?_append hstop, h]
  rfl

theorem ne_nil_of_readV6? (h : readV6? literal = some (gs, [])) : literal ≠ [] := by
  rintro rfl
  have hcount := two_le_count_of_readV6? h
  cases hcount

theorem plain_of_readV6? (h : readV6? literal = some (gs, [])) :
    ∀ c ∈ literal, isAddressChar c = true ∧ isBracket c = false :=
  fun c hc => plain_of_isLiteralChar (isLiteralChar_of_readV6? h c hc)

/-- The brackets of a long address go.  In front of a port the address is written anew. -/
theorem advertisedHost_bracketed (long : readV6? literal = some (gs, [])) (isPort : IsPortPart port) :
    advertisedHost (String.ofList ('[' :: (literal ++ ']' :: port))) =
      if port = [] then String.ofList literal else (ofGroups gs).text := by
  have hsocket : SocketAddress.parse? (String.ofList ('[' :: (literal ++ ']' :: port))) =
      (SocketAddress.readPort? port).bind fun q =>
        if q.2 = [] then some ⟨ofGroups gs, q.1⟩ else none := by
    rw [SocketAddress.parse?_bracket, readV6?_bracket long]
    rfl
  rcases isPort with rfl | ⟨ds, rfl, digit, digits, lt⟩
  · have hcolons : 2 ≤ ('[' :: (literal ++ [']'])).count ':' := by
      have hcount := two_le_count_of_readV6? long
      rw [List.count_cons_of_ne (by decide), List.count_append]
      omega
    have hplain : ∀ c ∈ literal, isBracket c = false := fun c hc => (plain_of_readV6? long c hc).2
    rw [advertisedHost_of_colons hsocket hcolons,
      stripBrackets_bracketed (ne_nil_of_readV6? long) hplain, if_pos rfl]
  · obtain ⟨-, -, hread⟩ := port_of_digits digit digits lt
    rw [hread, Option.bind_some, if_pos rfl] at hsocket
    unfold advertisedHost
    rw [hsocket, if_neg (List.cons_ne_nil _ _)]

/-- A long address alone is its own host: none of its groups is a port. -/
theorem advertisedHost_bare (long : readV6? literal = some (gs, [])) :
    advertisedHost (String.ofList literal) = String.ofList literal := by
  have hplain : ∀ c ∈ literal, isBracket c = false := fun c hc => (plain_of_readV6? long c hc).2
  have hhead : literal.head? ≠ some '[' := fun h =>
    absurd (hplain '[' (List.mem_of_head? h)) (by decide)
  have hsocket : SocketAddress.parse? (String.ofList literal) = none := by
    rw [SocketAddress.parse?_of_head? hhead]
    cases hshort : readV4? literal with
    | none => rfl
    | some p =>
      rw [readV6?_of_readV4? hshort] at long
      cases long
  rw [advertisedHost_of_colons hsocket (two_le_count_of_readV6? long), stripBrackets_eq_self hplain]

end ClusterSurvey.Net
