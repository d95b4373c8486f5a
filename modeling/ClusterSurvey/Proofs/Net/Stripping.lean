import ClusterSurvey.Proofs.Net.Advertised

/-!
# What is cut off an advertised address

A host name and a short address lose their port and nothing else.  A long address loses its brackets and
the port behind them, but none of its groups, although a group may look like a port.  What is left is its
own host.
-/

namespace ClusterSurvey.Net

/-- Whether a text is a port in decimal digits, of a number below 65536. -/
def IsDecimalPort (port : String) : Prop :=
  port.toList ≠ [] ∧ port.toList.all Char.isDigit = true ∧ Nat.ofDigitChars 10 port.toList 0 < 65536

/-- Whether a text is a short address. -/
def IsShort (host : String) : Prop := ∃ v, IpAddress.parse? host = some (.v4 v)

variable {host port literal : String}

theorem IsDecimalPort.isPortPart (h : IsDecimalPort port) : IsPortPart (':' :: port.toList) :=
  .inr ⟨port.toList, rfl, h⟩

/-- A short address is digits and points. -/
theorem IsShort.isHostText (h : IsShort host) : IsHostText host.toList := by
  obtain ⟨v, hv⟩ := h
  rcases parse?_cases hv with ⟨os, hread, -⟩ | ⟨gs, -, ⟨⟩⟩
  obtain ⟨-, -, heq⟩ := eq_of_readOctets? hread
  rw [if_pos rfl, List.append_nil] at heq
  refine isHostText_of_named (List.all_eq_true.mpr fun c hc => ?_)
  rw [heq] at hc
  rcases isDigit_of_mem_v4Text hc with hd | rfl
  · simp [isHostChar, isLabelChar, Char.isAlphanum, hd]
  · rfl

/-- What stands in front of a port is the host, and so is a host alone. -/
theorem advertisedHost_host (plain : IsHostText host.toList) (isPort : IsDecimalPort port) :
    advertisedHost host = host ∧ advertisedHost (host ++ ":" ++ port) = host := by
  have hport : host ++ ":" ++ port = String.ofList (host.toList ++ ':' :: port.toList) := by
    rw [← String.toList_inj]
    simp
  refine ⟨?_, ?_⟩
  · simpa using advertisedHost_of_isHostText plain
  · rw [hport, advertisedHost_append_port plain isPort.isPortPart, String.ofList_toList]

/-- A long address is its own host, and has no brackets. -/
theorem IsLong.advertisedHost_eq (long : IsLong literal) :
    advertisedHost literal = literal ∧ ∀ c ∈ literal.toList, isBracket c = false := by
  obtain ⟨gs, hread, -⟩ := long.exists_groups
  refine ⟨?_, fun c hc => (plain_of_readV6? hread c hc).2⟩
  simpa using advertisedHost_bare hread

/-- A long address in brackets loses them, and is written anew if a port follows. -/
theorem advertisedHost_brackets {v : BitVec 128} (h : IpAddress.parse? literal = some (.v6 v))
    (isPort : IsDecimalPort port) :
    advertisedHost ("[" ++ literal ++ "]") = literal ∧
      advertisedHost ("[" ++ literal ++ "]:" ++ port) = (IpAddress.v6 v).text := by
  obtain ⟨gs, hread, hparse⟩ := IsLong.exists_groups ⟨v, h⟩
  have hgroups : ofGroups gs = .v6 v := Option.some.inj (hparse.symm.trans h)
  have halone : "[" ++ literal ++ "]" = String.ofList ('[' :: (literal.toList ++ [']'])) := by
    rw [← String.toList_inj]
    simp
  have hport : "[" ++ literal ++ "]:" ++ port =
      String.ofList ('[' :: (literal.toList ++ ']' :: ':' :: port.toList)) := by
    rw [← String.toList_inj]
    simp
  refine ⟨?_, ?_⟩
  · rw [halone, advertisedHost_bracketed hread (.inl rfl), if_pos rfl, String.ofList_toList]
  · rw [hport, advertisedHost_bracketed hread isPort.isPortPart, if_neg (List.cons_ne_nil _ _), hgroups]

/-- The host of an advertised address is the address without its port.  A name and a short address are
left as they are.  A long address stays the same address, as it stood there or, in front of a port, written
anew, and has no brackets.  The host of each of these results is the result itself. -/
theorem advertisedHost_strips_port (isPort : IsDecimalPort port) :
    (∀ host, IsHostText host.toList ∨ IsShort host →
      advertisedHost host = host ∧ advertisedHost (host ++ ":" ++ port) = host) ∧
    ∀ literal v, IpAddress.parse? literal = some (.v6 v) →
      (advertisedHost literal = literal ∧ advertisedHost ("[" ++ literal ++ "]") = literal ∧
        advertisedHost ("[" ++ literal ++ "]:" ++ port) = (IpAddress.v6 v).text) ∧
      ∀ address ∈ [literal, "[" ++ literal ++ "]", "[" ++ literal ++ "]:" ++ port],
        IpAddress.parse? (advertisedHost address) = some (.v6 v) ∧
        (∀ c ∈ (advertisedHost address).toList, c ≠ '[' ∧ c ≠ ']') ∧
        advertisedHost (advertisedHost address) = advertisedHost address := by
  refine ⟨fun host plain => advertisedHost_host (plain.elim id IsShort.isHostText) isPort,
    fun literal v h => ?_⟩
  obtain ⟨halone, hport⟩ := advertisedHost_brackets h isPort
  have hbare := (IsLong.advertisedHost_eq ⟨v, h⟩).1
  refine ⟨⟨hbare, halone, hport⟩, fun address ho => ?_⟩
  -- Each of the results is a text of the same address, and such a text is left alone.
  have hsame : IpAddress.parse? (advertisedHost address) = some (.v6 v) := by
    simp only [List.mem_cons, List.not_mem_nil, or_false] at ho
    rcases ho with rfl | rfl | rfl
    · rw [hbare, h]
    · rw [halone, h]
    · rw [hport, parse?_text]
  obtain ⟨hfixed, hplain⟩ := IsLong.advertisedHost_eq ⟨v, hsame⟩
  exact ⟨hsame, fun c hc => by simpa [isBracket] using hplain c hc, hfixed⟩

/-- A name, a short address, and a long address the last group of which looks like a port. -/
theorem advertisedHost_strips_port_443 :
    advertisedHost "sonde.svc:443" = "sonde.svc" ∧ advertisedHost "10.0.0.5:443" = "10.0.0.5" ∧
      advertisedHost "fe80::1:8080" = "fe80::1:8080" ∧
      advertisedHost "[fe80:0:0::1:8080]:443" = "fe80::1:8080" := by
  have isPort : IsDecimalPort "443" := by
    refine ⟨?_, ?_, ?_⟩ <;> decide +kernel
  have isHost : IsHostText "sonde.svc".toList := by
    have hall : "sonde.svc".toList.all (fun c => c ≠ ':' ∧ isBracket c = false) = true := by decide +kernel
    intro c hc
    simpa using List.all_eq_true.mp hall c hc
  have isShort : IsShort "10.0.0.5" := ⟨0x0a000005#32, by decide +kernel⟩
  have bare : IpAddress.parse? "fe80::1:8080" = some (.v6 0xfe800000000000000000000000018080#128) := by
    decide +kernel
  have spelled :
      IpAddress.parse? "fe80:0:0::1:8080" = some (.v6 0xfe800000000000000000000000018080#128) := by
    decide +kernel
  have text : (IpAddress.v6 0xfe800000000000000000000000018080#128).text = "fe80::1:8080" := by
    decide +kernel
  obtain ⟨hosts, longs⟩ := advertisedHost_strips_port isPort
  exact ⟨(hosts _ (.inl isHost)).2, (hosts _ (.inr isShort)).2, (longs _ _ bare).1.1,
    (longs _ _ spelled).1.2.2.trans text⟩

end ClusterSurvey.Net
