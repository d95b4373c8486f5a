/-!
# Text in octets

A text travels as its UTF-8 octets.  Reading octets is strict, where one bad octet spoils the text,
or lenient, where each longest run of octets that begins a character but does not finish it, and
each octet that begins none, stands for one replacement character.
-/

namespace ClusterSurvey.Text

/-- The octets of a text. -/
def octets (s : String) : ByteArray := s.toUTF8

/-- The number of octets of a text. -/
def octetCount (cs : List Char) : Nat := (String.ofList cs).utf8ByteSize

/-- The text whose octets these are, if they are the octets of a text. -/
def ofOctets? (b : ByteArray) : Option String := String.fromUTF8? b

/-- Octets stand for a text if they are its octets. -/
theorem ofOctets?_eq_some_iff (b : ByteArray) (s : String) :
    ofOctets? b = some s ↔ octets s = b := by
  unfold ofOctets? String.fromUTF8?
  constructor
  · intro h
    split at h
    · cases h
      rfl
    · cases h
  · rintro rfl
    have valid : (octets s).IsValidUTF8 := s.isValidUTF8
    rw [dif_pos valid]
    rfl

/-- The character that stands for octets without a meaning. -/
def replacement : Char := '\ufffd'

/-- What a first octet announces: the number of octets that follow, the bits it holds itself, and
the range in which the first of those octets has to lie. -/
structure Lead where
  /-- How many octets follow. -/
  follow : Nat
  /-- The bits in the first octet. -/
  bits : Nat
  /-- Least second octet. -/
  lo : Nat
  /-- Greatest second octet. -/
  hi : Nat

/-- How a character that begins with this octet goes on, if one does. -/
def lead? (b : Nat) : Option Lead :=
  if b < 0x80 then some ⟨0, b, 0x80, 0xbf⟩
  else if b < 0xc2 then none
  else if b < 0xe0 then some ⟨1, b - 0xc0, 0x80, 0xbf⟩
  else if b = 0xe0 then some ⟨2, 0, 0xa0, 0xbf⟩
  else if b = 0xed then some ⟨2, 0xd, 0x80, 0x9f⟩
  else if b < 0xf0 then some ⟨2, b - 0xe0, 0x80, 0xbf⟩
  else if b = 0xf0 then some ⟨3, 0, 0x90, 0xbf⟩
  else if b < 0xf4 then some ⟨3, b - 0xf0, 0x80, 0xbf⟩
  else if b = 0xf4 then some ⟨3, 4, 0x80, 0x8f⟩
  else none

/-- Reads the octets that follow a first one.  The first of them has to lie between `lo` and `hi`
and the others between `0x80` and `0xbf`; the answer is the character, or the replacement if they
break off, and the octets not used. -/
def continueChar : Nat → Nat → Nat → Nat → List UInt8 → Char × List UInt8
  | 0, acc, _, _, bs => (Char.ofNat acc, bs)
  | _ + 1, _, _, _, [] => (replacement, [])
  | n + 1, acc, lo, hi, b :: bs =>
    if lo ≤ b.toNat ∧ b.toNat ≤ hi then
      continueChar n (acc * 64 + (b.toNat - 0x80)) 0x80 0xbf bs
    else (replacement, b :: bs)

/-- Following octets only use octets up. -/
theorem length_continueChar (n acc lo hi : Nat) (bs : List UInt8) :
    (continueChar n acc lo hi bs).2.length ≤ bs.length := by
  induction n generalizing acc lo hi bs with
  | zero => simp [continueChar]
  | succ n ih =>
    cases bs with
    | nil => simp [continueChar]
    | cons b bs =>
      simp only [continueChar]
      split
      · exact Nat.le_succ_of_le (ih ..)
      · simp

/-- The characters of octets under lenient reading. -/
def lenientChars : List UInt8 → List Char
  | [] => []
  | b :: bs =>
    match lead? b.toNat with
    | none => replacement :: lenientChars bs
    | some l =>
      (continueChar l.follow l.bits l.lo l.hi bs).1 ::
        lenientChars (continueChar l.follow l.bits l.lo l.hi bs).2
termination_by bs => bs.length
decreasing_by
  · simp
  · exact Nat.lt_succ_of_le (length_continueChar ..)

/-- The text of octets, with replacement characters where they have no meaning. -/
def ofOctetsLenient (b : ByteArray) : String :=
  match ofOctets? b with
  | some s => s
  | none => String.ofList (lenientChars b.data.toList)

end ClusterSurvey.Text
