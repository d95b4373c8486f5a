import ClusterSurvey.Text.Ranges

/-!
# Blank characters and trimming

Blank means white space in the Unicode sense, so an ideographic space is blank and a zero-width
space is not.  A text is trimmed by dropping blanks at both of its ends.
-/

namespace ClusterSurvey.Text

/-- The code points of Unicode white space. -/
def blankRanges : List (Nat × Nat) := [
  (0x9, 0xd), (0x20, 0x20), (0x85, 0x85), (0xa0, 0xa0), (0x1680, 0x1680), (0x2000, 0x200a),
  (0x2028, 0x2029), (0x202f, 0x202f), (0x205f, 0x205f), (0x3000, 0x3000)]

/-- Whether a character is white space. -/
def isBlank (c : Char) : Bool := inRanges c.toNat blankRanges

/-- The characters up to the last one that fails `p`. -/
def dropTrailing (p : Char → Bool) (cs : List Char) : List Char :=
  (cs.reverse.dropWhile p).reverse

/-- The characters between the first and the last one that fails `p`, both included. -/
def stripBoth (p : Char → Bool) (cs : List Char) : List Char :=
  dropTrailing p (cs.dropWhile p)

/-- A text without the blanks at its ends. -/
def trim (s : String) : String := String.ofList (stripBoth isBlank s.toList)

/-- Whether nothing but blanks is in a text. -/
def allBlank (s : String) : Bool := s.toList.all isBlank

end ClusterSurvey.Text
