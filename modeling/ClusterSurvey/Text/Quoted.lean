import ClusterSurvey.Text.Visible

/-!
# Quoted texts

A message that names a text from outside puts it between double quotes and spells out what a reader
could not see: a quote and a backslash behind a backslash, the common controls by a letter, and any
other character without a glyph of its own as `\u{…}` with its code point in base sixteen.
-/

namespace ClusterSurvey.Text

/-- The spelling of one character inside quotes. -/
def spell (c : Char) : List Char :=
  if c = '\u0000' then ['\\', '0']
  else if c = '\t' then ['\\', 't']
  else if c = '\n' then ['\\', 'n']
  else if c = '\r' then ['\\', 'r']
  else if c = '"' then ['\\', '"']
  else if c = '\\' then ['\\', '\\']
  else if hidden c then '\\' :: 'u' :: '\x7b' :: Nat.toDigits 16 c.toNat ++ ['\x7d']
  else [c]

/-- A text between quotes, each character spelled. -/
def quoted (s : String) : String :=
  String.ofList ('"' :: s.toList.flatMap spell ++ ['"'])

end ClusterSurvey.Text
