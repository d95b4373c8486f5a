import ClusterSurvey.Json.Number
import ClusterSurvey.Text.Digits
import ClusterSurvey.Text.Utf8

/-!
# What a text holds up to its first fault

A reader that looks for certain fields meets the faults of a text in the order in which they stand
there: a field of the wrong type in front of a missing bracket is reported first, and a part that
nobody asks for is looked at less closely than one that is read.  A draft keeps all of this: it is a
JSON value in which the place where the text breaks off is marked, together with what each manner of
looking at that place reports.
-/

namespace ClusterSurvey.Json

/-- What is wrong with a text: it breaks the grammar, or it ends too early. -/
inductive Fault where
  | malformed
  | ended
  deriving DecidableEq, Repr

/-- A place where a text stops being JSON. -/
structure Break where
  /-- Reported when the value there is read. -/
  onRead : Fault
  /-- Reported when the value there is passed over. -/
  onSkip : Fault
  /-- Reported when the name of a variant is looked for. -/
  onVariant : Fault
  deriving DecidableEq, Repr

/-- A break that looks the same to everybody. -/
def Break.plain (f : Fault) : Break := ⟨f, f, f⟩

/-- What stands in place of a member's name. -/
inductive KeyText where
  | name (s : String)
  /-- A complete string that denotes no text. -/
  | unreadable
  | broken (b : Break)
  /-- Something that is no string. -/
  | missing

/-- A value as far as the text holds one.  `unreadable` is a number out of range or a string with
half of a surrogate pair: it can be passed over but not read. -/
inductive Draft where
  | null
  | bool (b : Bool)
  | number (n : Number)
  | string (s : String)
  | unreadable
  | array (items : List Draft) (ending : Option Break)
  | object (members : List (KeyText × Draft)) (ending : Option Break)
  | broken (b : Break)

/-- Blanks between the parts of a text. -/
def isGap (c : Char) : Bool := c = ' ' || c = '\n' || c = '\t' || c = '\r'

/-- The text behind leading blanks. -/
def skipGap (cs : List Char) : List Char := cs.dropWhile isGap

/-- Reads the given characters. -/
def scanWord : List Char → List Char → Except Fault (List Char)
  | [], cs => .ok cs
  | _ :: _, [] => .error .ended
  | w :: ws, c :: cs => if c = w then scanWord ws cs else .error .malformed

/-- Reads four digits of base sixteen.  The text ends too early if fewer than four octets are left. -/
def scanHex (cs : List Char) : Except Fault (Nat × List Char) :=
  match cs with
  | a :: b :: c :: d :: rest =>
    match Text.digitIn? 16 a, Text.digitIn? 16 b, Text.digitIn? 16 c, Text.digitIn? 16 d with
    | some w, some x, some y, some z => .ok (((w * 16 + x) * 16 + y) * 16 + z, rest)
    | _, _, _, _ => .error .malformed
  | _ => .error (if Text.octetCount cs < 4 then .ended else .malformed)

/-- Four digits leave a shorter text. -/
theorem length_of_scanHex {cs rest : List Char} {n : Nat} (h : scanHex cs = .ok (n, rest)) :
    rest.length < cs.length := by
  unfold scanHex at h
  split at h
  · split at h
    · obtain ⟨_, rfl⟩ := Prod.mk.inj (Except.ok.inj h)
      simp only [List.length_cons]
      omega
    · exact absurd h (by simp)
  · exact absurd h (by simp)

/-- Whether a sixteen-bit unit opens a surrogate pair. -/
def isHighHalf (n : Nat) : Bool := 0xd800 ≤ n && n ≤ 0xdbff

/-- Whether a sixteen-bit unit closes a surrogate pair. -/
def isLowHalf (n : Nat) : Bool := 0xdc00 ≤ n && n ≤ 0xdfff

/-- The character that two halves of a surrogate pair make up. -/
def joinHalves (hi lo : Nat) : Char := Char.ofNat (0x10000 + (hi - 0xd800) * 0x400 + (lo - 0xdc00))

/-- How a string goes on behind its opening quote. -/
inductive StringScan where
  /-- A text, or none if some escape denotes no character, and what follows the string. -/
  | closed (text : Option (List Char)) (rest : List Char)
  | broken (b : Break)

/-- Puts a character, or the lack of one, in front of a scanned string. -/
def StringScan.cons (c : Option Char) : StringScan → StringScan
  | .closed text rest => .closed (do let c ← c; let cs ← text; pure (c :: cs)) rest
  | .broken b => .broken (if c.isNone then ⟨.malformed, b.onSkip, .malformed⟩ else b)

/-- The character of a letter behind a backslash. -/
def shortEscape? (c : Char) : Option Char :=
  if c = '"' then some '"'
  else if c = '\\' then some '\\'
  else if c = '/' then some '/'
  else if c = 'b' then some '\u0008'
  else if c = 'f' then some '\u000c'
  else if c = 'n' then some '\n'
  else if c = 'r' then some '\r'
  else if c = 't' then some '\t'
  else none

/-- What an escape with the sixteen-bit unit `n` denotes, given the text behind it: a character that
may use up a second escape, or nothing. -/
def scanUnit (n : Nat) (rest : List Char) : Except Fault (Option Char × List Char) :=
  if isLowHalf n then .ok (none, rest)
  else if isHighHalf n then
    match rest with
    | [] | ['\\'] => .error .ended
    | '\\' :: 'u' :: more => do
      let (m, rest') ← scanHex more
      if isLowHalf m then .ok (some (joinHalves n m), rest') else .ok (none, rest)
    | _ => .ok (none, rest)
  else .ok (some (Char.ofNat n), rest)

/-- An escape's unit never lengthens the text. -/
theorem length_of_scanUnit {n : Nat} {cs rest : List Char} {c : Option Char}
    (h : scanUnit n cs = .ok (c, rest)) : rest.length ≤ cs.length := by
  unfold scanUnit at h
  split at h
  · simp only [Except.ok.injEq, Prod.mk.injEq] at h
    exact Nat.le_of_eq (congrArg List.length h.2.symm)
  · split at h
    · split at h
      · exact absurd h (by simp)
      · exact absurd h (by simp)
      · rename_i more
        cases hm : scanHex more with
        | error e => simp [hm, bind, Except.bind] at h
        | ok p =>
          obtain ⟨m, r⟩ := p
          have hlt := length_of_scanHex hm
          simp only [hm, bind, Except.bind] at h
          split at h
          · simp only [Except.ok.injEq, Prod.mk.injEq] at h
            rw [← h.2]; simp only [List.length_cons]; omega
          · simp only [Except.ok.injEq, Prod.mk.injEq] at h
            exact Nat.le_of_eq (congrArg List.length h.2.symm)
      · simp only [Except.ok.injEq, Prod.mk.injEq] at h
        exact Nat.le_of_eq (congrArg List.length h.2.symm)
    · simp only [Except.ok.injEq, Prod.mk.injEq] at h
      exact Nat.le_of_eq (congrArg List.length h.2.symm)

/-- Reads a string behind its opening quote. -/
def scanString (cs : List Char) : StringScan :=
  match cs with
  | [] => .broken (.plain .ended)
  | c :: rest =>
    if c = '"' then .closed (some []) rest
    else if c = '\\' then
      match rest with
      | [] => .broken (.plain .ended)
      | e :: rest' =>
        if e = 'u' then
          match _hx : scanHex rest' with
          | .error f => .broken (.plain f)
          | .ok (n, after) =>
            match _hu : scanUnit n after with
            | .error f => .broken (.plain f)
            | .ok (ch, more) => (scanString more).cons ch
        else
          match shortEscape? e with
          | some ch => (scanString rest').cons (some ch)
          | none => .broken (.plain .malformed)
    else if c.toNat < 0x20 then .broken (.plain .malformed)
    else (scanString rest).cons (some c)
termination_by cs.length
decreasing_by
  · have h1 := length_of_scanHex _hx
    have h2 := length_of_scanUnit _hu
    simp only [List.length_cons]
    omega
  · simp only [List.length_cons]; omega
  · simp

/-- The leading digits of a text and what follows them. -/
def spanDigits (cs : List Char) : List Char × List Char :=
  (cs.takeWhile Char.isDigit, cs.dropWhile Char.isDigit)

/-- A break inside a number: who passes over it does not tell an early end from a wrong sign. -/
def Break.inNumber (rest : List Char) : Break :=
  ⟨if rest = [] then .ended else .malformed, .malformed, .malformed⟩

/-- Reads the exponent of a number, if it has one. -/
def scanExponent (cs : List Char) : Except Break (Option (Bool × List Char) × List Char) :=
  match cs with
  | [] => .ok (none, [])
  | c :: rest =>
    if c = 'e' ∨ c = 'E' then
      let (down, body) := match rest with
        | '+' :: r => (false, r)
        | '-' :: r => (true, r)
        | r => (false, r)
      let (ds, after) := spanDigits body
      if ds = [] then .error (.inNumber body) else .ok (some (down, ds), after)
    else .ok (none, cs)

/-- Reads the digits behind the point of a number, if it has one. -/
def scanFraction (cs : List Char) : Except Break (List Char × List Char) :=
  match cs with
  | '.' :: rest =>
    let (ds, after) := spanDigits rest
    if ds = [] then .error (.inNumber rest) else .ok (ds, after)
  | cs => .ok ([], cs)

/-- Reads a number behind its sign.  No other digit follows a leading zero. -/
def scanNumeral (negative : Bool) (cs : List Char) : Except Break (Numeral × List Char) := do
  let (whole, after) := spanDigits cs
  if whole = [] ∨ (whole.head? = some '0' ∧ whole ≠ ['0']) then
    throw (.plain .malformed)
  let (fraction, after) ← scanFraction after
  let (exponent, after) ← scanExponent after
  return (⟨negative, whole, fraction, exponent⟩, after)

/-- A value and the text behind it; no text if it broke off inside the value. -/
structure Scanned where
  /-- The value. -/
  draft : Draft
  /-- The text behind it. -/
  rest : Option (List Char)

/-- A value at which the text breaks off. -/
def Scanned.stop (b : Break) : Scanned := ⟨.broken b, none⟩

/-- A literal with its first letter already read. -/
def scanLiteral (value : Draft) (word cs : List Char) : Scanned :=
  match scanWord word cs with
  | .ok rest => ⟨value, some rest⟩
  | .error f => .stop ⟨f, f, .malformed⟩

/-- A number behind its sign. -/
def scanNumber (negative : Bool) (cs : List Char) : Scanned :=
  match scanNumeral negative cs with
  | .ok (m, rest) =>
    match m.denotes? with
    | some n => ⟨.number n, some rest⟩
    | none => ⟨.unreadable, some rest⟩
  | .error b => .stop { b with onVariant := .malformed }

/-- A string behind its opening quote. -/
def scanText (cs : List Char) : Scanned :=
  match scanString cs with
  | .closed (some s) rest => ⟨.string (String.ofList s), some rest⟩
  | .closed none rest => ⟨.unreadable, some rest⟩
  | .broken b => .stop b

/-- The items of an array as far as they go. -/
structure ScannedItems where
  /-- The items read. -/
  items : List Draft
  /-- The break behind the last of them. -/
  ending : Option Break
  /-- The text behind the closing bracket. -/
  rest : Option (List Char)

/-- The members of an object as far as they go. -/
structure ScannedMembers where
  /-- The members read. -/
  members : List (KeyText × Draft)
  /-- The break behind the last of them. -/
  ending : Option Break
  /-- The text behind the closing brace. -/
  rest : Option (List Char)

mutual

/-- Reads one value; the number bounds how deep the reading goes. -/
def scanValue : Nat → List Char → Scanned
  | 0, _ => .stop (.plain .malformed)
  | fuel + 1, cs =>
    match skipGap cs with
    | [] => .stop (.plain .ended)
    | c :: rest =>
      if c = 'n' then scanLiteral .null ['u', 'l', 'l'] rest
      else if c = 't' then scanLiteral (.bool true) ['r', 'u', 'e'] rest
      else if c = 'f' then scanLiteral (.bool false) ['a', 'l', 's', 'e'] rest
      else if c = '-' then scanNumber true rest
      else if c.isDigit then scanNumber false (c :: rest)
      else if c = '"' then scanText rest
      else if c = '[' then
        let r : ScannedItems := match skipGap rest with
          | ']' :: after => ⟨[], none, some after⟩
          | [] => ⟨[], some (.plain .ended), none⟩
          | more => scanItems fuel more
        ⟨.array r.items r.ending, r.rest⟩
      else if c = '\x7b' then
        let r : ScannedMembers := match skipGap rest with
          | '\x7d' :: after => ⟨[], none, some after⟩
          | [] => ⟨[], some (.plain .ended), none⟩
          | more => scanMembers fuel more
        ⟨.object r.members r.ending, r.rest⟩
      else .stop (.plain .malformed)

/-- Reads the items of an array from the first or a further one on. -/
def scanItems : Nat → List Char → ScannedItems
  | 0, _ => ⟨[.broken (.plain .malformed)], none, none⟩
  | fuel + 1, cs =>
    let v := scanValue fuel cs
    match v.rest with
    | none => ⟨[v.draft], none, none⟩
    | some rest =>
      match skipGap rest with
      | [] => ⟨[v.draft], some (.plain .ended), none⟩
      | c :: after =>
        if c = ']' then ⟨[v.draft], none, some after⟩
        else if c = ',' then
          let r := scanItems fuel after
          ⟨v.draft :: r.items, r.ending, r.rest⟩
        else ⟨[v.draft], some (.plain .malformed), none⟩

/-- Reads the members of an object from the first or a further one on. -/
def scanMembers : Nat → List Char → ScannedMembers
  | 0, _ => ⟨[(.missing, .broken (.plain .malformed))], none, none⟩
  | fuel + 1, cs =>
    match skipGap cs with
    | [] => ⟨[(.broken (.plain .ended), .null)], none, none⟩
    | c :: rest =>
      if c = '"' then
        match scanString rest with
        | .broken b => ⟨[(.broken b, .null)], none, none⟩
        | .closed text after =>
          let key : KeyText := match text with
            | some s => .name (String.ofList s)
            | none => .unreadable
          match skipGap after with
          | [] => ⟨[(key, .broken (.plain .ended))], none, none⟩
          | d :: body =>
            if d = ':' then
              let v := scanValue fuel body
              match v.rest with
              | none => ⟨[(key, v.draft)], none, none⟩
              | some more =>
                match skipGap more with
                | [] => ⟨[(key, v.draft)], some (.plain .ended), none⟩
                | e :: tail =>
                  if e = '\x7d' then ⟨[(key, v.draft)], none, some tail⟩
                  else if e = ',' then
                    let r := scanMembers fuel tail
                    ⟨(key, v.draft) :: r.members, r.ending, r.rest⟩
                  else ⟨[(key, v.draft)], some (.plain .malformed), none⟩
            else ⟨[(key, .broken (.plain .malformed))], none, none⟩
      else ⟨[(.missing, (scanValue fuel (c :: rest)).draft)], none, none⟩

end

mutual

/-- The first fault that shows when a value is passed over. -/
def Draft.skip : Draft → Option Fault
  | .array items ending => (skipItems items).or (ending.map Break.onSkip)
  | .object members ending => (skipMembers members).or (ending.map Break.onSkip)
  | .broken b => some b.onSkip
  | _ => none

/-- The first fault that shows when items are passed over. -/
def skipItems : List Draft → Option Fault
  | [] => none
  | v :: rest => v.skip.or (skipItems rest)

/-- The first fault that shows when members are passed over. -/
def skipMembers : List (KeyText × Draft) → Option Fault
  | [] => none
  | (.broken b, _) :: _ => some b.onSkip
  | (.missing, _) :: _ => some .malformed
  | (_, v) :: rest => v.skip.or (skipMembers rest)

end

/-- A text as one value and what is wrong behind it. -/
structure Document where
  /-- The value. -/
  value : Draft
  /-- Whether something other than blanks follows. -/
  excess : Bool

/-- The document of a text. -/
def Document.ofText (s : String) : Document :=
  let cs := s.toList
  let v := scanValue (2 * cs.length + 2) cs
  ⟨v.draft, match v.rest with
    | some rest => skipGap rest ≠ []
    | none => false⟩

end ClusterSurvey.Json
