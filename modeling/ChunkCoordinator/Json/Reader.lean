import ChunkCoordinator.Json
import ChunkCoordinator.Json.Numeral
import ChunkCoordinator.Text.Utf8

/-!
# Reading JSON by shape

A `Reader` reads a value of an expected shape from text and leaves the rest. It meets the parts of
the text in order and stops at the first fault: the text is `malformed`, or it is well formed so
far but has another shape (`mismatch`). What it gives is the value in a fixed form: the fields of a
record in their order, absent ones filled in.

A record may be written as an object, with members in any order and unknown ones passed over, or
as an array of its fields. `Json.document` reads a whole text.
-/

namespace ChunkCoordinator.Json

open Text (Received)

/-- Why a text cannot be read. -/
inductive Flaw where
  | malformed
  | mismatch
  deriving DecidableEq

/-- Reads the beginning of a text. -/
abbrev Reader := StateT Received (Except Flaw)

namespace Reader

/-! ## Characters -/

/-- The text is not JSON. -/
def malformed {α : Type} : Reader α := throw .malformed

/-- The text has another shape. -/
def mismatch {α : Type} : Reader α := throw .mismatch

/-- White space between the parts of a value. -/
def isSpace (c : Option Char) : Bool :=
  c = some ' ' || c = some '\t' || c = some '\n' || c = some '\r'

/-- Passes over white space and looks at the next character. -/
def peek : Reader Char := fun text =>
  match text.dropWhile isSpace with
  | some c :: rest => .ok (c, some c :: rest)
  | _ => .error .malformed

/-- Passes over one character. -/
def skip : Reader Unit := modify fun text => text.drop 1

/-- Passes over one of some characters if it comes next, and tells which. -/
def accept? (cs : List Char) : Reader (Option Char) := fun text =>
  match text with
  | some c :: rest => if c ∈ cs then .ok (some c, rest) else .ok (none, text)
  | _ => .ok (none, text)

/-- Passes over given characters. -/
def literal : List Char → Reader Unit
  | [] => pure ()
  | c :: cs => do
    if (← accept? [c]).isSome then literal cs else malformed

/-- Passes over white space and a given character. -/
def punctuation (c : Char) : Reader Unit := do
  if (← peek) = c then skip else malformed

/-! ## Strings -/

/-- A part of a string: a character, a code unit written by number, or a gap in the text. -/
inductive Piece where
  | char (c : Char)
  | unit (n : Nat)
  | gap
  deriving DecidableEq

/-- The character that a letter behind a backslash stands for. -/
def escaped? (c : Char) : Option Char :=
  match c with
  | '"' | '\\' | '/' => some c
  | 'b' => some '\x08'
  | 'f' => some '\x0C'
  | 'n' => some '\n'
  | 'r' => some '\r'
  | 't' => some '\t'
  | _ => none

/-- The number that four digits stand for. -/
def unit? (a b c d : Option Char) : Option Nat :=
  ([a, b, c, d].mapM id).bind Text.Hex.value?

/-- The parts of a string up to the closing quotation mark, and the text behind it. -/
def pieces? : Received → Option (List Piece × Received)
  | [] => none
  | some '"' :: rest => some ([], rest)
  | some '\\' :: some 'u' :: a :: b :: c :: d :: rest => do
    let n ← unit? a b c d
    let (ps, rest) ← pieces? rest
    some (.unit n :: ps, rest)
  | some '\\' :: some c :: rest => do
    let c ← escaped? c
    let (ps, rest) ← pieces? rest
    some (.char c :: ps, rest)
  | some c :: rest =>
    if c = '\\' ∨ c.toNat < 0x20 then none
    else (pieces? rest).map fun (ps, rest) => (.char c :: ps, rest)
  | none :: rest => (pieces? rest).map fun (ps, rest) => (.gap :: ps, rest)

/-- Puts the parts of a string together. Two code units that form a pair make one character; one
that wants a partner and has none is refused, and so is a gap. -/
def join? : List Piece → Option (List Char)
  | [] => some []
  | .char c :: ps => (join? ps).map (c :: ·)
  | .gap :: _ => none
  | .unit n :: ps =>
    if n < 0xD800 ∨ 0xE000 ≤ n then (join? ps).map (.ofNat n :: ·)
    else
      match ps with
      | .unit m :: ps =>
        if n < 0xDC00 ∧ 0xDC00 ≤ m ∧ m < 0xE000 then
          (join? ps).map (.ofNat (0x10000 + 0x400 * (n - 0xD800) + (m - 0xDC00)) :: ·)
        else none
      | _ => none

/-- The parts of a string that stands next. -/
def pieces : Reader (List Piece) := do
  skip
  fun text =>
    match pieces? text with
    | some (ps, rest) => .ok (ps, rest)
    | none => .error .malformed

/-- A string that stands next. -/
def quotedText : Reader String := do
  match join? (← pieces) with
  | some cs => pure (.ofList cs)
  | none => malformed

/-! ## Numbers -/

/-- The digits at the beginning of a text, and the rest. -/
def spanDigits : Received → List Char × Received
  | [] => ([], [])
  | some c :: rest =>
    if c.isDigit then (spanDigits rest).map (c :: ·) id else ([], some c :: rest)
  | none :: rest => ([], none :: rest)

/-- The digits that come next. -/
def digits : Reader (List Char) := fun text => .ok (spanDigits text)

/-- One digit or more. -/
def someDigits : Reader (List Char) := do
  let cs ← digits
  if cs.isEmpty then malformed else pure cs

/-- What stands for all exponents of that size and more. -/
def greatestExponent : Nat := 0x80000000

/-- An exponent, behind its letter. -/
def exponent : Reader Int := do
  let sign ← accept? ['+', '-']
  let n := (Numeral.below? greatestExponent (← someDigits)).getD greatestExponent
  pure (if sign = some '-' then -n else n)

/-- A number that stands next. -/
def numeral : Reader Numeral := do
  let sign ← accept? ['-']
  let whole ← someDigits
  if whole.head? = some '0' && 1 < whole.length then malformed
  else
    let fraction ← if (← accept? ['.']).isSome then some <$> someDigits else pure none
    let exponent ← if (← accept? ['e', 'E']).isSome then some <$> exponent else pure none
    pure ⟨sign.isSome, whole, fraction, exponent⟩

/-- A number that stands next, unless it is too large for any number format. -/
def soundNumeral : Reader Numeral := do
  let n ← numeral
  if n.isHuge then malformed else pure n

/-! ## Values of a wrong shape -/

/-- Refuses a value whose shape shows in its first character. Its text has to be well formed as
far as it has to be read to see that. -/
def wrongShape {α : Type} : Reader α := do
  match ← peek with
  | 'n' => literal "null".toList; mismatch
  | 't' => literal "true".toList; mismatch
  | 'f' => literal "false".toList; mismatch
  | '"' => discard quotedText; mismatch
  | '[' | '{' => mismatch
  | c => if c = '-' || c.isDigit then discard soundNumeral; mismatch else malformed

/-! ## Values passed over -/

mutual

/-- Passes over any value. The number bounds how many steps are taken. -/
def ignoreValue : Nat → Reader Unit
  | 0 => malformed
  | n + 1 => do
    match ← peek with
    | 'n' => literal "null".toList
    | 't' => literal "true".toList
    | 'f' => literal "false".toList
    | '"' => discard pieces
    | '[' => skip; if (← peek) = ']' then skip else ignoreItems n
    | '{' => skip; if (← peek) = '}' then skip else ignoreMembers n
    | c => if c = '-' || c.isDigit then discard numeral else malformed

/-- Passes over the items of an array and its end. -/
def ignoreItems : Nat → Reader Unit
  | 0 => malformed
  | n + 1 => do
    ignoreValue n
    match ← peek with
    | ',' => skip; ignoreItems n
    | ']' => skip
    | _ => malformed

/-- Passes over the members of an object and its end. -/
def ignoreMembers : Nat → Reader Unit
  | 0 => malformed
  | n + 1 => do
    if (← peek) = '"' then
      discard pieces
      punctuation ':'
      ignoreValue n
      match ← peek with
      | ',' => skip; ignoreMembers n
      | '}' => skip
      | _ => malformed
    else malformed

end

/-- Passes over any value. Two steps for each character are enough. -/
def ignored : Reader Unit := do
  ignoreValue (2 * (← get).length + 2)

/-! ## Values -/

/-- A number below a bound, written with digits only. -/
def natural (bound : Nat) : Reader Json := do
  let c ← peek
  if c = '-' || c.isDigit then
    let n ← numeral
    match n.plain? bound with
    | some value => pure (.number value)
    | none => if n.isHuge then malformed else mismatch
  else wrongShape

/-- Any string. -/
def text : Reader String := do
  if (← peek) = '"' then quotedText else wrongShape

/-- A truth value. -/
def truth : Reader Json := do
  match ← peek with
  | 't' => literal "true".toList; pure (.bool true)
  | 'f' => literal "false".toList; pure (.bool false)
  | _ => wrongShape

/-- Nothing. -/
def nothing : Reader Unit := do
  if (← peek) = 'n' then literal "null".toList else wrongShape

/-- One of some words. It may also be the name of a member, the only one, that holds nothing. -/
def word (words : List String) : Reader Json := do
  let known (s : String) : Reader Json := if s ∈ words then pure (.string s) else mismatch
  match ← peek with
  | '"' => known (← quotedText)
  | '{' =>
    skip
    let j ← known (← text)
    punctuation ':'
    nothing
    punctuation '}'
    pure j
  | _ => malformed

/-- A value or nothing. -/
def optional (r : Reader Json) : Reader Json := do
  if (← peek) = 'n' then literal "null".toList; pure .null else r

/-- The items of an array and its end. The number bounds how many are read. -/
def items (r : Reader Json) : Nat → Reader (List Json)
  | 0 => malformed
  | n + 1 => do
    let j ← r
    match ← peek with
    | ',' => skip; return j :: (← items r n)
    | ']' => skip; return [j]
    | _ => malformed

/-- A list of values. -/
def list (r : Reader Json) : Reader Json := do
  if (← peek) = '[' then
    skip
    if (← peek) = ']' then skip; pure (.array [])
    else .array <$> items r (← get).length
  else wrongShape

/-! ## Records -/

/-- What to do if a field is absent. -/
inductive Presence where
  /-- It has to be there. -/
  | required
  /-- An object without it holds nothing there; an array has to have it. -/
  | nullable
  /-- A given value stands in for it. -/
  | defaulted (value : Json)

/-- What stands in for a field that an object lacks. -/
def Presence.missing? : Presence → Option Json
  | required => none
  | nullable => some .null
  | defaulted value => some value

/-- What stands in for a field before which an array ends. -/
def Presence.omitted? : Presence → Option Json
  | defaulted value => some value
  | _ => none

/-- A field of a record. -/
structure Field where
  name : String
  presence : Presence
  reader : Reader Json

/-- The members of an object up to its end. The number bounds how many are read. -/
def members (fields : List Field) : Nat → List (String × Json) → Reader (List (String × Json))
  | 0, _ => malformed
  | n + 1, found => do
    if (← peek) = '"' then
      let name ← quotedText
      let found ←
        match fields.find? fun f => f.name = name with
        | none =>
          punctuation ':'
          ignored
          pure found
        | some field =>
          if (found.lookup name).isSome then mismatch
          else
            punctuation ':'
            pure (found ++ [(name, ← field.reader)])
      match ← peek with
      | ',' => skip; members fields n found
      | '}' => pure found
      | _ => malformed
    else malformed

/-- The fields of a record in order, from those found. -/
def complete (found : List (String × Json)) : List Field → Reader (List (String × Json))
  | [] => pure []
  | f :: fs => do
    match (found.lookup f.name).or f.presence.missing? with
    | some j => return (f.name, j) :: (← complete found fs)
    | none => mismatch

/-- The fields of a record from the items of an array; `first` tells whether none has been read. -/
def elements (first : Bool) : List Field → Reader (List (String × Json))
  | [] => pure []
  | f :: fs => do
    if (← peek) = ']' then
      match f.presence.omitted? with
      | some j => return (f.name, j) :: (← elements first fs)
      | none => mismatch
    else
      if !first then punctuation ','
      let j ← f.reader
      return (f.name, j) :: (← elements false fs)

/-- A record, as an object or as an array of its fields. -/
def record (fields : List Field) : Reader Json := do
  match ← peek with
  | '{' =>
    skip
    let found ← if (← peek) = '}' then pure [] else members fields (← get).length []
    let values ← complete found fields
    punctuation '}'
    pure (.object values)
  | '[' =>
    skip
    let values ← elements true fields
    punctuation ']'
    pure (.object values)
  | _ => wrongShape

end Reader

/-- Reads a whole text. Behind the value only white space may follow. -/
def document (r : Reader Json) (text : Received) : Except Flaw Json :=
  match r.run text with
  | .error flaw => .error flaw
  | .ok (j, rest) => if rest.all Reader.isSpace then .ok j else .error .malformed

end ChunkCoordinator.Json
