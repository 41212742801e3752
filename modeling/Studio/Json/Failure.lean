/-! What can be wrong with a JSON text, and where. A reader that fails names the
flaw and what was left of the text at that point; the position is worked out
from these once, against the whole text: the line and the byte of the line at
which reading ended. -/

namespace Studio.Json

inductive Flaw
  | endOfList
  | endOfObject
  | endOfString
  | endOfValue
  | colonExpected
  | itemEndExpected
  | memberEndExpected
  | wordExpected
  | valueExpected
  | badEscape
  | badNumber
  | outOfRange
  | controlCharacter
  | keyNotText
  | loneSurrogate
  | brokenPair
  | trailingComma
  | trailingText
  | tooDeep
  | wrongKind (found wanted : String)
  | wrongValue (found wanted : String)
  | wrongLength (length : Nat) (title : String) (fields : Nat)
  | missingField (name : String)
  | repeatedField (name : String)
  | unknownVariant (name : String) (known : List String)
  deriving Repr, DecidableEq

def quoteName (name : String) : String := s!"`{name}`"

def Flaw.message : Flaw → String
  | .endOfList => "EOF while parsing a list"
  | .endOfObject => "EOF while parsing an object"
  | .endOfString => "EOF while parsing a string"
  | .endOfValue => "EOF while parsing a value"
  | .colonExpected => "expected `:`"
  | .itemEndExpected => "expected `,` or `]`"
  | .memberEndExpected => "expected `,` or `\x7d`"
  | .wordExpected => "expected ident"
  | .valueExpected => "expected value"
  | .badEscape => "invalid escape"
  | .badNumber => "invalid number"
  | .outOfRange => "number out of range"
  | .controlCharacter => "control character (\\u0000-\\u001F) found while parsing a string"
  | .keyNotText => "key must be a string"
  | .loneSurrogate => "lone leading surrogate in hex escape"
  | .brokenPair => "unexpected end of hex escape"
  | .trailingComma => "trailing comma"
  | .trailingText => "trailing characters"
  | .tooDeep => "recursion limit exceeded"
  | .wrongKind found wanted => s!"invalid type: {found}, expected {wanted}"
  | .wrongValue found wanted => s!"invalid value: {found}, expected {wanted}"
  | .wrongLength n title m =>
    let elements := if m = 1 then "element" else "elements"
    s!"invalid length {n}, expected struct {title} with {m} {elements}"
  | .missingField name => s!"missing field `{name}`"
  | .repeatedField name => s!"duplicate field `{name}`"
  | .unknownVariant name known =>
    let names := ", ".intercalate (known.map quoteName)
    s!"unknown variant `{name}`, expected one of {names}"

/-- A flaw, what was left of the text there, and how many bytes of that still
count as read. -/
structure Failure where
  flaw : Flaw
  left : List Char
  extra : Nat
  deriving Repr, DecidableEq

namespace Failure

/-- The first byte of what is left is wrong. -/
def on (flaw : Flaw) (left : List Char) : Failure := ⟨flaw, left, 1⟩

/-- What was read just before is wrong. -/
def before (flaw : Flaw) (left : List Char) : Failure := ⟨flaw, left, 0⟩

/-- The text is over too early. -/
def atEnd (flaw : Flaw) : Failure := ⟨flaw, [], 0⟩

end Failure

def byteCount (cs : List Char) : Nat :=
  cs.foldr (fun c n => c.utf8Size + n) 0

/-- The line that byte `n` ends, counted from 1, and how many of its bytes are
among the first `n`. The line breaks before it start at `line` and `start`. -/
def locate (n : Nat) : List Char → Nat → Nat → Nat → Nat × Nat
  | [], _, line, start => (line, n - start)
  | c :: cs, offset, line, start =>
    if n ≤ offset then (line, n - start)
    else if c = '\n' then locate n cs (offset + 1) (line + 1) (offset + 1)
    else locate n cs (offset + c.utf8Size) line start

/-- A flaw and its place in the text. -/
structure ReadError where
  flaw : Flaw
  line : Nat
  column : Nat
  deriving Repr, DecidableEq

def ReadError.message (e : ReadError) : String :=
  let what := e.flaw.message
  let line := e.line
  let column := e.column
  s!"{what} at line {line} column {column}"

/-- Places a failure in the text that was read. -/
def Failure.place (whole : List Char) (f : Failure) : ReadError :=
  let total := byteCount whole
  let read := min total (total - byteCount f.left + f.extra)
  let (line, column) := locate read whole 0 1 0
  ⟨f.flaw, line, column⟩

end Studio.Json
