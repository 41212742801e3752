import Studio.Json.Failure

/-! The smallest steps of reading: space, words and strings. A step takes what is
left of the text and gives what it read with what is then left. -/

namespace Studio.Json

abbrev Scan (α : Type) := Except Failure (α × List Char)

def isSpace (c : Char) : Bool := c == ' ' || c == '\n' || c == '\t' || c == '\r'

def skipSpace (cs : List Char) : List Char := cs.dropWhile isSpace

def isDigit (c : Char) : Bool := '0' ≤ c && c ≤ '9'

/-- Takes the letters of a word off the front. -/
def word : List Char → List Char → Except Failure (List Char)
  | [], cs => .ok cs
  | _ :: _, [] => .error (.atEnd .endOfValue)
  | w :: ws, c :: cs => if w = c then word ws cs else .error (.on .wordExpected (c :: cs))

/-! ### Strings -/

def hexValue? (c : Char) : Option Nat :=
  if '0' ≤ c ∧ c ≤ '9' then some (c.toNat - '0'.toNat)
  else if 'a' ≤ c ∧ c ≤ 'f' then some (c.toNat - 'a'.toNat + 10)
  else if 'A' ≤ c ∧ c ≤ 'F' then some (c.toNat - 'A'.toNat + 10)
  else none

/-- The number written in four hexadecimal digits. Fewer than four bytes are an
unfinished string, whatever they are. -/
def fourHex (cs : List Char) : Except Failure Nat :=
  let wrong := if byteCount (cs.take 4) < 4 then .atEnd .endOfString else ⟨.badEscape, cs, 4⟩
  match cs with
  | a :: b :: c :: d :: _ =>
    match hexValue? a, hexValue? b, hexValue? c, hexValue? d with
    | some w, some x, some y, some z => .ok (((w * 16 + x) * 16 + y) * 16 + z)
    | _, _, _, _ => .error wrong
  | _ => .error wrong

def isHighSurrogate (n : Nat) : Bool := 0xD800 ≤ n && n ≤ 0xDBFF

def isLowSurrogate (n : Nat) : Bool := 0xDC00 ≤ n && n ≤ 0xDFFF

/-- The low half of a surrogate pair, read after its high half. -/
def lowHalf (cs : List Char) : Except Failure Nat :=
  match cs with
  | [] => .error (.atEnd .endOfString)
  | ['\\'] => .error (.atEnd .endOfString)
  | '\\' :: 'u' :: digits =>
    match fourHex digits with
    | .error e => .error e
    | .ok n =>
      if isLowSurrogate n then .ok n else .error (.before .loneSurrogate (digits.drop 4))
  | '\\' :: other => .error (.on .brokenPair other)
  | other => .error (.on .brokenPair other)

/-- The character that an escape stands for, and the length of the escape after
its backslash. -/
def escape (cs : List Char) : Except Failure (Char × Nat) :=
  match cs with
  | [] => .error (.atEnd .endOfString)
  | '"' :: _ => .ok ('"', 1)
  | '\\' :: _ => .ok ('\\', 1)
  | '/' :: _ => .ok ('/', 1)
  | 'b' :: _ => .ok ('\x08', 1)
  | 'f' :: _ => .ok ('\x0c', 1)
  | 'n' :: _ => .ok ('\n', 1)
  | 'r' :: _ => .ok ('\r', 1)
  | 't' :: _ => .ok ('\t', 1)
  | 'u' :: digits =>
    match fourHex digits with
    | .error e => .error e
    | .ok n =>
      if isLowSurrogate n then .error (.before .loneSurrogate (digits.drop 4))
      else if isHighSurrogate n then
        match lowHalf (digits.drop 4) with
        | .error e => .error e
        | .ok m => .ok (.ofNat (0x10000 + (n - 0xD800) * 0x400 + (m - 0xDC00)), 11)
      else .ok (.ofNat n, 5)
  | other => .error (.on .badEscape other)

/-- The characters of a string up to its closing quote, after `pass` characters
that belong to an escape already read. -/
def stringFrom : Nat → List Char → Scan (List Char)
  | _, [] => .error (.atEnd .endOfString)
  | pass + 1, _ :: cs => stringFrom pass cs
  | 0, '"' :: cs => .ok ([], cs)
  | 0, '\\' :: cs =>
    match escape cs with
    | .error e => .error e
    | .ok (c, length) => (stringFrom length cs).map fun (text, rest) => (c :: text, rest)
  | 0, c :: cs =>
    if c.toNat < 0x20 then .error (.on .controlCharacter (c :: cs))
    else (stringFrom 0 cs).map fun (text, rest) => (c :: text, rest)

/-- A string whose opening quote has been read. -/
def string (cs : List Char) : Scan String :=
  (stringFrom 0 cs).map fun (text, rest) => (.ofList text, rest)

/-- The length of an escape in a string whose value is of no interest; halves of
surrogate pairs are then not looked at. -/
def escapeLength (cs : List Char) : Except Failure Nat :=
  match cs with
  | [] => .error (.atEnd .endOfString)
  | 'u' :: digits => (fourHex digits).map fun _ => 5
  | c :: _ => if "\"\\/bfnrt".toList.contains c then .ok 1 else .error (.on .badEscape cs)

/-- What is left after a string whose value is of no interest. -/
def passString : Nat → List Char → Except Failure (List Char)
  | _, [] => .error (.atEnd .endOfString)
  | pass + 1, _ :: cs => passString pass cs
  | 0, '"' :: cs => .ok cs
  | 0, '\\' :: cs =>
    match escapeLength cs with
    | .error e => .error e
    | .ok length => passString length cs
  | 0, c :: cs =>
    if c.toNat < 0x20 then .error (.before .controlCharacter (c :: cs))
    else passString 0 cs

end Studio.Json
