import Studio.Json.Scan

/-! Numbers as they are written, and their values. A numeral without a fraction
and an exponent whose digits fit 64 bits is a whole number. Any other one is a
floating point number, and it is computed from the leading digits that fit 64
bits: these as a floating point number, scaled once by a power of ten. Digits of
the whole part that no longer fit still count as places, those of the fraction
are dropped. -/

namespace Studio.Json

structure Numeral where
  negative : Bool
  whole : List Nat
  /-- The digits after the point, if there is a point. -/
  fraction : Option (List Nat)
  /-- The sign and the digits after the exponent mark, if there is one. -/
  exponent : Option (Bool × List Nat)
  deriving Repr, DecidableEq

inductive Number
  | int (n : Int)
  | float (x : Float)

/-! ### Digits -/

def digitValue (c : Char) : Nat := c.toNat - '0'.toNat

def takeDigits (cs : List Char) : List Nat × List Char :=
  ((cs.takeWhile isDigit).map digitValue, cs.dropWhile isDigit)

/-- Digits of which there must be one. At the end of the text the flaw is
`atEnd`. -/
def someDigits (atEnd : Flaw) (cs : List Char) : Scan (List Nat) :=
  match takeDigits cs with
  | ([], []) => .error (.atEnd atEnd)
  | ([], other) => .error (.on .badNumber other)
  | (ds, rest) => .ok (ds, rest)

/-- The digits of the whole part: a leading zero stands alone. -/
def wholeDigits (atEnd : Flaw) (cs : List Char) : Scan (List Nat) :=
  match cs with
  | '0' :: c :: rest =>
    if isDigit c then .error (.on .badNumber (c :: rest)) else .ok ([0], c :: rest)
  | cs => someDigits atEnd cs

def fractionDigits (atEnd : Flaw) (cs : List Char) : Scan (Option (List Nat)) :=
  match cs with
  | '.' :: cs => (someDigits atEnd cs).map fun (ds, rest) => (some ds, rest)
  | cs => .ok (none, cs)

def exponentSign (cs : List Char) : Bool × List Char :=
  match cs with
  | '+' :: cs => (false, cs)
  | '-' :: cs => (true, cs)
  | cs => (false, cs)

def exponentDigits (atEnd : Flaw) (cs : List Char) : Scan (Option (Bool × List Nat)) :=
  let marked (cs : List Char) : Scan (Option (Bool × List Nat)) :=
    let (negative, cs) := exponentSign cs
    (someDigits atEnd cs).map fun (ds, rest) => (some (negative, ds), rest)
  match cs with
  | 'e' :: cs => marked cs
  | 'E' :: cs => marked cs
  | cs => .ok (none, cs)

/-- A numeral at the front of the text; its first character is a digit or a minus
sign. -/
def numeral (atEnd : Flaw) (cs : List Char) : Except Failure (Numeral × List Char) := do
  let (negative, cs) := match cs with
    | '-' :: cs => (true, cs)
    | cs => (false, cs)
  let (whole, cs) ← wholeDigits atEnd cs
  let (fraction, cs) ← fractionDigits atEnd cs
  let (exponent, cs) ← exponentDigits atEnd cs
  return (⟨negative, whole, fraction, exponent⟩, cs)

/-! ### Values -/

/-- Appends digits to a number as long as it stays below `bound`; gives the
number and the digits left over. -/
def absorb (bound : Nat) : Nat → List Nat → Nat × List Nat
  | n, [] => (n, [])
  | n, d :: ds => if n * 10 + d < bound then absorb bound (n * 10 + d) ds else (n, d :: ds)

def powerOfTen (k : Nat) : Float := .ofScientific 1 false k

/-- `x / 10 ^ k`. Above 308 places, `1e308` is divided out first, so that the
divisor stays finite. -/
def scaleDown : Nat → Float → Nat → Float
  | 0, x, k => x / powerOfTen k
  | times + 1, x, k =>
    if k ≤ 308 then x / powerOfTen k
    else if x == 0 then x
    else scaleDown times (x / powerOfTen 308) (k - 308)

/-- `x * 10 ^ k` if that is finite. -/
def scale? (x : Float) (k : Int) : Option Float :=
  match k with
  | .ofNat k =>
    if 308 < k then if x == 0 then some x else none
    else
      let y := x * powerOfTen k
      if y.isInf then none else some y
  | .negSucc k => some (scaleDown ((k + 1) / 308) x (k + 1))

inductive Numeral.Size
  | number (value : Number)
  /-- Too large for a floating point number, which shows `unread` characters before
  the end of the numeral. -/
  | tooLarge (unread : Nat)

def Numeral.size (n : Numeral) : Numeral.Size :=
  let sign (x : Float) : Number := .float (if n.negative then -x else x)
  let (significand, dropped) := absorb (Nat.pow 2 64) 0 n.whole
  if n.fraction.isNone && n.exponent.isNone && dropped.isEmpty then
    if !n.negative then .number (.int significand)
    else if significand = 0 ∨ Nat.pow 2 63 < significand then .number (sign (.ofNat significand))
    else .number (.int (-significand))
  else
    let fraction := n.fraction.getD []
    let (significand, ignored) := absorb (Nat.pow 2 64) significand fraction
    let places : Int := dropped.length - (fraction.length - ignored.length : Nat)
    let (negative, digits) := n.exponent.getD (false, [])
    let (exponent, unread) := absorb (Nat.pow 2 31) 0 digits
    if !unread.isEmpty then
      if significand ≠ 0 ∧ !negative then .tooLarge (unread.length - 1) else .number (sign 0)
    else
      let exponent : Int := if negative then -exponent else exponent
      match scale? (.ofNat significand) (places + exponent) with
      | some x => .number (sign x)
      | none => .tooLarge 0

/-- A number at the front of the text; its first character is a digit or a minus
sign. -/
def number (cs : List Char) : Scan Number :=
  match numeral .endOfValue cs with
  | .error e => .error e
  | .ok (n, rest) =>
    match n.size with
    | .number x => .ok (x, rest)
    | .tooLarge unread =>
      let read := cs.length - rest.length - unread
      .error (.before .outOfRange (cs.drop read))

end Studio.Json
