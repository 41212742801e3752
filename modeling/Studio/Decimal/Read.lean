/-! Decimal texts of floating point numbers, read with correct rounding: an optional
sign, then digits, among which there may be a point and after which there may be an
exponent, or the name of an infinity or of what is no number. -/

namespace Studio.Decimal

def sign : List Char → Bool × List Char
  | '+' :: cs => (false, cs)
  | '-' :: cs => (true, cs)
  | cs => (false, cs)

/-- The digits at the front of a text, and the rest of it. -/
def leading (cs : List Char) : List Nat × List Char :=
  ((cs.takeWhile Char.isDigit).map fun c => c.toNat - '0'.toNat, cs.dropWhile Char.isDigit)

/-- The digits after a point, if there is one, and the rest. -/
def fraction (cs : List Char) : List Nat × List Char :=
  match cs with
  | '.' :: cs => leading cs
  | cs => ([], cs)

/-- The number of a list of digits. -/
def ofDigits (ds : List Nat) : Nat := ds.foldl (fun n d => n * 10 + d) 0

/-- The exponent that is all of a text. Without a mark it is 0. -/
def exponent? : List Char → Option Int
  | [] => some 0
  | c :: cs =>
    let (negative, cs) := sign cs
    match leading cs with
    | (d :: ds, []) =>
      if c = 'e' ∨ c = 'E' then
        some (if negative then -ofDigits (d :: ds) else ofDigits (d :: ds))
      else none
    | _ => none

/-- The floating point number nearest to `digits * 10 ^ k`. -/
def round (digits : List Nat) (k : Int) : Float :=
  let n := ofDigits digits
  -- the number is below `10 ^ places` and, unless it is 0, not below `10 ^ (places - 1)`
  let places := (Nat.toDigits 10 n).length + k
  if n = 0 ∨ places < -330 then 0
  else if 330 < places then 1.0 / 0.0
  else .ofScientific n (k < 0) k.natAbs

def unsigned? (cs : List Char) : Option Float :=
  let name := (String.ofList cs).toLower
  if name = "inf" ∨ name = "infinity" then some (1.0 / 0.0)
  else if name = "nan" then some (0.0 / 0.0)
  else
    let (whole, rest) := leading cs
    let (fraction, rest) := fraction rest
    if whole.isEmpty ∧ fraction.isEmpty then none
    else (exponent? rest).map fun e => round (whole ++ fraction) (e - fraction.length)

def float? (text : String) : Option Float :=
  let (negative, cs) := sign text.toList
  (unsigned? cs).map fun x => if negative then -x else x

end Studio.Decimal
