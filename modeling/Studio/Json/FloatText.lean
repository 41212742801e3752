import Studio.Decimal.Shortest

/-! How a floating point number is written: its shortest digits, positional from
`1e-5` up to but not including `1e16` and always with a fraction there, and
outside that range one digit before the point and a signed exponent. A number
that is not finite has no text of its own and is written as `null`. -/

namespace Studio.Json

/-- Sign, mantissa, binary exponent, and whether the mantissa is the least one of
its binade. -/
structure FloatParts where
  negative : Bool
  mantissa : Nat
  exponent : Int
  narrow : Bool
  deriving Repr, DecidableEq

/-- `none` for infinities and for what is no number. -/
def FloatParts.ofBits? (bits : UInt64) : Option FloatParts :=
  let n := bits.toNat
  let negative := n / Nat.pow 2 63 == 1
  let e : Nat := n / Nat.pow 2 52 % Nat.pow 2 11
  let f : Nat := n % Nat.pow 2 52
  if e = 2047 then none
  else if e = 0 then some ⟨negative, f, -1074, false⟩
  else some ⟨negative, Nat.pow 2 52 + f, (e : Int) - 1075, f == 0 && e != 1⟩

def zeros (n : Nat) : List Char := List.replicate n '0'

/-- The text of `digits * 10 ^ k`, where the first digit has the place value
`10 ^ (digits.length + k - 1)`. -/
def layDigits (digits : List Char) (k : Int) : List Char :=
  let lead : Int := digits.length + k - 1
  if -5 ≤ lead ∧ lead < 16 then
    if 0 ≤ k then digits ++ zeros k.toNat ++ ['.', '0']
    else if 0 ≤ lead then
      digits.take (lead + 1).toNat ++ '.' :: digits.drop (lead + 1).toNat
    else '0' :: '.' :: zeros (-lead - 1).toNat ++ digits
  else
    let mark := if lead < 0 then ['e', '-'] else ['e', '+']
    let exponent := mark ++ Nat.toDigits 10 lead.natAbs
    match digits with
    | d :: r :: rest => d :: '.' :: r :: rest ++ exponent
    | short => short ++ exponent

def FloatParts.text (p : FloatParts) : List Char :=
  let body :=
    if p.mantissa = 0 then ['0', '.', '0']
    else
      let (n, k) := Decimal.shortest p.mantissa p.exponent p.narrow
      layDigits (Nat.toDigits 10 n) k
  if p.negative then '-' :: body else body

def floatText (x : Float) : List Char :=
  match FloatParts.ofBits? x.toBits with
  | some p => p.text
  | none => ['n', 'u', 'l', 'l']

end Studio.Json
