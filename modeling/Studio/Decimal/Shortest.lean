/-! The fewest decimal digits that stand for one binary number. A number
`m * 2 ^ q` owns the interval of reals that round to it, from half way to its
lower neighbour to half way to its upper one; the ends belong to it if and only
if `m` is even. On each decimal grid, from coarse to fine, the two grid points
around the number are tested against that interval in whole numbers; the first
grid with a point inside gives the digits, and of two such points the nearer one. -/

namespace Studio.Decimal

/-- A positive binary number with the reals that round to it, all over one
denominator. -/
structure Interval where
  low : Nat
  mid : Nat
  high : Nat
  den : Nat
  closed : Bool

/-- The interval of `m * 2 ^ q`. The gap below is half as wide as the one above
when `m` is the least mantissa of its binade. -/
def Interval.of (m : Nat) (q : Int) (narrow : Bool) : Interval :=
  let up := Nat.pow 2 q.toNat
  { low := (if narrow then 4 * m - 1 else 4 * m - 2) * up
    mid := 4 * m * up
    high := (4 * m + 2) * up
    den := 4 * Nat.pow 2 (-q).toNat
    closed := m % 2 == 0 }

/-- Whether `n * num / scale` lies in the interval. -/
def Interval.holds (i : Interval) (n num scale : Nat) : Bool :=
  let x := n * num * i.den
  if i.closed then i.low * scale ≤ x && x ≤ i.high * scale
  else i.low * scale < x && x < i.high * scale

/-- The point of the grid of step `10 ^ k` that stands for the interval, as a
multiple of the step. -/
def Interval.onGrid? (i : Interval) (k : Int) : Option Nat :=
  let num := Nat.pow 10 k.toNat
  let scale := Nat.pow 10 (-k).toNat
  let below := i.mid * scale / (num * i.den)
  let above := below + 1
  match i.holds below num scale, i.holds above num scale with
  | true, false => some below
  | false, true => some above
  | false, false => none
  | true, true =>
    let toBelow := i.mid * scale - below * num * i.den
    let toAbove := above * num * i.den - i.mid * scale
    if toBelow < toAbove || (toBelow == toAbove && below % 2 == 0) then some below
    else some above

/-- Tries the grids of step `10 ^ k`, `10 ^ (k - 1)`, and so on. -/
def Interval.search (i : Interval) : Nat → Int → Nat × Int
  | 0, k => (i.mid / i.den, k)
  | fuel + 1, k =>
    match i.onGrid? k with
    | some n => (n, k)
    | none => i.search fuel (k - 1)

def digitCount (n : Nat) : Nat := (Nat.toDigits 10 n).length

/-- `(n, k)` with `n * 10 ^ k` the shortest decimal that rounds to `m * 2 ^ q`. -/
def shortest (m : Nat) (q : Int) (narrow : Bool) : Nat × Int :=
  let i := Interval.of m q narrow
  -- the number is below `10 ^ (top + 1)`, and no binary number of 53 digits needs 18 decimal ones
  let top : Int := digitCount i.mid - digitCount i.den + 1
  i.search 20 top

end Studio.Decimal
