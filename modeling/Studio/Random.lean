/-! A small generator of random numbers, for variety and not for secrets. Its state
is a number of 128 bits that goes through a linear recurrence; a draw permutes the
upper bits of the state into 64 bits. -/

namespace Studio

structure Random where
  state : Nat
  deriving Repr, DecidableEq

namespace Random

def stateBound : Nat := Nat.pow 2 128

def wordBound : Nat := Nat.pow 2 64

def factor : Nat := 47026247687942121848144207491837523525

def increment : Nat := (0x2FE0E169FFBD06E35BC307BD4D2F814F <<< 1 ||| 1) % stateBound

def rotateRight (x r : Nat) : Nat := (x >>> r ||| x <<< (64 - r)) % wordBound

/-- The draw that a state gives. -/
def output (state : Nat) : Nat :=
  rotateRight (((state >>> 29 ^^^ state) >>> 58) % wordBound) (state >>> 122)

def advance (state : Nat) : Nat := (state * factor + increment) % stateBound

/-- One number of 64 bits. -/
def draw (r : Random) : Nat × Random := (output r.state, ⟨advance r.state⟩)

def ofSeed (seed : Nat) : Random := ⟨advance ((advance 0 + seed) % stateBound)⟩

/-- Draws until the low half of the product of the draw and `span` is at least
`threshold`; gives the product. The generator has no more than `2 ^ 128` states,
so further draws than that would only repeat. -/
def redraw (span threshold : Nat) : Nat → Nat × Random → Nat × Random
  | 0, drawn => drawn
  | fuel + 1, (product, r) =>
    if product % wordBound < threshold then
      let (x, r) := r.draw
      redraw span threshold fuel (x * span, r)
    else (product, r)

/-- A number from `lo` up to but not including `hi`, all of them equally likely. The
high half of the product of a draw and the span is one; low halves below the
threshold would favour some numbers, and are drawn again. -/
def range (lo hi : Nat) (r : Random) : Nat × Random :=
  let span := hi - lo
  let (x, r) := r.draw
  let (product, r) :=
    if (x * span) % wordBound < span then
      redraw span ((wordBound - span) % span) stateBound (x * span, r)
    else (x * span, r)
  (product / wordBound + lo, r)

/-- An item of the list, or nothing if there is none. -/
def choose {α : Type} (items : List α) (r : Random) : Option α × Random :=
  if items.isEmpty then (none, r)
  else
    let (i, r) := r.range 0 items.length
    (items[i]?, r)

end Random

end Studio
