/-! White space in the sense of the Unicode property of that name: twenty-five
characters in ten ranges. A text without any other character is blank, and a
blank text names nothing. -/

namespace Studio.Text

/-- The code points with the property White_Space, as closed ranges. -/
def spaceRanges : List (Nat × Nat) :=
  [(0x09, 0x0D), (0x20, 0x20), (0x85, 0x85), (0xA0, 0xA0), (0x1680, 0x1680), (0x2000, 0x200A),
    (0x2028, 0x2029), (0x202F, 0x202F), (0x205F, 0x205F), (0x3000, 0x3000)]

def isSpace (c : Char) : Bool :=
  spaceRanges.any fun (lo, hi) => lo ≤ c.toNat && c.toNat ≤ hi

def isBlank (s : String) : Bool :=
  s.toList.all isSpace

end Studio.Text
