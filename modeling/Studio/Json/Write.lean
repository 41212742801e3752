import Studio.Json.FloatText
import Studio.Json.Value

/-! The written form of a JSON value, compact or indented by two spaces a level.
In a string, the quote, the backslash and the characters below U+0020 are
escaped and all others stand for themselves. Empty arrays and objects are
written without a line break in either layout. -/

namespace Studio.Json

/-- One item to a line, or no space at all. -/
inductive Layout
  | compact
  | indented
  deriving Repr, DecidableEq

namespace Layout

/-- What stands between two tokens of which the second opens a line. -/
def line : Layout → Nat → List Char
  | .compact, _ => []
  | .indented, depth => '\n' :: List.replicate (2 * depth) ' '

/-- What stands between the key of a member and its value. -/
def colon : Layout → List Char
  | .compact => [':']
  | .indented => [':', ' ']

end Layout

def hexDigit (n : Nat) : Char := Nat.digitChar n

def escapeChar (c : Char) : List Char :=
  match c with
  | '"' => ['\\', '"']
  | '\\' => ['\\', '\\']
  | '\x08' => ['\\', 'b']
  | '\x0c' => ['\\', 'f']
  | '\n' => ['\\', 'n']
  | '\r' => ['\\', 'r']
  | '\t' => ['\\', 't']
  | c =>
    if c.toNat < 0x20 then
      ['\\', 'u', '0', '0', hexDigit (c.toNat / 16), hexDigit (c.toNat % 16)]
    else [c]

def writeText (s : String) : List Char :=
  '"' :: s.toList.flatMap escapeChar ++ ['"']

def writeInt : Int → List Char
  | .ofNat n => Nat.toDigits 10 n
  | .negSucc n => '-' :: Nat.toDigits 10 (n + 1)

mutual

/-- The text of a value whose line is indented by `depth` levels. -/
def Value.write (l : Layout) (depth : Nat) : Value → List Char
  | .null => ['n', 'u', 'l', 'l']
  | .bool true => ['t', 'r', 'u', 'e']
  | .bool false => ['f', 'a', 'l', 's', 'e']
  | .int n => writeInt n
  | .float x => floatText x
  | .str s => writeText s
  | .arr [] => ['[', ']']
  | .arr (v :: vs) =>
    '[' :: l.line (depth + 1) ++ v.write l (depth + 1) ++ writeItems l (depth + 1) vs
      ++ l.line depth ++ [']']
  | .obj [] => ['{', '}']
  | .obj ((k, v) :: ms) =>
    '{' :: l.line (depth + 1) ++ writeText k ++ l.colon ++ v.write l (depth + 1)
      ++ writeMembers l (depth + 1) ms ++ l.line depth ++ ['}']

/-- The items after the first. -/
def writeItems (l : Layout) (depth : Nat) : List Value → List Char
  | [] => []
  | v :: vs => ',' :: l.line depth ++ v.write l depth ++ writeItems l depth vs

/-- The members after the first. -/
def writeMembers (l : Layout) (depth : Nat) : List (String × Value) → List Char
  | [] => []
  | (k, v) :: ms =>
    ',' :: l.line depth ++ writeText k ++ l.colon ++ v.write l depth ++ writeMembers l depth ms

end

def Value.render (l : Layout) (v : Value) : String :=
  String.ofList (v.write l 0)

end Studio.Json
