/-! JSON values. Whole numbers and floating point numbers are kept apart, since
`1` and `1.0` are different values here, and an object is the list of its
members in the order in which they are written. `Value.insert` keeps the
members sorted by key, which is how objects without a schema are read: a later
member replaces an earlier one of the same key. -/

namespace Studio.Json

inductive Value
  | null
  | bool (b : Bool)
  | int (n : Int)
  | float (x : Float)
  | str (s : String)
  | arr (items : List Value)
  | obj (members : List (String × Value))
  deriving Inhabited, BEq

namespace Value

/-- Members sorted by key, after one more has been put among them. -/
def insert (key : String) (v : Value) : List (String × Value) → List (String × Value)
  | [] => [(key, v)]
  | (k, w) :: rest =>
    if key = k then (key, v) :: rest
    else if key < k then (key, v) :: (k, w) :: rest
    else (k, w) :: insert key v rest

def members : Value → List (String × Value)
  | .obj ms => ms
  | _ => []

def items : Value → List Value
  | .arr vs => vs
  | _ => []

def text? : Value → Option String
  | .str s => some s
  | _ => none

def text (v : Value) : String := v.text?.getD ""

def nat? : Value → Option Nat
  | .int (.ofNat n) => some n
  | _ => none

def nat (v : Value) : Nat := v.nat?.getD 0

def truth : Value → Bool
  | .bool b => b
  | _ => false

def number : Value → Float
  | .float x => x
  | .int n => .ofInt n
  | _ => 0

/-- The first member of that key, `null` if there is none. -/
def get (v : Value) (key : String) : Value :=
  ((v.members.find? (·.1 = key)).map (·.2)).getD .null

end Value

end Studio.Json
