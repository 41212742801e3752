import Studio.Json.Numeral

/-! Passing over a value that no one asked for. It is checked for its grammar
only: numbers may be of any size, escapes may be halves of pairs, and values may
be nested to any depth, the brackets still open being kept on a stack. -/

namespace Studio.Json

inductive Bracket
  | list
  | object
  deriving Repr, DecidableEq

namespace Bracket

def close : Bracket → Char
  | .list => ']'
  | .object => '}'

/-- The flaw of a text that is over inside these brackets. -/
def endFlaw : Bracket → Flaw
  | .list => .endOfList
  | .object => .endOfObject

/-- The flaw of an item that is followed by neither a comma nor the end. -/
def separatorFlaw : Bracket → Flaw
  | .list => .itemEndExpected
  | .object => .memberEndExpected

end Bracket

/-- Whether a value comes next, or the end of one inside the innermost open
bracket, where a comma may stand unless the bracket was just opened. -/
inductive SkipState
  | value
  | rest (afterItem : Bool)

/-- What is left after the key of a member and its colon. -/
def passKey (cs : List Char) : Except Failure (List Char) :=
  match skipSpace cs with
  | [] => .error (.atEnd .endOfObject)
  | '"' :: cs =>
    match passString 0 cs with
    | .error e => .error e
    | .ok cs =>
      match skipSpace cs with
      | [] => .error (.atEnd .endOfObject)
      | ':' :: cs => .ok cs
      | other => .error (.on .colonExpected other)
  | other => .error (.on .keyNotText other)

/-- What is left after a scalar, or after the bracket that opens a container. -/
def passScalar (cs : List Char) : Except Failure (List Char × Option Bracket) :=
  match skipSpace cs with
  | [] => .error (.atEnd .endOfValue)
  | 'n' :: cs => (word "ull".toList cs).map (·, none)
  | 't' :: cs => (word "rue".toList cs).map (·, none)
  | 'f' :: cs => (word "alse".toList cs).map (·, none)
  | '"' :: cs => (passString 0 cs).map (·, none)
  | '[' :: cs => .ok (cs, some .list)
  | '{' :: cs => .ok (cs, some .object)
  | c :: cs =>
    if c = '-' ∨ isDigit c then (numeral .badNumber (c :: cs)).map fun (_, rest) => (rest, none)
    else .error (.on .valueExpected (c :: cs))

/-- Before an item of the innermost open bracket: an object's has a key first. -/
def enterItem (b : Bracket) (cs : List Char) : Except Failure (List Char) :=
  match b with
  | .list => .ok cs
  | .object => passKey cs

def skipFrom : Nat → SkipState → List Bracket → List Char → Except Failure (List Char)
  | 0, _, _, _ => .error (.atEnd .endOfValue)
  | fuel + 1, .value, stack, cs => do
    match ← passScalar cs with
    | (cs, some b) => skipFrom fuel (.rest false) (b :: stack) cs
    | (cs, none) => skipFrom fuel (.rest true) stack cs
  | _ + 1, .rest _, [], cs => .ok cs
  | fuel + 1, .rest afterItem, b :: stack, cs =>
    match skipSpace cs with
    | [] => .error (.atEnd b.endFlaw)
    | c :: cs =>
      if c = ',' ∧ afterItem then do skipFrom fuel .value (b :: stack) (← enterItem b cs)
      else if c = b.close then skipFrom fuel (.rest true) stack cs
      else if afterItem then .error (.on b.separatorFlaw (c :: cs))
      else do skipFrom fuel .value (b :: stack) (← enterItem b (c :: cs))

/-- What is left after one value. Two steps are enough for each character. -/
def skip (cs : List Char) : Except Failure (List Char) :=
  skipFrom (2 * cs.length + 2) .value [] cs

end Studio.Json
