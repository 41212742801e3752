import Studio.Json.Skip
import Studio.Json.Value
import Studio.Json.FloatText
import Studio.Text.Quoted

/-! Readers of values. A reader is told how many more brackets may be opened and
takes one value off the front of the text, with the space before it. What it
finds instead of what it wants is an error that names both. -/

namespace Studio.Json

abbrev Reader := Nat → List Char → Scan Value

/-- How deep arrays and objects may be nested. -/
def maxDepth : Nat := 127

/-- The error of finding a value of another kind. A scalar is read to its end
first, and an error in it is the one that counts. -/
def mistyped (wanted : String) (cs : List Char) : Failure :=
  let found (what : String) (rest : List Char) : Failure := .before (.wrongKind what wanted) rest
  match cs with
  | 'n' :: cs =>
    match word "ull".toList cs with
    | .error e => e
    | .ok rest => found "null" rest
  | 't' :: cs =>
    match word "rue".toList cs with
    | .error e => e
    | .ok rest => found "boolean `true`" rest
  | 'f' :: cs =>
    match word "alse".toList cs with
    | .error e => e
    | .ok rest => found "boolean `false`" rest
  | '"' :: cs =>
    match string cs with
    | .error e => e
    | .ok (s, rest) => found ("string " ++ Text.quoted s) rest
  | '[' :: _ => found "sequence" cs
  | '{' :: _ => found "map" cs
  | c :: _ =>
    if c = '-' ∨ isDigit c then
      match number cs with
      | .error e => e
      | .ok (.int n, rest) => found s!"integer `{n}`" rest
      | .ok (.float x, rest) => found ("floating point `" ++ .ofList (floatText x) ++ "`") rest
    else .on .valueExpected cs
  | [] => .atEnd .endOfValue

/-! ### Scalars -/

def readText (wanted : String) (cs : List Char) : Scan String :=
  match skipSpace cs with
  | [] => .error (.atEnd .endOfValue)
  | '"' :: cs => string cs
  | other => .error (mistyped wanted other)

def textReader : Reader := fun _ cs =>
  (readText "a string" cs).map fun (s, rest) => (.str s, rest)

def flagReader : Reader := fun _ cs =>
  match skipSpace cs with
  | [] => .error (.atEnd .endOfValue)
  | 't' :: cs => (word "rue".toList cs).map (.bool true, ·)
  | 'f' :: cs => (word "alse".toList cs).map (.bool false, ·)
  | other => .error (mistyped "a boolean" other)

/-- A number, where `wanted` says what was asked for. -/
def readNumber (wanted : String) (cs : List Char) : Scan Number :=
  match skipSpace cs with
  | [] => .error (.atEnd .endOfValue)
  | c :: cs =>
    if c = '-' ∨ isDigit c then number (c :: cs) else .error (mistyped wanted (c :: cs))

/-- Whole numbers below a bound, which `title` names. -/
def wholeReader (title : String) (bound : Nat) : Reader := fun _ cs =>
  match readNumber title cs with
  | .error e => .error e
  | .ok (.float x, rest) =>
    .error (.before (.wrongKind ("floating point `" ++ .ofList (floatText x) ++ "`") title) rest)
  | .ok (.int n, rest) =>
    if 0 ≤ n ∧ n < bound then .ok (.int n, rest)
    else .error (.before (.wrongValue s!"integer `{n}`" title) rest)

def realReader : Reader := fun _ cs =>
  match readNumber "f64" cs with
  | .error e => .error e
  | .ok (.float x, rest) => .ok (.float x, rest)
  | .ok (.int n, rest) => .ok (.float (.ofInt n), rest)

/-- Another reader's value, or `null`. -/
def optionalReader (reader : Reader) : Reader := fun depth cs =>
  match skipSpace cs with
  | 'n' :: cs => (word "ull".toList cs).map (.null, ·)
  | other => reader depth other

/-! ### Arrays -/

/-- Goes to the next item of an array: whether there is one, and the text from it
or from the closing bracket on. -/
def nextItem (first : Bool) (cs : List Char) : Scan Bool :=
  match skipSpace cs with
  | [] => .error (.atEnd .endOfList)
  | ']' :: cs => .ok (false, ']' :: cs)
  | c :: cs =>
    if first then .ok (true, c :: cs)
    else if c = ',' then
      match skipSpace cs with
      | [] => .error (.atEnd .endOfValue)
      | ']' :: cs => .error (.on .trailingComma (']' :: cs))
      | cs => .ok (true, cs)
    else .error (.on .itemEndExpected (c :: cs))

/-- The items of an array after its opening bracket, each read by `item`. Every
item takes a character at least, so the length of the text is fuel enough. -/
def items (item : List Char → Scan Value) :
    Nat → Bool → List Char → Except Failure (List Value × List Char)
  | 0, _, _ => .error (.atEnd .endOfList)
  | fuel + 1, first, cs => do
    let (more, cs) ← nextItem first cs
    if more then
      let (v, cs) ← item cs
      let (vs, cs) ← items item fuel false cs
      return (v :: vs, cs)
    else return ([], cs.tail)

/-- One bracket more, unless too many are open. -/
def deeper (depth : Nat) (cs : List Char) (inside : Nat → Scan α) : Scan α :=
  match depth with
  | 0 => .error (.on .tooDeep cs)
  | depth + 1 => inside depth

def listReader (item : Reader) : Reader := fun depth cs =>
  match skipSpace cs with
  | [] => .error (.atEnd .endOfValue)
  | '[' :: cs =>
    deeper depth ('[' :: cs) fun depth =>
      (items (item depth) (cs.length + 1) true cs).map fun (vs, rest) => (.arr vs, rest)
  | other => .error (mistyped "a sequence" other)

/-! ### Objects -/

/-- Goes to the next member of an object: whether there is one, and the text after
the quote that opens its key or from the closing bracket on. -/
def nextKey (first : Bool) (cs : List Char) : Scan Bool :=
  let key (cs : List Char) : Scan Bool :=
    match cs with
    | '"' :: cs => .ok (true, cs)
    | cs => .error (.on .keyNotText cs)
  match skipSpace cs with
  | [] => .error (.atEnd .endOfObject)
  | '}' :: cs => .ok (false, '}' :: cs)
  | c :: cs =>
    if first then key (c :: cs)
    else if c = ',' then
      match skipSpace cs with
      | [] => .error (.atEnd .endOfValue)
      | '}' :: cs => .error (.on .trailingComma ('}' :: cs))
      | cs => key cs
    else .error (.on .memberEndExpected (c :: cs))

def passColon (cs : List Char) : Except Failure (List Char) :=
  match skipSpace cs with
  | [] => .error (.atEnd .endOfObject)
  | ':' :: cs => .ok cs
  | other => .error (.on .colonExpected other)

/-- The members of an object of any shape, after its opening bracket. -/
def anyMembers (value : List Char → Scan Value) :
    Nat → Bool → List (String × Value) → List Char →
      Except Failure (List (String × Value) × List Char)
  | 0, _, _, _ => .error (.atEnd .endOfObject)
  | fuel + 1, first, found, cs => do
    let (more, cs) ← nextKey first cs
    if more then
      let (key, cs) ← string cs
      let (v, cs) ← value (← passColon cs)
      anyMembers value fuel false (Value.insert key v found) cs
    else return (found, cs.tail)

/-- A value of any kind. The values inside it are read by `inner`, which is missing
where no more brackets may be opened. -/
def anyValue (inner : Option (List Char → Scan Value)) (cs : List Char) : Scan Value :=
  match skipSpace cs with
  | [] => .error (.atEnd .endOfValue)
  | 'n' :: cs => (word "ull".toList cs).map (.null, ·)
  | 't' :: cs => (word "rue".toList cs).map (.bool true, ·)
  | 'f' :: cs => (word "alse".toList cs).map (.bool false, ·)
  | '"' :: cs => (string cs).map fun (s, rest) => (.str s, rest)
  | '[' :: cs =>
    match inner with
    | none => .error (.on .tooDeep ('[' :: cs))
    | some item => (items item (cs.length + 1) true cs).map fun (vs, rest) => (.arr vs, rest)
  | '{' :: cs =>
    match inner with
    | none => .error (.on .tooDeep ('{' :: cs))
    | some value =>
      (anyMembers value (cs.length + 1) true [] cs).map fun (ms, rest) => (.obj ms, rest)
  | c :: cs =>
    if c = '-' ∨ isDigit c then
      match number (c :: cs) with
      | .error e => .error e
      | .ok (.int n, rest) => .ok (.int n, rest)
      | .ok (.float x, rest) => .ok (.float x, rest)
    else .error (.on .valueExpected (c :: cs))

def anyReader : Reader
  | 0 => anyValue none
  | depth + 1 => anyValue (some (anyReader depth))

end Studio.Json
