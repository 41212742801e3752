import Studio.Json.Read

/-! Shapes of JSON values, and reading by them. A record is written as an object
whose members may come in any order, with members of other names passed over, or
as an array of its fields in order. The value that is read has the fields in the
order of the schema, fields left out being filled in where the schema says so. -/

namespace Studio.Json

/-- What stands for a field that a text leaves out. A field that may be `omitted`
may also be `null`, which is the same. -/
inductive Absence
  | required
  | filled (v : Value)
  | omitted

mutual

inductive Schema
  | text
  | flag
  /-- Whole numbers below a bound. -/
  | whole (title : String) (bound : Nat)
  | real
  | any
  | choice (variants : List String)
  | optional (schema : Schema)
  | list (item : Schema)
  | record (title : String) (fields : Fields)

inductive Fields
  | nil
  | cons (name : String) (absence : Absence) (schema : Schema) (rest : Fields)

end

/-- A field with its reader. -/
structure Slot where
  name : String
  absence : Absence
  read : Reader

/-! ### Choices -/

/-- One of the known names, whose opening quote has been read. -/
def variant (known : List String) (cs : List Char) : Scan Value :=
  match string cs with
  | .error e => .error e
  | .ok (name, rest) =>
    if known.contains name then .ok (.str name, rest)
    else .error (.before (.unknownVariant name known) rest)

def readNull (cs : List Char) : Except Failure (List Char) :=
  match skipSpace cs with
  | [] => .error (.atEnd .endOfValue)
  | 'n' :: cs => word "ull".toList cs
  | other => .error (mistyped "unit" other)

/-- Goes to the text of the one key of an object. -/
def onlyKey (cs : List Char) : Except Failure (List Char) :=
  match skipSpace cs with
  | [] => .error (.atEnd .endOfObject)
  | '"' :: cs => .ok cs
  | '}' :: cs => .error (.on .valueExpected ('}' :: cs))
  | other => .error (.on .keyNotText other)

/-- A name as the key of an object's only member, whose value is `null`. -/
def variantMember (known : List String) (cs : List Char) :
    Except Failure (Value × List Char) := do
  let (v, cs) ← variant known (← onlyKey cs)
  let cs ← readNull (← passColon cs)
  match skipSpace cs with
  | [] => .error (.atEnd .endOfObject)
  | '}' :: cs => return (v, cs)
  | other => .error (.before .valueExpected other)

/-- A name, or an object with the name as its only key and `null` for a value. -/
def choiceReader (known : List String) : Reader := fun depth cs =>
  match skipSpace cs with
  | [] => .error (.atEnd .endOfValue)
  | '"' :: cs => variant known cs
  | '{' :: cs => deeper depth ('{' :: cs) fun _ => variantMember known cs
  | other => .error (.on .valueExpected other)

/-! ### Records -/

/-- The members that a field adds to a record, given its value. -/
def Slot.keep (slot : Slot) (v : Value) : List (String × Value) :=
  match slot.absence, v with
  | .omitted, .null => []
  | _, v => [(slot.name, v)]

/-- The members that a field adds when its value is missing, if it may be. -/
def Slot.fill? (slot : Slot) : Option (List (String × Value)) :=
  match slot.absence with
  | .required => none
  | .filled v => some [(slot.name, v)]
  | .omitted => some []

/-- The members found, in the order of the fields; a required field that was not
found is given by its name. -/
def assemble : List Slot → List (String × Value) → Except String (List (String × Value))
  | [], _ => .ok []
  | slot :: slots, found => do
    let here ← match found.find? (·.1 = slot.name), slot.fill? with
      | some (_, v), _ => pure (slot.keep v)
      | none, some ms => pure ms
      | none, none => throw slot.name
    let others ← assemble slots found
    return here ++ others

/-- Where a text stands after the error of a repeated field: space is passed over,
and so is the bracket that would close the object. -/
def afterRepeated (cs : List Char) : List Char :=
  match skipSpace cs with
  | '}' :: rest => rest
  | other => other

/-- The members of a record, as they come. -/
def recordMembers (slots : List Slot) (depth : Nat) :
    Nat → Bool → List (String × Value) → List Char →
      Except Failure (List (String × Value) × List Char)
  | 0, _, _, _ => .error (.atEnd .endOfObject)
  | fuel + 1, first, found, cs => do
    let (more, cs) ← nextKey first cs
    if more then
      let (key, cs) ← string cs
      match slots.find? (·.name = key) with
      | none =>
        let cs ← skip (← passColon cs)
        recordMembers slots depth fuel false found cs
      | some slot =>
        if found.any (·.1 = key) then
          .error (.before (.repeatedField key) (afterRepeated cs))
        else
          let (v, cs) ← slot.read depth (← passColon cs)
          recordMembers slots depth fuel false (found ++ [(key, v)]) cs
    else return (found, cs.tail)

/-- The end of an array whose items have all been read. -/
def closeItems (cs : List Char) : Except Failure (List Char) :=
  match skipSpace cs with
  | [] => .error (.atEnd .endOfList)
  | ']' :: cs => .ok cs
  | ',' :: cs =>
    match skipSpace cs with
    | ']' :: cs => .error (.on .trailingComma (']' :: cs))
    | other => .error (.on .trailingText other)
  | other => .error (.on .trailingText other)

/-- The fields of a record written as an array, `index` of them having been dealt
with. -/
def recordItems (title : String) (total depth : Nat) :
    List Slot → Nat → Bool → List Char → Except Failure (List (String × Value) × List Char)
  | [], _, _, cs => (closeItems cs).map ([], ·)
  | slot :: slots, index, first, cs => do
    let (more, cs) ← nextItem first cs
    if more then
      let (v, cs) ← slot.read depth cs
      let (ms, cs) ← recordItems title total depth slots (index + 1) false cs
      return (slot.keep v ++ ms, cs)
    else
      match slot.fill? with
      | none => .error (.before (.wrongLength index title total) cs.tail)
      | some here =>
        let (ms, cs) ← recordItems title total depth slots (index + 1) first cs
        return (here ++ ms, cs)

def recordReader (title : String) (slots : List Slot) : Reader := fun depth cs =>
  match skipSpace cs with
  | [] => .error (.atEnd .endOfValue)
  | '{' :: cs =>
    deeper depth ('{' :: cs) fun depth =>
      match recordMembers slots depth (cs.length + 1) true [] cs with
      | .error e => .error e
      | .ok (found, rest) =>
        match assemble slots found with
        | .error name => .error (.before (.missingField name) rest)
        | .ok ms => .ok (.obj ms, rest)
  | '[' :: cs =>
    deeper depth ('[' :: cs) fun depth =>
      (recordItems title slots.length depth slots 0 true cs).map fun (ms, rest) => (.obj ms, rest)
  | other => .error (mistyped ("struct " ++ title) other)

/-! ### Reading by a schema -/

mutual

def Schema.reader : Schema → Reader
  | .text => textReader
  | .flag => flagReader
  | .whole title bound => wholeReader title bound
  | .real => realReader
  | .any => anyReader
  | .choice variants => choiceReader variants
  | .optional schema => optionalReader schema.reader
  | .list item => listReader item.reader
  | .record title fields => recordReader title fields.slots

def Fields.slots : Fields → List Slot
  | .nil => []
  | .cons name absence schema rest => ⟨name, absence, schema.reader⟩ :: rest.slots

end

/-- One value and nothing after it. -/
def Schema.document (s : Schema) (cs : List Char) : Except Failure Value :=
  match s.reader maxDepth cs with
  | .error e => .error e
  | .ok (v, rest) =>
    match skipSpace rest with
    | [] => .ok v
    | other => .error (.on .trailingText other)

/-- Reads a whole text as one value of the given shape. -/
def Schema.read (s : Schema) (text : String) : Except ReadError Value :=
  (s.document text.toList).mapError (Failure.place text.toList)

end Studio.Json
