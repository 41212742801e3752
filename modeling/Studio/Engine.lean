import Studio.Fault
import Studio.Json.Persisted

/-! What the audio engine is told to create: a processor of some key with
parameters in the order in which they are applied. A draft collects the parts
before the key is known. -/

namespace Studio

structure Parameter where
  name : String
  value : Float
  deriving Inhabited, BEq

structure Processor where
  key : String
  parameters : List Parameter := []
  deriving Inhabited, BEq

/-- The value of the first parameter of that name. -/
def Processor.parameter? (p : Processor) (name : String) : Option Float :=
  (p.parameters.find? (·.name = name)).map (·.value)

structure ProcessorDraft where
  key : Option String := none
  parameters : List Parameter := []

namespace ProcessorDraft

def addParameter (p : Parameter) (d : ProcessorDraft) : ProcessorDraft :=
  { d with parameters := d.parameters ++ [p] }

def build (d : ProcessorDraft) : Except Fault Processor :=
  match d.key with
  | none => .error (.missing "entity" "key")
  | some key => .ok ⟨key, d.parameters⟩

end ProcessorDraft

/-! ### As JSON -/

open Json in
instance : Persisted Parameter where
  schema := .record "EngineParameter" <| .need "name" .text <| .need "value" .real .nil
  toValue p := .obj [("name", .str p.name), ("value", .float p.value)]
  ofValue v := ⟨(v.get "name").text, (v.get "value").number⟩

open Json in
instance : Persisted Processor where
  schema := .record "EngineNode" <| .need "key" .text <|
    .need "parameters" (.list (Persisted.schema Parameter)) .nil
  toValue p := .obj
    [("key", .str p.key), ("parameters", .arr (p.parameters.map Persisted.toValue))]
  ofValue v := ⟨(v.get "key").text, (v.get "parameters").items.map Persisted.ofValue⟩

end Studio
