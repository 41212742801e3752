import Studio.Json.Schema
import Studio.Json.Write

/-! Types that are kept as JSON text. Each has a schema, a value for each of its
elements, and an element for each value that the schema admits. -/

namespace Studio.Json

class Persisted (α : Type) where
  schema : Schema
  toValue : α → Value
  ofValue : Value → α

variable {α : Type} [Persisted α]

/-- The written form of an element. -/
def write (l : Layout) (a : α) : String :=
  (Persisted.toValue a).render l

/-- Reads an element from its text. -/
def read (text : String) : Except ReadError α :=
  ((Persisted.schema α).read text).map Persisted.ofValue

/-- A field that must be present. -/
def Fields.need (name : String) (schema : Schema) (rest : Fields) : Fields :=
  .cons name .required schema rest

/-- A field with a value for when it is left out. -/
def Fields.fill (name : String) (v : Value) (schema : Schema) (rest : Fields) : Fields :=
  .cons name (.filled v) schema rest

/-- A field that may be left out. -/
def Fields.maybe (name : String) (schema : Schema) (rest : Fields) : Fields :=
  .cons name .omitted (.optional schema) rest

end Studio.Json
