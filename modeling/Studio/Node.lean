import Studio.Patch
import Studio.Registry
import Studio.Text.Blank

/-! Nodes: the instruments, effects and tracks that patches connect. The three
differ only in the role they play, which is not part of the node but of the
registry that holds it. A node keeps its builder and the name of its session in
memory only; as JSON it is its name. -/

namespace Studio

inductive Role
  | instrument
  | effect
  | track
  deriving Repr, DecidableEq

namespace Role

/-- The kind by which patches and messages call the role. -/
def kind : Role → String
  | .instrument => "instrument"
  | .effect => "effect"
  | .track => "track"

def title : Role → String
  | .instrument => "Instrument"
  | .effect => "Effect"
  | .track => "Track"

def all : List Role := [.instrument, .effect, .track]

def ofKind? (kind : String) : Option Role := all.find? (·.kind = kind)

theorem ofKind?_kind (r : Role) : ofKind? r.kind = some r := by
  cases r <;> simp [ofKind?, all, kind, List.find?]

end Role

/-- A name that may be given to an entity of some kind. -/
def checkName (kind name : String) : Except Fault Unit :=
  if Text.isBlank name then .error (.blankName kind) else .ok ()

structure Node where
  name : String
  /-- Absent if the node was read from JSON. -/
  builder : Option Builder := none
  session : Option String := none

instance : Named Node := ⟨Node.name⟩

namespace Node

/-- A node with a new builder. -/
def create (role : Role) (name : String) (b : Builder) : Except Fault Node := do
  checkName role.kind name
  return { name, builder := some b }

/-- A copy under another name, outside any session, that shares the builder. -/
def rename (role : Role) (node : Node) (name : String) : Except Fault Node := do
  checkName role.kind name
  return { name, builder := node.builder }

theorem rename_eq (role : Role) (node : Node) (name : String) :
    node.rename role name =
      if Text.isBlank name then .error (.blankName role.kind)
      else .ok { name, builder := node.builder } := by
  unfold rename checkName
  split <;> rfl

/-- Runs the node's builder. -/
def instantiate (role : Role) (node : Node) : Attempt Processor :=
  match node.builder with
  | some b => .run b
  | none => .fail (.missing role.kind "fn")

def endpoint (role : Role) (node : Node) : Endpoint := ⟨role.kind, node.name⟩

/-- Whether both nodes have a builder and it is the same one; nothing if either has
none. -/
def sameBuilder? (a b : Node) : Option Bool :=
  match a.builder, b.builder with
  | some x, some y => some (x.id == y.id)
  | _, _ => none

end Node

/-- A patch from one node to another. -/
def Patch.connect (source target : Endpoint) : Patch := ⟨source, target⟩

/-- The parts of a node as they are set one by one. -/
structure NodeDraft where
  name : Option String := none
  builder : Option Builder := none

/-- The builder is asked for first, then the name. -/
def NodeDraft.build (role : Role) (d : NodeDraft) : Except Fault Node :=
  match d.builder, d.name with
  | none, _ => .error (.missing role.kind "fn")
  | some _, none => .error (.missing role.kind "name")
  | some b, some name => Node.create role name b

/-! ### As JSON -/

open Json in
def Node.schema (role : Role) : Schema := .record role.title <| .need "name" .text .nil

open Json in
def Node.toValue (node : Node) : Value := .obj [("name", .str node.name)]

open Json in
def Node.ofValue (v : Value) : Node := { name := (v.get "name").text }

open Json in
def Registry.ofNodes (r : Registry Node) : Value := .arr (r.entries.map Node.toValue)

open Json in
def Registry.nodes (v : Value) : Registry Node := ⟨v.items.map Node.ofValue⟩

end Studio
