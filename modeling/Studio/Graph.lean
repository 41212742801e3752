import Studio.Session

/-! The graph that the audio engine plays: each node of a session with the
processor that its builder made and the patches on both of its sides. Every
builder runs once, in the order instruments, effects, tracks, and the first one
that fails ends the work. -/

namespace Studio

structure GraphNode where
  kind : String
  name : String
  processor : Processor
  inputs : List Patch
  outputs : List Patch
  deriving BEq

open Json in
instance : Persisted GraphNode where
  schema := .record "RenderedNode" <| .need "patch-type" .text <| .need "name" .text <|
    .need "engine" (Persisted.schema Processor) <|
    .need "inputs" (.list (Persisted.schema Patch)) <|
    .need "outputs" (.list (Persisted.schema Patch)) .nil
  toValue n := .obj
    [("patch-type", .str n.kind), ("name", .str n.name),
      ("engine", Persisted.toValue n.processor),
      ("inputs", .arr (n.inputs.map Persisted.toValue)),
      ("outputs", .arr (n.outputs.map Persisted.toValue))]
  ofValue v :=
    { kind := (v.get "patch-type").text
      name := (v.get "name").text
      processor := Persisted.ofValue (v.get "engine")
      inputs := (v.get "inputs").items.map Persisted.ofValue
      outputs := (v.get "outputs").items.map Persisted.ofValue }

abbrev Graph := List GraphNode

namespace Graph

/-- The first node of that kind and name. -/
def node? (g : Graph) (e : Endpoint) : Option GraphNode :=
  g.find? fun n => n.kind = e.kind && n.name = e.name

end Graph

namespace Session

def graphNode (s : Session) (role : Role) (node : Node) (p : Processor) : GraphNode :=
  let c := s.connectionsOf (node.endpoint role)
  ⟨role.kind, node.name, p, c.inputs, c.outputs⟩

/-- Builds nodes one after another. -/
def buildNodes (s : Session) (role : Role) : List Node → Attempt Graph
  | [] => pure []
  | node :: nodes => do
    let p ← node.instantiate role
    let rest ← s.buildNodes role nodes
    return s.graphNode role node p :: rest

/-- A warning for each patch that connects nothing. -/
def warnings (s : Session) : List Note :=
  s.danglingPatches.map fun p =>
    let (sourceKind, source) := (p.source.kind, p.source.name)
    let (targetKind, target) := (p.target.kind, p.target.name)
    let session := s.name
    .said .warn
      s!"patch {sourceKind} '{source}' -> {targetKind} '{target}' in session '{session}' doesn't connect anything"

def graph (s : Session) : Attempt Graph := do
  let instruments ← s.buildNodes .instrument s.instruments.entries
  let effects ← s.buildNodes .effect s.effects.entries
  let tracks ← s.buildNodes .track s.tracks.entries
  let all := instruments ++ effects ++ tracks
  let (count, session) := (all.length, s.name)
  { result := .ok all
    notes := s.warnings ++ [.said .debug s!"rendered {count} node(s) from '{session}'"] }

end Session

end Studio
