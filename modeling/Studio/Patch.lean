import Studio.Json.Persisted

/-! Patches: directed connections between two nodes, each named by its kind and
its name, so that a patch can be stored before the nodes that it mentions, or
without them. Signal flows from the source into the target. As JSON, a patch is
four members, its source being called the input and its target the output. -/

namespace Studio

/-- The kind and the name of a node. The kind is open: one that no node has is
legal, and it never connects to anything. -/
structure Endpoint where
  kind : String
  name : String
  deriving Repr, DecidableEq

structure Patch where
  source : Endpoint
  target : Endpoint
  deriving Repr, DecidableEq

/-- The patches of one node: those that bring it signal and those that carry its
signal away. -/
structure Connections where
  inputs : List Patch
  outputs : List Patch
  deriving Repr, DecidableEq

def Connections.isEmpty (c : Connections) : Bool := c.inputs.isEmpty && c.outputs.isEmpty

/-- The connections of a node among the patches of a list. A patch from a node to
itself is on both sides. -/
def connections (patches : List Patch) (e : Endpoint) : Connections where
  inputs := patches.filter (·.target = e)
  outputs := patches.filter (·.source = e)

theorem connections_append (ps qs : List Patch) (e : Endpoint) :
    connections (ps ++ qs) e =
      ⟨(connections ps e).inputs ++ (connections qs e).inputs,
        (connections ps e).outputs ++ (connections qs e).outputs⟩ := by
  simp [connections]

/-! ### As JSON -/

open Json in
instance : Persisted Patch where
  schema := .record "Patch" <| .need "input-type" .text <| .need "input" .text <|
    .need "output-type" .text <| .need "output" .text .nil
  toValue p := .obj
    [("input-type", .str p.source.kind), ("input", .str p.source.name),
      ("output-type", .str p.target.kind), ("output", .str p.target.name)]
  ofValue v :=
    ⟨⟨(v.get "input-type").text, (v.get "input").text⟩,
      ⟨(v.get "output-type").text, (v.get "output").text⟩⟩

end Studio
