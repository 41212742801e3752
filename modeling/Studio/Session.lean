import Studio.Node

/-! Sessions: the nodes of one piece and the patches between them. Each node knows
its session's name, not the session, so its connections are asked of the session. -/

namespace Studio

structure Session where
  name : String
  instruments : Registry Node := {}
  effects : Registry Node := {}
  tracks : Registry Node := {}
  patches : List Patch := []

namespace Session

def empty (name : String) : Except Fault Session := do
  checkName "session" name
  return { name }

def nodes (s : Session) : Role → Registry Node
  | .instrument => s.instruments
  | .effect => s.effects
  | .track => s.tracks

def setNodes (s : Session) (role : Role) (r : Registry Node) : Session :=
  match role with
  | .instrument => { s with instruments := r }
  | .effect => { s with effects := r }
  | .track => { s with tracks := r }

@[simp] theorem nodes_setNodes (s : Session) (role : Role) (r : Registry Node) :
    (s.setNodes role r).nodes role = r := by cases role <;> rfl

@[simp] theorem setNodes_nodes (s : Session) (role : Role) : s.setNodes role (s.nodes role) = s := by
  cases role <;> rfl

@[simp] theorem setNodes_setNodes (s : Session) (role : Role) (r r' : Registry Node) :
    (s.setNodes role r).setNodes role r' = s.setNodes role r' := by cases role <;> rfl

@[simp] theorem setNodes_name (s : Session) (role : Role) (r : Registry Node) :
    (s.setNodes role r).name = s.name := by cases role <;> rfl

/-- Adds a node, which then belongs to the session. -/
def addNode (role : Role) (node : Node) (s : Session) : Attempt Session := do
  let r ← (s.nodes role).add role.kind { node with session := some s.name }
  return s.setNodes role r

theorem addNode_result (role : Role) (node : Node) (s : Session) :
    (s.addNode role node).result =
      if (s.nodes role).contains node.name then .error (.duplicate role.kind node.name)
      else .ok (s.setNodes role
        ⟨(s.nodes role).entries ++ [{ node with session := some s.name }]⟩) := by
  have hn : Named.name { node with session := some s.name } = node.name := rfl
  unfold addNode
  rw [Attempt.result_bind, Registry.add_result, hn]
  split <;> rfl

/-- The connections of a node of that kind and name, whether or not there is one. -/
def connectionsOf (s : Session) (e : Endpoint) : Connections := connections s.patches e

def hasNode (s : Session) (e : Endpoint) : Bool :=
  match Role.ofKind? e.kind with
  | some role => (s.nodes role).contains e.name
  | none => false

/-- The patches of which an end is no node of the session. They are legal and carry
no signal. -/
def danglingPatches (s : Session) : List Patch :=
  s.patches.filter fun p => !(s.hasNode p.source && s.hasNode p.target)

end Session

/-! ### As JSON -/

open Json in
instance : Persisted Session where
  schema := .record "SessionModel" <| .need "name" .text <|
    .fill "instruments" (.arr []) (.list (Node.schema .instrument)) <|
    .fill "effects" (.arr []) (.list (Node.schema .effect)) <|
    .fill "tracks" (.arr []) (.list (Node.schema .track)) <|
    .fill "patches" (.arr []) (.list (Persisted.schema Patch)) .nil
  toValue s := .obj
    [("name", .str s.name), ("instruments", s.instruments.ofNodes),
      ("effects", s.effects.ofNodes), ("tracks", s.tracks.ofNodes),
      ("patches", .arr (s.patches.map Persisted.toValue))]
  ofValue v :=
    { name := (v.get "name").text
      instruments := .nodes (v.get "instruments")
      effects := .nodes (v.get "effects")
      tracks := .nodes (v.get "tracks")
      patches := (v.get "patches").items.map Persisted.ofValue }

namespace Session

/-- The session as indented JSON, without builders and without its name in its
nodes. -/
def exportText (s : Session) : String := Json.write .indented s

/-- Every node made to belong to the session. -/
def adoptNodes (s : Session) : Session :=
  let adopt (r : Registry Node) : Registry Node :=
    ⟨r.entries.map fun node => { node with session := some s.name }⟩
  { s with instruments := adopt s.instruments, effects := adopt s.effects,
           tracks := adopt s.tracks }

def ofText (text : String) : Except Fault Session :=
  ((Json.read text).map adoptNodes).mapError .unreadable

end Session

end Studio
