import Studio.Composing.Library
import Studio.Session

/-! Composing a session: nodes with builders of their own, nodes taken from a
library under a new name, and patches, whose ends are not looked at. -/

namespace Studio

open Composing

inductive SessionVerb
  | node (role : Role) (name : String) (builder : Builder)
  | phrase (name : String)
  /-- Takes the library's node `key` and calls it `name`. -/
  | use (role : Role) (library : Library) (key name : String)
  | patch (p : Patch)

namespace Session

def createNode (role : Role) (name : String) (b : Builder) (s : Session) : Attempt Session := do
  let node ← Attempt.ofExcept (Node.create role name b)
  s.addNode role node

def useNode (role : Role) (library : Library) (key name : String) (s : Session) :
    Attempt Session :=
  match (library.nodes role).get? key with
  | none => .fail (.notInLibrary library.name role.kind key)
  | some entry => do
    let node ← Attempt.ofExcept (entry.rename role name)
    s.addNode role node

def addPatch (p : Patch) (s : Session) : Attempt Session := do
  let (sourceKind, source) := (p.source.kind, p.source.name)
  let (targetKind, target) := (p.target.kind, p.target.name)
  Attempt.say .debug s!"patching {sourceKind} '{source}' -> {targetKind} '{target}'"
  return { s with patches := s.patches ++ [p] }

end Session

def SessionVerb.perform : SessionVerb → Session → Attempt Session
  | .node .track name _, _ => refuse "track" name
  | .node role name b, s => s.createNode role name b
  | .phrase name, _ => refuse "phrase" name
  | .use role library key name, s => s.useNode role library key name
  | .patch p, s => s.addPatch p

def Session.compose (name : String) (steps : List (Step SessionVerb)) : Course Session :=
  Composing.compose "session" name (Session.empty name) SessionVerb.perform .ok steps

end Studio
