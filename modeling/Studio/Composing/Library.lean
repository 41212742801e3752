import Studio.Composing.Excerpt
import Studio.Library

/-! Composing a library. Tracks and phrases have verbs, but these always fail. -/

namespace Studio

open Composing

inductive LibraryVerb
  | node (role : Role) (name : String) (builder : Builder)
  | phrase (name : String)
  | excerpt (genre : Genre) (name : String) (steps : List (Step ExcerptVerb))

/-- The refusal of a verb that exists and does nothing. -/
def refuse (verb name : String) : Attempt α := do
  Attempt.say .debug s!"rejecting {verb} '{name}'"
  Attempt.fail (.notImplemented verb)

namespace Library

/-- Registers a node. Its name is checked before it is looked up among the others. -/
def addNode (role : Role) (name : String) (b : Builder) (l : Library) : Attempt Library := do
  let node ← Attempt.ofExcept (Node.create role name b)
  let r ← (l.nodes role).add role.kind node
  return l.setNodes role r

def addExcerpt (genre : Genre) (name : String) (steps : List (Step ExcerptVerb)) (l : Library) :
    Attempt Library := do
  let e ← (Excerpt.compose genre name steps).attempt
  let r ← (l.excerpts genre).add genre.kind e
  return l.setExcerpts genre r

end Library

def LibraryVerb.perform : LibraryVerb → Library → Attempt Library
  | .node .track name _, _ => refuse "track" name
  | .node role name b, l => l.addNode role name b
  | .phrase name, _ => refuse "phrase" name
  | .excerpt genre name steps, l => l.addExcerpt genre name steps

def Library.compose (name : String) (steps : List (Step LibraryVerb)) : Course Library :=
  Composing.compose "library" name (Library.empty name) LibraryVerb.perform .ok steps

end Studio
