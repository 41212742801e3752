import Studio.Excerpt

/-! Libraries: named bundles of instruments, effects and excerpts, from which
sessions take their nodes. A library that is written as JSON and read again has
everything but the builders of its nodes. -/

namespace Studio

structure Library where
  name : String
  instruments : Registry Node := {}
  effects : Registry Node := {}
  snippets : Registry Excerpt := {}
  templates : Registry Excerpt := {}
  demos : Registry Excerpt := {}

namespace Library

def empty (name : String) : Except Fault Library := do
  checkName "library" name
  return { name }

/-- The nodes of a role. A library holds no tracks. -/
def nodes (l : Library) : Role → Registry Node
  | .instrument => l.instruments
  | .effect => l.effects
  | .track => {}

def setNodes (l : Library) (role : Role) (r : Registry Node) : Library :=
  match role with
  | .instrument => { l with instruments := r }
  | .effect => { l with effects := r }
  | .track => l

def excerpts (l : Library) : Genre → Registry Excerpt
  | .snippet => l.snippets
  | .template => l.templates
  | .demo => l.demos

def setExcerpts (l : Library) (genre : Genre) (r : Registry Excerpt) : Library :=
  match genre with
  | .snippet => { l with snippets := r }
  | .template => { l with templates := r }
  | .demo => { l with demos := r }

end Library

/-! ### As JSON -/

open Json in
instance : Persisted Library where
  schema := .record "LibraryModel" <| .need "name" .text <|
    .fill "instruments" (.arr []) (.list (Node.schema .instrument)) <|
    .fill "effects" (.arr []) (.list (Node.schema .effect)) <|
    .fill "snippets" (.arr []) (.list (Excerpt.schema .snippet)) <|
    .fill "templates" (.arr []) (.list (Excerpt.schema .template)) <|
    .fill "demos" (.arr []) (.list (Excerpt.schema .demo)) .nil
  toValue l := .obj
    [("name", .str l.name), ("instruments", l.instruments.ofNodes),
      ("effects", l.effects.ofNodes), ("snippets", l.snippets.ofExcerpts),
      ("templates", l.templates.ofExcerpts), ("demos", l.demos.ofExcerpts)]
  ofValue v :=
    { name := (v.get "name").text
      instruments := .nodes (v.get "instruments")
      effects := .nodes (v.get "effects")
      snippets := .excerpts (v.get "snippets")
      templates := .excerpts (v.get "templates")
      demos := .excerpts (v.get "demos") }

namespace Library

/-- The library as indented JSON, without its builders. -/
def exportText (l : Library) : String := Json.write .indented l

def ofText (text : String) : Except Fault Library :=
  (Json.read text).mapError .unreadable

end Library

end Studio
