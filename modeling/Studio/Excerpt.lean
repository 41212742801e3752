import Studio.Node

/-! Excerpts: named pieces of score text with a description. A library keeps three
kinds of them, fragments to reuse, starting points of new files, and complete
pieces that show what it can do. -/

namespace Studio

inductive Genre
  | snippet
  | template
  | demo
  deriving Repr, DecidableEq

namespace Genre

def kind : Genre → String
  | .snippet => "snippet"
  | .template => "template"
  | .demo => "demo"

def title : Genre → String
  | .snippet => "Snippet"
  | .template => "Template"
  | .demo => "Demo"

end Genre

structure Excerpt where
  name : String
  description : String := ""
  source : String := ""
  deriving Repr, DecidableEq

instance : Named Excerpt := ⟨Excerpt.name⟩

/-- The parts of an excerpt as they are set one by one. -/
structure ExcerptDraft where
  name : Option String := none
  description : String := ""
  source : String := ""

def ExcerptDraft.build (genre : Genre) (d : ExcerptDraft) : Except Fault Excerpt :=
  match d.name with
  | none => .error (.missing genre.kind "name")
  | some name => do
    checkName genre.kind name
    return ⟨name, d.description, d.source⟩

/-! ### As JSON -/

open Json in
def Excerpt.schema (genre : Genre) : Schema :=
  .record genre.title <| .need "name" .text <|
    .fill "description" (.str "") .text <| .fill "source" (.str "") .text .nil

open Json in
def Excerpt.toValue (e : Excerpt) : Value := .obj
  [("name", .str e.name), ("description", .str e.description), ("source", .str e.source)]

open Json in
def Excerpt.ofValue (v : Value) : Excerpt :=
  ⟨(v.get "name").text, (v.get "description").text, (v.get "source").text⟩

open Json in
def Registry.ofExcerpts (r : Registry Excerpt) : Value := .arr (r.entries.map Excerpt.toValue)

open Json in
def Registry.excerpts (v : Value) : Registry Excerpt := ⟨v.items.map Excerpt.ofValue⟩

end Studio
