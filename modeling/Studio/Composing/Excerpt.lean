import Studio.Composing.Script
import Studio.Excerpt

/-! Composing an excerpt: its description and its source may be set any number of
times, and the last of each counts. The name is checked at the end. -/

namespace Studio

inductive ExcerptVerb
  | description (text : String)
  | source (text : String)
  deriving Repr, DecidableEq

def ExcerptVerb.perform : ExcerptVerb → Excerpt → Attempt Excerpt
  | .description text, e => pure { e with description := text }
  | .source text, e => pure { e with source := text }

open Composing in
def Excerpt.compose (genre : Genre) (name : String) (steps : List (Step ExcerptVerb)) :
    Course Excerpt :=
  Composing.compose genre.kind name (.ok { name }) ExcerptVerb.perform
    (fun e => (checkName genre.kind e.name).map fun _ => e) steps

end Studio
