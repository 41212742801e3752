import Studio.Attempt

/-! What an author's function does while something is composed, as a list of steps.
A verb that fails changes nothing; it ends the script unless the author tolerates
the failure. `Course` tells how a script went: the model and the failure after each
step, the outcome, and the notes. -/

namespace Studio.Composing

inductive Step (V : Type)
  | verb (v : V) (tolerated : Bool)
  | look
  | fail (f : Fault) (tolerated : Bool)

/-- The model after a step, and how the step failed if it did. -/
structure Entry (M : Type) where
  model : M
  failure : Option Fault := none

structure Course (M : Type) where
  entries : List (Entry M)
  result : Except Fault M
  notes : List Note

variable {V M : Type}

namespace Course

/-- The course of a script that stops at once. -/
def stop (result : Except Fault M) (notes : List Note := []) : Course M := ⟨[], result, notes⟩

def after (entry : Entry M) (notes : List Note) (c : Course M) : Course M :=
  { c with entries := entry :: c.entries, notes := notes ++ c.notes }

def attempt (c : Course M) : Attempt M := ⟨c.result, c.notes⟩

end Course

/-- Runs the steps on a model, where `perform` does what a verb says. -/
def run (perform : V → M → Attempt M) : List (Step V) → M → Course M
  | [], m => .stop (.ok m)
  | .look :: steps, m => (run perform steps m).after { model := m } []
  | .fail f tolerated :: steps, m =>
    if tolerated then (run perform steps m).after ⟨m, some f⟩ []
    else (Course.stop (.error f)).after ⟨m, some f⟩ []
  | .verb v tolerated :: steps, m =>
    let done := perform v m
    match done.result with
    | .ok m' => (run perform steps m').after { model := m' } done.notes
    | .error f =>
      if tolerated then (run perform steps m).after ⟨m, some f⟩ done.notes
      else (Course.stop (.error f)).after ⟨m, some f⟩ done.notes

/-- Composes a model: `start` is the empty one, `finish` checks the one that the
script leaves. -/
def compose (kind name : String) (start : Except Fault M) (perform : V → M → Attempt M)
    (finish : M → Except Fault M) (steps : List (Step V)) : Course M :=
  let note : Note := .said .debug s!"composing {kind} '{name}'"
  match start with
  | .error f => .stop (.error f) [note]
  | .ok m =>
    let course := run perform steps m
    { course with result := course.result >>= finish, notes := note :: course.notes }

end Studio.Composing
