import Studio.Composing.Excerpt
import Studio.Proofs.Composing.Script

/-! What an excerpt's script comes to. Its verbs cannot fail, so only the author's own
failure ends it; the last value that was set counts, and the name is looked at when the
script is over. -/

namespace Studio

open Composing

/-- The description that a verb sets, if it sets one. -/
def ExcerptVerb.description? : ExcerptVerb → Option String
  | .description text => some text
  | .source _ => none

/-- The source that a verb sets, if it sets one. -/
def ExcerptVerb.source? : ExcerptVerb → Option String
  | .source text => some text
  | .description _ => none

/-- The last of the values that the steps of a script set. -/
def Composing.lastSet? (set? : ExcerptVerb → Option String) (steps : List (Step ExcerptVerb)) :
    Option String :=
  (steps.filterMap fun step => step.verb?.bind set?).getLast?

theorem Composing.lastSet?_cons (set? : ExcerptVerb → Option String) (step : Step ExcerptVerb)
    (steps : List (Step ExcerptVerb)) :
    lastSet? set? (step :: steps) = (lastSet? set? steps).or (step.verb?.bind set?) := by
  unfold lastSet?
  rw [List.filterMap_cons]
  cases step.verb?.bind set? with
  | none => rw [Option.or_none]
  | some text =>
    dsimp only
    rw [List.getLast?_cons]
    cases (steps.filterMap fun step => step.verb?.bind set?).getLast? <;> rfl

namespace Excerpt

/-- The excerpt that a script makes of the name, unless it ends early. -/
def ofScript (name : String) (steps : List (Step ExcerptVerb)) : Excerpt :=
  ⟨name, (lastSet? ExcerptVerb.description? steps).getD "",
    (lastSet? ExcerptVerb.source? steps).getD ""⟩

theorem run_result (steps : List (Step ExcerptVerb)) (e : Excerpt) :
    (run ExcerptVerb.perform steps e).result =
      match steps.findSome? Step.thrown? with
      | some f => .error f
      | none => .ok ⟨e.name, (lastSet? ExcerptVerb.description? steps).getD e.description,
          (lastSet? ExcerptVerb.source? steps).getD e.source⟩ := by
  induction steps generalizing e with
  | nil => rfl
  | cons step steps ih =>
    rw [run_cons_result]
    simp only [lastSet?_cons]
    cases step with
    | look =>
      simp only [Step.result, Attempt.ok_bind, ih, Step.verb?, Option.bind_none, Option.or_none]
      rfl
    | fail f tolerated =>
      cases tolerated with
      | true =>
        simp only [Step.result, if_true, Attempt.ok_bind, ih, Step.verb?, Option.bind_none,
          Option.or_none]
        rfl
      | false => rfl
    | verb v tolerated =>
      have hthrown : (Step.verb v tolerated :: steps).findSome? Step.thrown? =
          steps.findSome? Step.thrown? := rfl
      rw [hthrown]
      cases v with
      | description text =>
        have hset : (Step.verb (.description text) tolerated).result ExcerptVerb.perform e =
            .ok { e with description := text } := rfl
        rw [hset, Attempt.ok_bind, ih]
        cases lastSet? ExcerptVerb.description? steps <;>
          cases lastSet? ExcerptVerb.source? steps <;> rfl
      | source text =>
        have hset : (Step.verb (.source text) tolerated).result ExcerptVerb.perform e =
            .ok { e with source := text } := rfl
        rw [hset, Attempt.ok_bind, ih]
        cases lastSet? ExcerptVerb.description? steps <;>
          cases lastSet? ExcerptVerb.source? steps <;> rfl

/-- The author's own failure counts before a blank name does. -/
theorem compose_result (genre : Genre) (name : String) (steps : List (Step ExcerptVerb)) :
    (Excerpt.compose genre name steps).result =
      match steps.findSome? Step.thrown? with
      | some f => .error f
      | none =>
        if Text.isBlank name then .error (.blankName genre.kind)
        else .ok (ofScript name steps) := by
  rw [Excerpt.compose, Composing.compose_result, Attempt.ok_bind, run_result]
  cases steps.findSome? Step.thrown? with
  | some f => rfl
  | none =>
    simp only [Attempt.ok_bind, checkName]
    split <;> rfl

theorem compose_unbuilt (genre : Genre) (name : String) (steps : List (Step ExcerptVerb)) :
    (Excerpt.compose genre name steps).attempt.Unbuilt := by
  have hverb : ∀ v e, (ExcerptVerb.perform v e).Unbuilt := by
    intro v e
    cases v <;> exact fun _ => List.not_mem_nil
  exact Composing.compose_unbuilt hverb _ _ _ _ _

end Excerpt

end Studio
