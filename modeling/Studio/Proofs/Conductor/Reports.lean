import Studio.Conductor.Files
import Studio.Conductor.Play

/-! Reports change nothing but the outbox. A conductor is quiet when its outbox is
empty; one that emits, reports or takes notes is the same as before once both are
made quiet. -/

namespace Studio.Conductor

variable {D W : Type}

/-- The conductor with nothing left to fetch. -/
def quiet (c : Conductor D W) : Conductor D W := { c with out := {} }

/-- Conductors that are equal once quiet differ in their outboxes alone. -/
theorem exists_out_of_quiet {c c' : Conductor D W} (h : c.quiet = c'.quiet) :
    ∃ out, c = { c' with out } := by
  refine ⟨c.out, ?_⟩
  have hc : c = { c.quiet with out := c.out } := rfl
  rw [hc, h]
  rfl

/-- They agree in whatever does not look at the outbox. -/
theorem eq_of_quiet {α : Type} {f : Conductor D W → α} (hf : ∀ c, f c.quiet = f c)
    {c c' : Conductor D W} (h : c.quiet = c'.quiet) : f c = f c' := by
  rw [← hf c, h, hf]

@[simp] theorem quiet_say (level : Level) (text : String) (c : Conductor D W) :
    (c.say level text).quiet = c.quiet := rfl

@[simp] theorem quiet_emit (e : Event) (c : Conductor D W) : (c.emit e).quiet = c.quiet := by
  simp only [emit]
  split <;> rfl

@[simp] theorem quiet_report (message : String) (cause : Fault) (c : Conductor D W) :
    (c.report message cause).quiet = c.quiet := by
  rw [report, quiet_emit, quiet_say]

theorem quiet_foldl_emit (es : List Event) (c : Conductor D W) :
    (es.foldl (fun c e => c.emit e) c).quiet = c.quiet := by
  induction es generalizing c with
  | nil => rfl
  | cons e es ih => rw [List.foldl_cons, ih, quiet_emit]

@[simp] theorem quiet_setStage (stage : Stage) (c : Conductor D W) :
    (c.setStage stage).quiet = { c.quiet with stage } := by
  unfold setStage
  split
  · next h => rw [h]; rfl
  · rfl

@[simp] theorem quiet_advanceStage (sources : List Stage) (stage : Stage) (c : Conductor D W) :
    (c.advanceStage sources stage).quiet =
      { c.quiet with stage := if sources.contains c.stage then stage else c.stage } := by
  unfold advanceStage
  split
  · exact quiet_setStage stage c
  · rfl

end Studio.Conductor
