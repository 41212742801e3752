import Studio.Proofs.Conductor.Effect
import Studio.Proofs.Conductor.Topics
import Studio.Proofs.Session.Building

/-! What rendering and playing emit. A request for a rendering ends in one of six ways,
told apart by the files, the live rendering, the device and the source text; each ending
has its block of events. Nothing else speaks of composing, so the composing events of a
run are the blocks of its requests one after another. -/

namespace Studio

/-- How a request for a rendering ends. -/
inductive Ending
  /-- No file is selected. -/
  | unselected
  /-- The source is live already. -/
  | live
  /-- The device refuses its buffer. -/
  | refused
  /-- The source is no score. -/
  | unreadable
  /-- The score cannot be composed, or some node has no builder or one that fails. -/
  | unbuilt
  | rendered
  deriving Repr, DecidableEq

namespace Ending

def fails : Ending → Bool
  | .unselected | .refused | .unreadable | .unbuilt => true
  | .live | .rendered => false

/-- The stages of composing that are announced. -/
def stages : Ending → List Event
  | .unselected | .live | .refused => []
  | .unreadable => [.parsing]
  | .unbuilt => [.parsing, .parsed, .rendering]
  | .rendered => [.parsing, .parsed, .rendering, .rendered]

/-- All that is emitted, with the message and the cause of a failure. -/
def block (message : String) (cause : Fault) : Ending → List Event
  | .unselected => [.error message cause]
  | .live => []
  | .refused => [.error message cause]
  | .unreadable => [.parsing, .error message cause]
  | .unbuilt => [.parsing, .parsed, .rendering, .error message cause]
  | .rendered => [.parsing, .parsed, .rendering, .rendered, .changed false]

/-- What is emitted before a failure is known. -/
def announced (e : Ending) : List Event :=
  e.stages ++ if e = .rendered then [.changed false] else []

/-- What a source text comes to. -/
def ofSource (libraries : List Library) (default source : String) : Ending :=
  match Score.ofText source with
  | .error _ => .unreadable
  | .ok score =>
    match (score.compose libraries default).result with
    | .error _ => .unbuilt
    | .ok session => if session.allNodes.all Node.builds then .rendered else .unbuilt

theorem ofSource_unreadable {source : String} {f : Fault} (libraries : List Library)
    (default : String) (h : Score.ofText source = .error f) :
    ofSource libraries default source = .unreadable := by
  rw [ofSource, h]

theorem ofSource_readable {source : String} {score : Score} (libraries : List Library)
    (default : String) (h : Score.ofText source = .ok score) :
    ofSource libraries default source =
      if (Score.realize libraries default source).isOk then .rendered else .unbuilt := by
  have hr : Score.realize libraries default source = (score.build libraries default).result := by
    rw [Score.realize, h]
    rfl
  rw [hr, Score.build_isOk, ofSource, h]
  dsimp only
  cases (score.compose libraries default).result <;> rfl

theorem ofSource_cases (libraries : List Library) (default source : String) :
    ofSource libraries default source = .unreadable ∨
      ofSource libraries default source = .unbuilt ∨
      ofSource libraries default source = .rendered := by
  cases h : Score.ofText source with
  | error f => exact .inl (ofSource_unreadable libraries default h)
  | ok score =>
    rw [ofSource_readable libraries default h]
    split
    · exact .inr (.inr rfl)
    · exact .inr (.inl rfl)

theorem block_eq (message : String) (cause : Fault) (e : Ending) :
    e.block message cause = e.announced ++ if e.fails then [.error message cause] else [] := by
  cases e <;> rfl

theorem block_errors (message : String) (cause : Fault) (e : Ending) :
    (e.block message cause).countP (·.topic = .error) = if e.fails then 1 else 0 := by
  cases e <;> rfl

end Ending

namespace Conductor

section Events

variable {D W : Type} {c : Conductor D W}

@[simp] theorem setStage_events (stage : Stage) (c : Conductor D W) :
    (c.setStage stage).out.events = c.out.events := by
  unfold setStage
  split <;> rfl

@[simp] theorem setStage_bus (stage : Stage) (c : Conductor D W) :
    (c.setStage stage).bus = c.bus := by
  unfold setStage
  split <;> rfl

theorem announce_events (hb : c.bus.Complete) :
    c.announce.out.events = c.out.events ++ [.parsing, .parsed, .rendering] := by
  unfold announce
  iterate 3 rw [emit_events (by simpa using hb), setStage_events]
  simp only [List.append_assoc, List.cons_append, List.nil_append]

theorem composeAndLoad_events [AudioDevice D] {source : String} {score : Score}
    (h : Score.ofText source = .ok score) (hb : c.bus.Complete) :
    (c.composeAndLoad source).2.out.events = c.out.events ++ [.parsing, .parsed, .rendering] := by
  have ha (c : Conductor D W) (device : D) (notes : List Note) :
      ({ c with device }.addNotes notes).out.events = c.out.events := rfl
  rw [composeAndLoad_eq h]
  dsimp only
  rw [ha, announce_events hb]

theorem keep_events [AudioDevice D] (r : Rendering) (source : String) (hb : c.bus.Complete) :
    (c.keep r source).out.events = c.out.events ++ [.rendered, .changed false] := by
  let kept : Conductor D W := { c with rendering := some r, source := some source }
  have ho : kept.observe.out = c.out ∧ kept.observe.bus = c.bus := by
    unfold observe
    split <;> exact ⟨rfl, rfl⟩
  have hb' : kept.observe.bus.Complete := by
    rw [ho.2]
    exact hb
  unfold keep
  rw [emit_events (by simpa using hb'), emit_events (by simpa using hb'), setStage_events, ho.1,
    List.append_assoc]
  rfl

end Events

variable {W : Type} [FileStore W] {c : Conductor SilentDevice W}

/-- How a request for a rendering would end now. -/
def ending (c : Conductor SilentDevice W) : Ending :=
  match c.activeFile with
  | none => .unselected
  | some file =>
    if c.rendering.isSome ∧ c.source = some file.source then .live
    else if c.device.failsNextStart then .refused
    else .ofSource c.libraries c.settings.defaultLibrary file.source

theorem due?_eq {file : ScoreFile} (h : c.activeFile = some file) :
    c.due? =
      if c.rendering.isSome ∧ c.source = some file.source then none else some file.source := by
  simp [due?, changed, h]

theorem ending_of_not_due (h : c.due? = none) :
    c.ending = if c.activeFile.isSome then .live else .unselected := by
  cases hf : c.activeFile with
  | none => rw [ending, hf]; rfl
  | some file =>
    have hl := due?_eq hf
    rw [h] at hl
    rw [ending, hf]
    split at hl
    · next hl' => exact if_pos hl'
    · cases hl

theorem ending_of_due {source : String} (h : c.due? = some source) :
    c.ending =
      if c.device.failsNextStart then .refused
      else .ofSource c.libraries c.settings.defaultLibrary source := by
  cases hf : c.activeFile with
  | none => rw [due?, hf] at h; cases h
  | some file =>
    have hl := due?_eq hf
    rw [h] at hl
    rw [ending, hf]
    split at hl
    · cases hl
    · next hl' =>
      cases hl
      exact if_neg hl'

/-! ### Making sure of a rendering -/

omit [FileStore W] in
theorem renderAfresh_ofSource (source : String) (hb : c.bus.Complete)
    (lends : c.device.failsNextStart = false) :
    (Ending.ofSource c.libraries c.settings.defaultLibrary source).fails =
        !(c.renderAfresh source).1.isOk ∧
      (c.renderAfresh source).2.out.events = c.out.events ++
        (Ending.ofSource c.libraries c.settings.defaultLibrary source).announced := by
  have hx : c.exchange.bus.Complete := hb
  have hs (d : Conductor SilentDevice W) : (d.release.setStage .idle).out.events = d.out.events :=
    setStage_events .idle _
  rw [renderAfresh_lent source lends]
  cases ht : Score.ofText source with
  | error f =>
    rw [Ending.ofSource_unreadable _ _ ht, composeAndLoad_unreadable _ ht]
    dsimp only
    rw [hs, emit_events (by simpa using hx), setStage_events]
    exact ⟨rfl, rfl⟩
  | ok score =>
    have hev : (c.exchange.composeAndLoad source).2.out.events =
        c.out.events ++ [.parsing, .parsed, .rendering] := composeAndLoad_events ht hx
    have hm : Yields [.composer] (D := SilentDevice) (W := W) (composeAndLoad source) :=
      Reports.composeAndLoad source (by decide)
    have hbus : (c.exchange.composeAndLoad source).2.bus.Complete := by
      rw [hm.reports.bus c.exchange]
      exact hb
    rw [Ending.ofSource_readable _ _ ht]
    cases hr : Score.realize c.libraries c.settings.defaultLibrary source with
    | error f =>
      rw [(composeAndLoad_error c.exchange hr).1]
      exact ⟨rfl, (hs _).trans hev⟩
    | ok r =>
      rw [(composeAndLoad_ok c.exchange rfl hr).1]
      refine ⟨rfl, ?_⟩
      dsimp only
      rw [keep_events r source hbus, hev, List.append_assoc]
      rfl

/-- Making sure of a rendering ends as it would, with what that ending announces. -/
theorem ensureRendered_ending (hb : c.bus.Complete) :
    c.ending.fails = !c.ensureRendered.1.isOk ∧
      c.ensureRendered.2.out.events = c.out.events ++ c.ending.announced := by
  cases h : c.due? with
  | none =>
    rw [ending_of_not_due h]
    cases hf : c.activeFile with
    | none =>
      rw [ensureRendered_unselected hf]
      exact ⟨rfl, (List.append_nil _).symm⟩
    | some file =>
      rw [ensureRendered_live hf h]
      exact ⟨rfl, (List.append_nil _).symm⟩
  | some source =>
    rw [ensureRendered_due h, ending_of_due h]
    cases hr : c.device.failsNextStart with
    | true =>
      rw [renderAfresh_refused source hr]
      exact ⟨rfl, (List.append_nil _).symm⟩
    | false => exact renderAfresh_ofSource source hb hr

/-! ### Rendering and playing -/

/-- A failure to render and a failure to play have one cause. -/
theorem render_play_events (hb : c.bus.Complete) :
    ∃ cause,
      c.render.out.events = c.out.events ++ c.ending.block "Unable to render this file." cause ∧
        c.play.out.events = c.out.events ++ c.ending.block "Unable to play this file." cause := by
  obtain ⟨hok, hev⟩ := ensureRendered_ending hb
  have hm : Yields [.composer, .changed] (D := SilentDevice) (W := W) ensureRendered :=
    Reports.ensureRendered (by decide) (by decide)
  have hbus : c.ensureRendered.2.bus.Complete := by
    rw [hm.reports.bus c]
    exact hb
  simp only [Ending.block_eq]
  cases h : c.ensureRendered.1 with
  | error f =>
    have hf : c.ending.fails = true := by rw [hok, h]; rfl
    refine ⟨f, ?_, ?_⟩
    · rw [render_failed h, report_events hbus, hev, hf, if_pos rfl, List.append_assoc]
    · rw [play_failed h, report_events hbus, hev, hf, if_pos rfl, List.append_assoc]
  | ok u =>
    have hf : c.ending.fails = false := by rw [hok, h]; rfl
    have hp : AudioDevice.play c.ensureRendered.2.device =
        (.ok (), c.ensureRendered.2.device.play) := rfl
    refine ⟨.nothingSelected, ?_, ?_⟩
    · rw [render_done h, hev, hf, if_neg nofun, List.append_nil]
    · rw [play_started h hp, setStage_events, hf, if_neg nofun, List.append_nil]
      exact hev

/-- The transport starts just when nothing failed, and nothing else moves it. -/
theorem play_device (hb : c.bus.Complete) :
    c.play.device = if c.ending.fails then c.render.device else c.render.device.play := by
  have hr (message : String) (f : Fault) (c : Conductor SilentDevice W) :
      (c.report message f).device = c.device := device_of_quiet (quiet_report message f c)
  have hs (c : Conductor SilentDevice W) : (c.setStage .playing).device = c.device :=
    device_of_quiet (d := { c with stage := .playing }) (quiet_setStage .playing c)
  obtain ⟨hok, -⟩ := ensureRendered_ending hb
  cases h : c.ensureRendered.1 with
  | error f =>
    have hf : c.ending.fails = true := by rw [hok, h]; rfl
    rw [play_failed h, render_failed h, hf, if_pos rfl, hr, hr]
  | ok u =>
    have hf : c.ending.fails = false := by rw [hok, h]; rfl
    have hp : AudioDevice.play c.ensureRendered.2.device =
        (.ok (), c.ensureRendered.2.device.play) := rfl
    rw [play_started h hp, render_done h, hf, if_neg nofun, hs]

/-! ### The transport -/

theorem refitted_render (c : Conductor SilentDevice W) : c.device.Refitted c.render.device := by
  have ensured : c.device.Refitted c.ensureRendered.2.device := by
    cases h : c.due? with
    | some source =>
      rw [ensureRendered_due h]
      exact refitted_renderAfresh source c
    | none =>
      rcases ensureRendered_not_due h with ⟨-, he⟩ | ⟨-, he⟩ <;>
      · rw [he]
        exact ⟨_, _, _, _, _, _, _, rfl⟩
  cases h : c.ensureRendered.1 with
  | error f =>
    rw [render_failed h, device_of_quiet (quiet_report ..)]
    exact ensured
  | ok u =>
    rw [render_done h]
    exact ensured

/-- Rendering does not move the transport. -/
theorem moves_render (c : Conductor SilentDevice W) :
    c.render.device.state = c.device.state ∧ c.render.device.events = c.device.events := by
  obtain ⟨_, _, _, _, _, _, _, h⟩ := refitted_render c
  rw [h]
  exact ⟨rfl, rfl⟩

/-! ### Whether a rendering becomes live -/

theorem due?_eq_none_iff : c.due? = none ↔ c.ending = .unselected ∨ c.ending = .live := by
  cases h : c.due? with
  | none =>
    rw [ending_of_not_due h]
    cases c.activeFile with
    | none => exact iff_of_true rfl (.inl rfl)
    | some file => exact iff_of_true rfl (.inr rfl)
  | some source =>
    refine iff_of_false nofun ?_
    rw [ending_of_due h]
    cases c.device.failsNextStart with
    | true => exact nofun
    | false =>
      rw [if_neg nofun]
      have hs := Ending.ofSource_cases c.libraries c.settings.defaultLibrary source
      rcases hs with he | he | he <;>
      · rw [he]
        exact nofun

/-- A render that is begun leaves a live rendering just when it succeeds. -/
theorem isSome_rendering {source : String} (h : c.due? = some source) :
    c.ensureRendered.2.rendering.isSome = c.ensureRendered.1.isOk := by
  have he := ensured c
  have hp : c.ensureRendered.2.rendering = c.ensureRendered.2.performance.rendering := rfl
  rw [hp]
  generalize c.ensureRendered.1 = result, c.ensureRendered.2.performance = p at he
  cases he with
  | refused => rfl
  | failed => rfl
  | rendered => rfl
  | unselected due => rw [h] at due; cases due
  | live due => rw [h] at due; cases due

end Conductor

/-! ### Runs -/

namespace Action

open Conductor (Reports emitted)

variable {W : Type} [FileStore W]

/-- The action asks for a rendering. -/
def asks : Action → Bool
  | render | play => true
  | _ => false

/-- The stages of composing that the action goes through. -/
def stages (a : Action) (c : Conductor SilentDevice W) : List Event :=
  if a.asks then c.ending.stages else []

/-- What the action may speak of. -/
def topics : Action → List Topic
  | render | play => [.error, .composer, .changed]
  | pause | save => [.error]
  | stop => [.error, .position]
  | dispatch => [.transport, .position]
  | addFile | destroyFile _ | selectFile _ => [.error, .file]
  | setSource _ => [.error, .file, .changed]
  | configure _ | failNextStart | advance _ | loop => []

theorem reports_perform (a : Action) : Reports a.topics (W := W) a.perform := by
  cases a with
  | render => exact .render (by decide) (by decide) (by decide)
  | play => exact .play (by decide) (by decide) (by decide)
  | pause => exact Reports.pause (D := SilentDevice) (by decide)
  | stop => exact Reports.stop (D := SilentDevice) (by decide) (by decide)
  | dispatch => exact .dispatch (by decide) (by decide)
  | addFile => exact .addFile (by decide) (by decide)
  | destroyFile uid => exact .destroyFile uid (.head _) (.tail _ (.head _))
  | selectFile uid => exact .selectFile uid (.head _) (.tail _ (.head _))
  | save => exact .save (by decide)
  | setSource source =>
    exact .setSource source (.head _) (.tail _ (.head _)) (.tail _ (.tail _ (.head _)))
  | configure change => exact .silent fun _ => ⟨rfl, rfl, rfl, rfl⟩
  | failNextStart => exact .silent fun _ => ⟨rfl, rfl, rfl, rfl⟩
  | advance p => exact .silent fun _ => ⟨rfl, rfl, rfl, rfl⟩
  | loop => exact .silent fun _ => ⟨rfl, rfl, rfl, rfl⟩

theorem bus_perform (a : Action) (c : Conductor SilentDevice W) : (a.perform c).bus = c.bus :=
  a.reports_perform.bus c

theorem complete_perform (a : Action) {c : Conductor SilentDevice W} (h : c.bus.Complete) :
    (a.perform c).bus.Complete := by
  rw [a.bus_perform]
  exact h

theorem transport_not_mem_topics {a : Action} (h : a ≠ .dispatch) : .transport ∉ a.topics := by
  cases a with
  | dispatch => exact absurd rfl h
  | _ => simp [topics]

/-- Asking for a rendering emits the block of its ending. -/
theorem emitted_of_asks {a : Action} (h : a.asks = true) {c : Conductor SilentDevice W}
    (hb : c.bus.Complete) :
    ∃ message cause, emitted a.perform c = c.ending.block message cause := by
  obtain ⟨cause, hrender, hplay⟩ := Conductor.render_play_events hb
  have hr := a.reports_perform.events c hb
  cases a with
  | render => exact ⟨_, cause, List.append_cancel_left (hr.symm.trans hrender)⟩
  | play => exact ⟨_, cause, List.append_cancel_left (hr.symm.trans hplay)⟩
  | _ => cases h

theorem rendering_perform {a : Action} (h : a.asks = true) (c : Conductor SilentDevice W) :
    (a.perform c).rendering = c.ensureRendered.2.rendering := by
  cases a with
  | render => exact congrArg Performance.rendering (Conductor.performance_render c)
  | play =>
    have hp := congrArg Performance.rendering (Conductor.performance_play c)
    refine hp.trans ?_
    cases c.ensureRendered.1 <;> rfl
  | _ => cases h

end Action

namespace Conductor

variable {W : Type} [FileStore W]

theorem complete_run (actions : List Action) {c : Conductor SilentDevice W}
    (h : c.bus.Complete) : (run actions c).bus.Complete :=
  run_keeps (P := fun c => c.bus.Complete) (fun a _ hc => a.complete_perform hc) actions h

/-- The actions of a run, each with the conductor that it meets. -/
def steps : List Action → Conductor SilentDevice W → List (Action × Conductor SilentDevice W)
  | [], _ => []
  | a :: as, c => (a, c) :: steps as (a.perform c)

end Conductor

end Studio
