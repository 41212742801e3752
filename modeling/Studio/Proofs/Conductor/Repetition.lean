import Studio.Proofs.Conductor.Filing
import Studio.Proofs.Conductor.Relay

/-! Rendering twice. Once a rendering has succeeded, the active file's source is the one that
is live, so no other is due: to ask again leaves a note and nothing else, and to play starts
the transport on what is there. It is all one whether the rendering was made afresh or was
live already. -/

namespace Studio.Conductor

/-! ### But for the notes -/

section Notes

variable {D W : Type}

/-- The conductor without its notes. -/
def unnoted (c : Conductor D W) : Conductor D W := { c with out := { c.out with notes := [] } }

theorem unnoted_say (level : Level) (text : String) (c : Conductor D W) :
    (c.say level text).unnoted = c.unnoted := rfl

theorem unnoted_setStage (stage : Stage) (c : Conductor D W) :
    (c.setStage stage).unnoted = { c.unnoted with stage } := by
  unfold setStage
  split
  · next h => rw [h]; rfl
  · rfl

end Notes

/-! ### What a success leaves -/

variable {W : Type} [FileStore W] {c : Conductor SilentDevice W}

/-- After a success the active file's source is live. -/
theorem ensureRendered_leaves_live (h : c.ensureRendered.1 = .ok ()) :
    ∃ file, c.ensureRendered.2.activeFile = some file ∧
      c.ensureRendered.2.rendering.isSome = true ∧
      c.ensureRendered.2.source = some file.source := by
  have he := ensured c
  have hfile : c.ensureRendered.2.activeFile = c.activeFile :=
    activeFile_of_desk (desk_ensureRendered c)
  rw [h] at he
  rw [hfile]
  generalize hp : c.ensureRendered.2.performance = p at he
  have hrendering : c.ensureRendered.2.rendering = p.rendering := congrArg Performance.rendering hp
  have hsource : c.ensureRendered.2.source = p.source := congrArg Performance.source hp
  rw [hrendering, hsource]
  cases he with
  | rendered observer due =>
    obtain ⟨file, hf, hs⟩ := Option.bind_eq_some_iff.1 due
    refine ⟨file, hf, rfl, ?_⟩
    split at hs
    · cases hs
    · exact hs.symm
  | live due live =>
    cases hf : c.activeFile with
    | none =>
      rw [ensureRendered_unselected hf] at h
      cases h
    | some file =>
      rw [due?_eq hf] at due
      split at due
      · next hl => exact ⟨file, rfl, hl⟩
      · cases due

/-- Rendering and playing that report no error have made sure of a rendering. -/
theorem ensureRendered_ok_of_asks {a : Action} (ha : a.asks = true) (hb : c.bus.Complete)
    (silent : a.fails c = false) : c.ensureRendered.1 = .ok () := by
  rw [fails_of_asks ha hb, (ensureRendered_ending hb).1, Bool.not_eq_false'] at silent
  cases h : c.ensureRendered.1 with
  | ok u => rfl
  | error f =>
    rw [h] at silent
    cases silent

/-- So to make sure of it once more leaves a note alone. -/
theorem ensureRendered_after_render (h : c.ensureRendered.1 = .ok ()) :
    c.render.ensureRendered =
      (.ok (), c.render.say .info "source unchanged; reusing the rendered graph") := by
  obtain ⟨file, hf, hlive⟩ := ensureRendered_leaves_live h
  rw [render_done h]
  exact ensureRendered_live hf (by rw [due?_eq hf, if_pos hlive])

theorem render_twice (h : c.ensureRendered.1 = .ok ()) :
    c.render.render = c.render.say .info "source unchanged; reusing the rendered graph" := by
  have again := ensureRendered_after_render h
  rw [render_done (congrArg Prod.fst again), again]

/-- The transport starts in the same state. -/
theorem play_after_render (h : c.ensureRendered.1 = .ok ()) :
    c.render.play.unnoted = c.play.unnoted := by
  have starts (d : Conductor SilentDevice W) :
      AudioDevice.play d.device = (.ok (), d.device.play) := rfl
  have again := ensureRendered_after_render h
  rw [play_started (congrArg Prod.fst again) (starts _), play_started h (starts _), again,
    render_done h, unnoted_setStage, unnoted_setStage]
  rfl

/-- Rendering is done with after it succeeds. In any state that can be reached, if to render
reports no error then to render again emits nothing and leaves everything as it is but for a
note, and to play there, with or without rendering first, comes to the same: the same events,
deliveries, stage, rendering, observer and device. -/
theorem render_once_is_enough (settings : Settings) (libraries : List Library)
    (device : SilentDevice) (random : Random) (store : W) (listeners : Channel → List Nat)
    (actions : List Action) :
    let start : Conductor SilentDevice W :=
      { settings, libraries, device, random, store
        bus := ⟨Channel.all.map fun channel => (channel, listeners channel)⟩ }
    let c := run actions start
    c.render.out.events = c.out.events ++ emitted Action.render.perform c ∧
      (Action.render.fails c = false →
        emitted Action.render.perform c.render = [] ∧
          c.render.render.unnoted = c.render.unnoted ∧
          c.render.play.unnoted = c.play.unnoted) := by
  intro start c
  have hb : c.bus.Complete := complete_run actions (Bus.complete_all listeners)
  refine ⟨Action.render.reports_perform.events c hb, fun silent => ?_⟩
  have hok := ensureRendered_ok_of_asks rfl hb silent
  refine ⟨?_, by rw [render_twice hok, unnoted_say], play_after_render hok⟩
  have hb' : c.render.bus.Complete := Action.render.complete_perform hb
  have hr : c.render.render.out.events = c.render.out.events ++ _ :=
    Action.render.reports_perform.events c.render hb'
  have hout : c.render.render.out.events = c.render.out.events := by
    rw [render_twice hok]
    rfl
  exact List.self_eq_append_right.1 (hout.symm.trans hr)

/-- While a piece plays, a second file of the same source is selected: to render is to make use
of what is live, and to play starts the transport again. -/
theorem play_on_with_twin_file :
    let c := run [.addFile, .play, .addFile] novice
    c.stage = .playing ∧ c.selected = some 2 ∧ Action.render.fails c = false ∧
      c.render.render.unnoted = c.render.unnoted ∧ c.render.play.unnoted = c.play.unnoted := by
  intro c
  obtain ⟨-, settled⟩ := render_once_is_enough {} novice.libraries {} ⟨1⟩ ({} : Workspace)
    (fun _ => []) [.addFile, .play, .addFile]
  have silent : Action.render.fails c = false := by decide +kernel
  exact ⟨by decide +kernel, by decide +kernel, silent, (settled silent).2⟩

end Studio.Conductor
