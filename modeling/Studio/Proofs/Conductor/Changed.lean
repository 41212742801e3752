import Studio.Proofs.Conductor.Failures
import Studio.Proofs.Conductor.Live
import Studio.Proofs.Conductor.Repetition

/-! Whether the active file's source changed since it was rendered. The answer depends on the
files, the selection and the source of the live rendering alone, and it is told right: an
action that speaks of it does so once, when all that it depends on is settled. -/

namespace Studio

open Conductor (emitted)

namespace Conductor

/-! ### What the answer depends on -/

section Answer

variable {D W : Type} [FileStore W] {c d : Conductor D W}

theorem changed_of_activeFile {file : ScoreFile} (h : c.activeFile = some file) :
    c.changed = (c.source != some file.source) := by
  rw [changed, h]

theorem changed_congr (hdesk : d.desk = c.desk) (hsource : d.source = c.source) :
    d.changed = c.changed := by
  rw [changed, changed, activeFile_of_desk hdesk, hsource]

end Answer

section Rendered

variable {W : Type} [FileStore W] {c : Conductor SilentDevice W}

/-- Rendering and playing leave the answer that making sure of a rendering gives. -/
theorem changed_of_asks {a : Action} (h : a.asks = true) (c : Conductor SilentDevice W) :
    (a.perform c).changed = c.ensureRendered.2.changed := by
  cases a with
  | render =>
    have hsource := congrArg Performance.source (performance_render c)
    exact changed_congr ((desk_render c).trans (desk_ensureRendered c).symm) hsource
  | play =>
    have hsource : c.play.source = c.ensureRendered.2.source := by
      refine (congrArg Performance.source (performance_play c)).trans ?_
      cases c.ensureRendered.1 <;> rfl
    exact changed_congr ((desk_play c).trans (desk_ensureRendered c).symm) hsource
  | _ => cases h

theorem changed_of_ok (h : c.ensureRendered.1 = .ok ()) : c.ensureRendered.2.changed = false := by
  obtain ⟨file, hf, -, hs⟩ := ensureRendered_leaves_live h
  rw [changed_of_activeFile hf, hs, bne_self_eq_false]

/-- A failure with a file selected gives the live rendering up, whatever its source was. -/
theorem changed_of_error {f : Fault} {file : ScoreFile} (h : c.ensureRendered.1 = .error f)
    (hf : c.activeFile = some file) : c.ensureRendered.2.changed = true := by
  have he := ensured c
  have hsource : c.ensureRendered.2.source = none := by
    have hp : c.ensureRendered.2.source = c.ensureRendered.2.performance.source := rfl
    rw [h] at he
    rw [hp]
    generalize c.ensureRendered.2.performance = p at he
    cases he with
    | refused => rfl
    | failed => rfl
    | unselected _ active =>
      rw [hf] at active
      cases active
  rw [changed_of_activeFile ((activeFile_of_desk (desk_ensureRendered c)).trans hf), hsource]
  rfl

end Rendered

/-! ### How the answer is told -/

section Kept

variable {D W : Type} [AudioDevice D]

/-- The conductor that has made a rendering live and is about to say that nothing changed. -/
def held (r : Rendering) (source : String) (c : Conductor D W) : Conductor D W :=
  ({ c with rendering := some r, source := some source }.observe.setStage .rendered).emit .rendered

theorem keep_eq (r : Rendering) (source : String) (c : Conductor D W) :
    c.keep r source = (c.held r source).emit (.changed false) := rfl

/-- A rendering afresh that succeeds has a buffer lent and a rendering made, and keeps it. -/
theorem exists_kept {c : Conductor D W} {source : String}
    (h : (c.renderAfresh source).1 = .ok ()) :
    ∃ device r, AudioDevice.start c.release.device = (.ok (), device) ∧
      ({ c.release with device }.composeAndLoad source).1 = .ok r ∧
      (c.renderAfresh source).2 =
        ({ c.release with device }.composeAndLoad source).2.keep r source := by
  cases hs : AudioDevice.start c.release.device with
  | mk result device =>
    cases result with
    | error f =>
      rw [renderAfresh_noBuffer hs] at h
      cases h
    | ok u =>
      cases hm : ({ c.release with device }.composeAndLoad source).1 with
      | error f =>
        rw [renderAfresh_failed hs hm] at h
        cases h
      | ok r =>
        have hdone := renderAfresh_done hs hm
        exact ⟨device, r, rfl, hm, by rw [hdone]⟩

end Kept

section Told

variable {W : Type} [FileStore W] {c : Conductor SilentDevice W}

/-- The state in which an action is about to say whether the source changed: the active file
has been updated, or a rendering of it is live. -/
inductive Tells (c : Conductor SilentDevice W) : Action → Conductor SilentDevice W → Prop
  | updated {uid : Nat} {source : String} {file : ScoreFile} {store : W}
      (selected : c.selected = some uid)
      (update : FileStore.update uid source c.store = (.ok file, store)) :
      Tells c (.setSource source) ({ c with store }.emit (.fileUpdated file))
  | rendered {a : Action} {source : String} {r : Rendering} {device : SilentDevice}
      (asks : a.asks = true) (due : c.due? = some source)
      (lent : AudioDevice.start c.release.device = (.ok (), device))
      (made : ({ c.release with device }.composeAndLoad source).1 = .ok r) :
      Tells c a (({ c.release with device }.composeAndLoad source).2.held r source)

end Told

end Conductor

/-! ### Who speaks of it -/

theorem Ending.changed_mem_block {message : String} {cause : Fault} {e : Ending} {b : Bool}
    (h : .changed b ∈ e.block message cause) : e = .rendered ∧ b = false := by
  cases e <;> simp_all [block]

namespace Action

variable {W : Type} [FileStore W] {c : Conductor SilentDevice W} {a : Action}

/-- What an action still does when it has said whether the source changed. -/
def afterwards : Action → Conductor SilentDevice W → Conductor SilentDevice W
  | play, c => { c with device := c.device.play }.setStage .playing
  | _, c => c

theorem changed_afterwards (a : Action) (c : Conductor SilentDevice W) :
    (a.afterwards c).changed = c.changed := by
  cases a with
  | play =>
    have hplay (d : Conductor SilentDevice W) :
        (d.setStage .playing).changed = { d with stage := .playing }.changed :=
      Conductor.eq_of_quiet (fun _ => rfl) (Conductor.quiet_setStage .playing d)
    rw [afterwards, hplay]
    rfl
  | _ => rfl

theorem changed_not_mem_topics (ha : a.asks = false) (hs : ∀ source, a ≠ .setSource source) :
    .changed ∉ a.topics := by
  cases a with
  | render | play => cases ha
  | setSource source => exact absurd rfl (hs source)
  | _ => simp [topics]

/-- The action says whether the source changed: once, as it is at that moment, and so that
it is still true in the end. -/
structure Speaks (a : Action) (c : Conductor SilentDevice W) (b : Bool) : Prop where
  once : ∃ es, emitted a.perform c = es ++ [.changed b] ∧ ∀ e ∈ es, e.topic ≠ .changed
  moment : ∃ d, c.Tells a d ∧ a.perform c = a.afterwards (d.emit (.changed b)) ∧ d.changed = b
  lasting : (a.perform c).changed = b

theorem speaks_setSource {source : String} {b : Bool}
    (h : .changed b ∈ emitted (setSource source).perform c) : (setSource source).Speaks c b := by
  have refused {message : String} {cause : Fault}
      (he : emitted (setSource source).perform c = [.error message cause]) : False := by
    rw [he] at h
    simp at h
  rcases Option.eq_none_or_eq_some c.selected with hs | ⟨uid, hs⟩
  · exact (refused (Conductor.emitted_setSource_unselected hs)).elim
  · cases hu : FileStore.update uid source c.store with
    | mk result store =>
      cases result with
      | error f => exact (refused (Conductor.emitted_setSource_refused hs hu)).elim
      | ok file =>
        have he : emitted (setSource source).perform c =
            [.fileUpdated file] ++ [.changed { c with store }.changed] :=
          Conductor.emitted_setSource_updated hs hu
        have hp : (setSource source).perform c = _ := Conductor.setSource_updated hs hu
        have hb : b = { c with store }.changed := by
          rw [he] at h
          simpa using h
        subst hb
        refine ⟨⟨_, he, by simp [Event.topic]⟩, ⟨_, .updated hs hu, hp, ?_⟩, ?_⟩
        · exact Conductor.changed_emit _ _
        · rw [hp, Conductor.changed_emit, Conductor.changed_emit]

theorem speaks_of_asks (ha : a.asks = true) (hb : c.bus.Complete) {b : Bool}
    (h : .changed b ∈ emitted a.perform c) : a.Speaks c b := by
  obtain ⟨message, cause, he⟩ := emitted_of_asks ha hb
  obtain ⟨hending, rfl⟩ := Ending.changed_mem_block (he ▸ h)
  let composing : List Event := [.parsing, .parsed, .rendering, .rendered]
  replace he : emitted a.perform c = composing ++ [.changed false] := by rw [he, hending]; rfl
  have hok : c.ensureRendered.1 = .ok () :=
    Conductor.ensureRendered_ok_of_asks ha hb (by rw [fails, he]; rfl)
  obtain ⟨source, due⟩ : ∃ source, c.due? = some source := by
    cases hd : c.due? with
    | some source => exact ⟨source, rfl⟩
    | none =>
      rw [Conductor.due?_eq_none_iff, hending] at hd
      rcases hd with hd | hd <;> cases hd
  have hafresh := Conductor.ensureRendered_due due
  obtain ⟨device, r, lent, made, hkept⟩ := Conductor.exists_kept (hafresh ▸ hok)
  have hp : a.perform c = a.afterwards (({ c.release with device }.composeAndLoad source).2.held r
      source |>.emit (.changed false)) := by
    rw [← Conductor.keep_eq, ← hkept, ← hafresh]
    cases a with
    | render => exact Conductor.render_done hok
    | play => exact Conductor.play_started hok rfl
    | _ => cases ha
  have lasting : (a.perform c).changed = false := by
    rw [Conductor.changed_of_asks ha, Conductor.changed_of_ok hok]
  refine ⟨⟨_, he, by simp [composing, Event.topic]⟩, ⟨_, .rendered ha due lent made, hp, ?_⟩, lasting⟩
  rw [hp, changed_afterwards, Conductor.changed_emit] at lasting
  exact lasting

/-- No action says it otherwise. -/
theorem speaks_of_mem (hb : c.bus.Complete) {b : Bool} (h : .changed b ∈ emitted a.perform c) :
    a.Speaks c b := by
  have htopic : .changed ∈ a.topics := a.reports_perform.about c _ h
  cases ha : a.asks with
  | true => exact speaks_of_asks ha hb h
  | false =>
    by_cases hs : ∃ source, a = .setSource source
    · obtain ⟨source, rfl⟩ := hs
      exact speaks_setSource h
    · exact absurd htopic (changed_not_mem_topics ha fun source he => hs ⟨source, he⟩)

end Action

namespace Conductor

/-! ### What is live -/

section Live

variable {W : Type} [FileStore W] {start : Conductor SilentDevice W} {actions : List Action}

/-- What is live after the run is a rendering of this source: the last one begun, and what came
of the source with the default library that was set then. -/
def LiveFrom (start : Conductor SilentDevice W) (actions : List Action) (source : String) : Prop :=
  ∃ before a after r, LastBegun start actions before a after source ∧
    (run actions start).rendering = some r ∧
    Score.realize start.libraries (run before start).settings.defaultLibrary source = .ok r

theorem source_eq_some_iff (hnone : start.rendering = none) (hc : start.performance.Coherent)
    {source : String} :
    (run actions start).source = some source ↔ LiveFrom start actions source := by
  constructor
  · intro hs
    have live : (run actions start).source.isSome = (run actions start).rendering.isSome :=
      (coherent_run actions hc).source
    rw [hs, Option.isSome_some, eq_comm, Option.isSome_iff_exists] at live
    obtain ⟨r, hr⟩ := live
    obtain ⟨before, a, after, source', hl, hs', made⟩ := exists_lastBegun_of_live hnone hr
    rw [hs] at hs'
    cases hs'
    exact ⟨before, a, after, r, hl, hr, made⟩
  · rintro ⟨before, a, after, r, hl, hr, -⟩
    obtain ⟨before', a', after', source', hl', hs', -⟩ := exists_lastBegun_of_live hnone hr
    obtain ⟨rfl, rfl, -⟩ := hl.unique hl'
    rw [hs', ← hl'.begun, hl.begun]

theorem changed_iff_not_liveFrom (hnone : start.rendering = none)
    (hc : start.performance.Coherent) :
    (run actions start).changed = true ↔
      ∃ file, (run actions start).activeFile = some file ∧
        ¬ LiveFrom start actions file.source := by
  cases hf : (run actions start).activeFile with
  | none =>
    rw [changed, hf]
    refine iff_of_false Bool.false_ne_true ?_
    rintro ⟨file, hfile, -⟩
    cases hfile
  | some file =>
    rw [changed_of_activeFile hf, bne_iff_ne, Ne, source_eq_some_iff hnone hc]
    simp

end Live

/-! ### Who leaves it alone -/

/-- Halting, dispatching and saving leave the answer as it is. -/
theorem changed_of_still {a : Action} (h : a ∈ [Action.pause, .stop, .dispatch, .save])
    (c : Conductor SilentDevice Workspace) : (a.perform c).changed = c.changed := by
  have hsource {b : Action} (hb : b.begun? c = none) : (b.perform c).source = c.source :=
    ((effect b c).rest hb).rendering_eq.2
  simp only [List.mem_cons, List.not_mem_nil, or_false] at h
  rcases h with rfl | rfl | rfl | rfl
  · exact changed_congr (desk_pause c) (hsource rfl)
  · exact changed_congr (desk_stop c) (hsource rfl)
  · exact changed_congr (desk_dispatch c) (hsource rfl)
  -- A workspace that is saved has another text to show but the same files.
  · have saved : FileStore.save c.store = (.ok (), c.store.save) := rfl
    rw [show Action.save.perform c = c.save from rfl, save_done saved]
    rfl

theorem SelectsFile.selected_iff {D : Type} {c : Conductor D Workspace} (h : c.SelectsFile) :
    c.selected ≠ none ↔ ∃ file, c.activeFile = some file := by
  rw [activeFile]
  cases hs : c.selected with
  | none =>
    refine iff_of_false (· rfl) ?_
    rintro ⟨file, hfile⟩
    cases hfile
  | some uid =>
    have hfile : (c.store.file? uid).isSome = true :=
      Workspace.file?_isSome.2 (List.mem_map.1 (h uid hs))
    exact iff_of_true (Option.some_ne_none uid) (Option.isSome_iff_exists.1 hfile)

/-- Whether the active file's source changed is told right. In any run from a device that nobody
has used, an action that says so says it once, and it is true then and when the action ends.
After rendering and playing nothing has changed if they went well, and all has if they failed
over a file, whatever was rendered before. The answer is yes just when a file is selected and
what is live, if anything is, is not a rendering of its source. -/
theorem changed_told_right (settings : Settings) (libraries : List Library) (random : Random)
    (w : Workspace) (listeners : Channel → List Nat) (actions : List Action) :
    let start : Conductor SilentDevice Workspace :=
      { launch settings libraries random w with
        bus := ⟨Channel.all.map fun channel => (channel, listeners channel)⟩ }
    let c := run actions start
    (∀ a : Action,
      (a.perform c).out.events = c.out.events ++ emitted a.perform c ∧
        ∀ b, .changed b ∈ emitted a.perform c → a.Speaks c b) ∧
      (∀ a : Action, a.asks = true →
        (a.fails c = false → (a.perform c).changed = false) ∧
          (a.fails c = true → c.selected ≠ none → (a.perform c).changed = true)) ∧
      (c.changed = true ↔
        ∃ file, c.activeFile = some file ∧ ¬ LiveFrom start actions file.source) ∧
      (c.selected ≠ none ↔ ∃ file, c.activeFile = some file) ∧
      ∀ a ∈ [Action.pause, .stop, .dispatch, .save], (a.perform c).changed = c.changed := by
  intro start c
  have hb : c.bus.Complete := complete_run actions (Bus.complete_all listeners)
  have hcoherent : start.performance.Coherent := coherent_launch settings libraries random w
  have hc : c.SelectsFile :=
    run_keeps (P := fun c => c.SelectsFile) (fun a _ h => h.perform a) actions nofun
  refine ⟨fun a => ⟨a.reports_perform.events c hb, fun b hm => Action.speaks_of_mem hb hm⟩,
    fun a ha => ⟨fun silent => ?_, fun hf hs => ?_⟩, changed_iff_not_liveFrom rfl hcoherent,
    hc.selected_iff, fun a ha => changed_of_still ha c⟩
  · rw [changed_of_asks ha, changed_of_ok (ensureRendered_ok_of_asks ha hb silent)]
  · obtain ⟨file, hfile⟩ := hc.selected_iff.1 hs
    rw [changed_of_asks ha]
    cases he : c.ensureRendered.1 with
    | error f => exact changed_of_error he hfile
    | ok u =>
      rw [fails_of_asks ha hb, (ensureRendered_ending hb).1, he] at hf
      cases hf

/-- A source that was rendered before is refused its buffer: it counts as changed then, and to
set it again says so. -/
theorem changed_after_refusal :
    let c :=
      run [.addFile, .render, .setSource "x", .render, .setSource "{}", .failNextStart] novice
    Action.render.fails c = true ∧ c.selected ≠ none ∧ (Action.render.perform c).changed = true ∧
      (Action.setSource "{}").Speaks c true := by
  intro c
  obtain ⟨spoken, asked, -⟩ := changed_told_right {} novice.libraries ⟨1⟩ ({} : Workspace)
    (fun _ => []) [.addFile, .render, .setSource "x", .render, .setSource "{}", .failNextStart]
  have fails : Action.render.fails c = true := by decide +kernel
  have selected : c.selected ≠ none := by decide +kernel
  have said : .changed true ∈ emitted (Action.setSource "{}").perform c := by decide +kernel
  exact ⟨fails, selected, (asked .render rfl).2 fails selected, (spoken _).2 true said⟩

end Conductor

end Studio
