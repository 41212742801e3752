import Studio.Proofs.Conductor.Stage

/-! The transport against the live rendering. Starting the transport takes a live
rendering, and only pausing and stopping halt it. So it runs on without a rendering,
and without a buffer, just when a render failed while it was playing and nobody has
paused or stopped it since. -/

namespace Studio.Conductor

variable {W : Type}

/-- With nothing live, an action that begins no render starts no transport, and pausing
and stopping halt it. -/
theorem Rest.playing_iff {a : Action} {c : Conductor SilentDevice W} {p : Performance}
    (h : Rest c a p) (hr : c.rendering = none) :
    p.transport = .playing ↔ c.device.state = .playing ∧ a ≠ .pause ∧ a ≠ .stop := by
  cases h with
  | resumed live => rw [hr] at live; cases live
  | paused => exact iff_of_false nofun (fun hp => hp.2.1 rfl)
  | stopped => exact iff_of_false nofun (fun hp => hp.2.2 rfl)
  | kept not_pause not_stop => exact (and_iff_left ⟨not_pause, not_stop⟩).symm

/-- A render begun that leaves nothing live leaves the transport as it was. -/
theorem Outcome.transport_eq {a : Action} {c : Conductor SilentDevice W} {p : Performance}
    {source : String} (h : Outcome c source a p) (hr : p.rendering = none) :
    p.transport = c.device.state := by
  cases h with
  | refused => rfl
  | failed => rfl
  | rendered => cases hr
  | started => cases hr

variable [FileStore W]

theorem NoneBegun.playing_iff {as : List Action} {c : Conductor SilentDevice W}
    (h : NoneBegun as c) (hr : c.rendering = none) :
    (run as c).device.state = .playing ↔
      c.device.state = .playing ∧ Action.pause ∉ as ∧ Action.stop ∉ as := by
  induction as generalizing c with
  | nil => simp
  | cons a as ih =>
    obtain ⟨ha, hs⟩ := noneBegun_cons.1 h
    have hrest := (effect a c).rest ha
    have hr' : (a.perform c).rendering = none := hrest.rendering_eq.1.trans hr
    have hp : (a.perform c).device.state = .playing ↔
        c.device.state = .playing ∧ a ≠ .pause ∧ a ≠ .stop := hrest.playing_iff hr
    rw [run_cons, ih hs hr', hp, List.mem_cons, List.mem_cons, not_or, not_or]
    constructor
    · rintro ⟨⟨hplays, hpause, hstop⟩, hpauses, hstops⟩
      exact ⟨hplays, ⟨hpause.symm, hpauses⟩, hstop.symm, hstops⟩
    · rintro ⟨hplays, ⟨hpause, hpauses⟩, hstop, hstops⟩
      exact ⟨⟨hplays, Ne.symm hpause, Ne.symm hstop⟩, hpauses, hstops⟩

/-- The last render begun in the run failed while the transport was playing, and
neither pause nor stop came after it. -/
def RunsOn (c : Conductor SilentDevice W) (actions : List Action) : Prop :=
  ∃ before a after source, LastBegun c actions before a after source ∧
    (run before c).device.state = .playing ∧ (a.perform (run before c)).rendering = none ∧
    Action.pause ∉ after ∧ Action.stop ∉ after

theorem RunsOn.rendering {actions : List Action} {c : Conductor SilentDevice W}
    (h : RunsOn c actions) : (run actions c).rendering = none := by
  obtain ⟨before, a, after, source, hl, -, hr, -⟩ := h
  rw [hl.run_eq, hl.none_later.rendering_eq.1]
  exact hr

theorem RunsOn.playing {actions : List Action} {c : Conductor SilentDevice W}
    (h : RunsOn c actions) : (run actions c).device.state = .playing := by
  obtain ⟨before, a, after, source, hl, hp, hr, halts⟩ := h
  have ht : (a.perform (run before c)).device.state = (run before c).device.state :=
    ((effect a (run before c)).outcome hl.begun).transport_eq hr
  rw [hl.run_eq, hl.none_later.playing_iff hr, ht]
  exact ⟨hp, halts⟩

/-- A transport that plays with nothing live runs on after a failed render. -/
theorem runsOn_of_playing {actions : List Action} {c : Conductor SilentDevice W}
    (hr : c.rendering = none) (hs : c.device.state ≠ .playing)
    (hn : (run actions c).rendering = none) (hp : (run actions c).device.state = .playing) :
    RunsOn c actions := by
  rcases noneBegun_or_lastBegun actions c with hnone | ⟨before, a, after, source, hl⟩
  · exact absurd ((hnone.playing_iff hr).1 hp).1 hs
  · rw [hl.run_eq] at hn hp
    have ha : (a.perform (run before c)).rendering = none :=
      hl.none_later.rendering_eq.1.symm.trans hn
    have ht : (a.perform (run before c)).device.state = (run before c).device.state :=
      ((effect a (run before c)).outcome hl.begun).transport_eq ha
    obtain ⟨hstate, halts⟩ := (hl.none_later.playing_iff ha).1 hp
    exact ⟨before, a, after, source, hl, ht ▸ hstate, ha, halts⟩

/-- The transport plays only while a rendering is live and its buffer held, unless it
runs on after a failed render; then it plays without either. -/
theorem playing_only_when_live_iff_not_runsOn (settings : Settings) (libraries : List Library)
    (random : Random) (store : W) (actions : List Action) :
    let start := launch settings libraries random store
    let c := run actions start
    ((c.device.state = .playing → c.rendering.isSome = true ∧ c.device.hasBuffer = true) ↔
        ¬ RunsOn start actions) ∧
      (RunsOn start actions →
        c.device.state = .playing ∧ c.rendering = none ∧ c.device.hasBuffer = false) := by
  intro start c
  have hc : c.performance.Coherent :=
    coherent_run actions (coherent_launch settings libraries random store)
  have hbuffer : c.device.hasBuffer = c.rendering.isSome := hc.buffer
  have hstart : start.device.state ≠ .playing := by
    show TransportState.stopped ≠ .playing
    decide
  refine ⟨⟨?_, ?_⟩, ?_⟩
  · intro hlive hon
    have hr : c.rendering = none := hon.rendering
    have hl := (hlive hon.playing).1
    rw [hr] at hl
    cases hl
  · intro hoff hp
    have hl : c.rendering.isSome = true := by
      cases hr : c.rendering with
      | some r => rfl
      | none => exact absurd (runsOn_of_playing rfl hstart hr hp) hoff
    exact ⟨hl, hbuffer.trans hl⟩
  · intro hon
    have hr : c.rendering = none := hon.rendering
    exact ⟨hon.playing, hr, by rw [hbuffer, hr]; rfl⟩

/-- A malformed text rendered while the last one plays. -/
theorem plays_on_after_malformed_text :
    let c := run [.addFile, .play, .setSource "x", .render] novice
    ¬ (c.device.state = .playing → c.rendering.isSome = true ∧ c.device.hasBuffer = true) := by
  decide +kernel

end Studio.Conductor
