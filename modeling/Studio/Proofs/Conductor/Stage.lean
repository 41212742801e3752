import Studio.Proofs.Conductor.Live

/-! The stage between actions. It is never one that belongs to a render underway, and
an idle conductor has no live rendering. The converse holds but for one case: a render
for which the device refuses its buffer gives the live rendering up and leaves the
stage where it was, and there it stays until another render is begun or the transport
is paused or stopped. -/

namespace Studio

/-- The stages in which an action may end. -/
def settledStages : List Stage := [.idle, .rendered, .playing, .paused, .stopped]

/-- The stage is settled, and an idle one has nothing live. -/
structure Performance.Settled (p : Performance) : Prop where
  stage : p.stage ∈ settledStages
  idle : p.stage = .idle → p.rendering = none

namespace Performance

theorem Settled.giveUp {p : Performance} (h : p.Settled) : p.giveUp.Settled :=
  ⟨h.stage, fun _ => rfl⟩

theorem settled_fail (p : Performance) : p.fail.Settled := by
  have hs : Stage.idle ∈ settledStages := by decide
  exact ⟨hs, fun _ => rfl⟩

theorem settled_install (r : Rendering) (source : String) (observer : Option Nat)
    (p : Performance) : (p.install r source observer).Settled := by
  have hs : Stage.rendered ∈ settledStages := by decide
  exact ⟨hs, nofun⟩

theorem settled_play (p : Performance) : p.play.Settled := by
  have hs : Stage.playing ∈ settledStages := by decide
  exact ⟨hs, nofun⟩

theorem pause_stage (p : Performance) :
    p.pause.stage = if p.stage = .playing then .paused else p.stage := rfl

theorem stop_stage (p : Performance) :
    p.stop.stage = if p.stage = .playing ∨ p.stage = .paused then .stopped else p.stage := rfl

/-- Pausing neither comes from idle nor goes there. -/
theorem pause_stage_idle (p : Performance) : p.pause.stage = .idle ↔ p.stage = .idle := by
  rw [pause_stage]
  split
  · next hp => rw [hp]; exact ⟨nofun, nofun⟩
  · rfl

theorem stop_stage_idle (p : Performance) : p.stop.stage = .idle ↔ p.stage = .idle := by
  rw [stop_stage]
  split
  · next hp => rcases hp with hp | hp <;> rw [hp] <;> exact ⟨nofun, nofun⟩
  · rfl

theorem Settled.pause {p : Performance} (h : p.Settled) : p.pause.Settled := by
  constructor
  · have hs : Stage.paused ∈ settledStages := by decide
    rw [pause_stage]
    split
    · exact hs
    · exact h.stage
  · intro hi
    exact h.idle (p.pause_stage_idle.1 hi)

theorem Settled.stop {p : Performance} (h : p.Settled) : p.stop.Settled := by
  constructor
  · have hs : Stage.stopped ∈ settledStages := by decide
    rw [stop_stage]
    split
    · exact hs
    · exact h.stage
  · intro hi
    exact h.idle (p.stop_stage_idle.1 hi)

end Performance

namespace Conductor

variable {W : Type}

theorem settled_launch (settings : Settings) (libraries : List Library) (random : Random)
    (store : W) : (launch settings libraries random store).performance.Settled := by
  have hs : Stage.idle ∈ settledStages := by decide
  exact ⟨hs, fun _ => rfl⟩

/-- With nothing live, an action that begins no render neither comes from idle nor
goes there. -/
theorem Rest.idle_iff {a : Action} {c : Conductor SilentDevice W} {p : Performance}
    (h : Rest c a p) (hr : c.rendering = none) : p.stage = .idle ↔ c.stage = .idle := by
  cases h with
  | resumed live => rw [hr] at live; cases live
  | paused => exact c.performance.pause_stage_idle
  | stopped => exact c.performance.stop_stage_idle
  | kept => rfl

/-- A render begun that leaves nothing live ends in idle, unless it was refused its
buffer: then it stays in the stage it came from. -/
theorem Outcome.stage_eq {a : Action} {c : Conductor SilentDevice W} {p : Performance}
    {source : String} (h : Outcome c source a p) (hr : p.rendering = none) :
    p.stage = if c.device.failsNextStart then c.stage else .idle := by
  cases h with
  | refused refuses => rw [refuses]; rfl
  | failed lends => rw [lends]; rfl
  | rendered => cases hr
  | started => cases hr

/-- A render that is refused its buffer leaves nothing live. -/
theorem Outcome.rendering_of_refused {a : Action} {c : Conductor SilentDevice W}
    {p : Performance} {source : String} (h : Outcome c source a p)
    (refuses : c.device.failsNextStart = true) : p.rendering = none := by
  cases h with
  | refused => rfl
  | failed => rfl
  | rendered _ lends => rw [refuses] at lends; cases lends
  | started _ lends => rw [refuses] at lends; cases lends

variable [FileStore W]

theorem Effect.settled {a : Action} {c : Conductor SilentDevice W} {p : Performance}
    (he : Effect c a p) (h : c.performance.Settled) : p.Settled := by
  cases he with
  | begun _ outcome =>
    cases outcome with
    | refused => exact h.giveUp
    | failed => exact Performance.settled_fail _
    | rendered => exact Performance.settled_install ..
    | started => exact Performance.settled_play _
  | none _ rest =>
    cases rest with
    | resumed => exact Performance.settled_play _
    | paused => exact h.pause
    | stopped => exact h.stop
    | kept => exact h

theorem settled_run (actions : List Action) {c : Conductor SilentDevice W}
    (h : c.performance.Settled) : (run actions c).performance.Settled :=
  run_keeps (P := fun c => c.performance.Settled) (fun a c hc => (effect a c).settled hc) actions h

theorem NoneBegun.idle_iff {as : List Action} {c : Conductor SilentDevice W}
    (h : NoneBegun as c) (hr : c.rendering = none) :
    (run as c).stage = .idle ↔ c.stage = .idle := by
  have hk : (run as c).rendering = none ∧ ((run as c).stage = .idle ↔ c.stage = .idle) := by
    refine h.keeps
      (P := fun d => d.rendering = none ∧ (d.stage = .idle ↔ c.stage = .idle)) ?_ ⟨hr, Iff.rfl⟩
    intro a d ha hd
    have hrest := (effect a d).rest ha
    have hi : (a.perform d).stage = .idle ↔ d.stage = .idle := hrest.idle_iff hd.1
    exact ⟨hrest.rendering_eq.1.trans hd.1, hi.trans hd.2⟩
  exact hk.2

/-- The last render begun in the run was refused its buffer in a stage other than
idle. -/
def Stranded (c : Conductor SilentDevice W) (actions : List Action) : Prop :=
  ∃ before a after source, LastBegun c actions before a after source ∧
    (run before c).device.failsNextStart = true ∧ (run before c).stage ≠ .idle

theorem NoneBegun.not_stranded {as : List Action} {c : Conductor SilentDevice W}
    (h : NoneBegun as c) : ¬ Stranded c as := by
  rintro ⟨before, a, after, source, hl, -⟩
  exact hl.not_noneBegun h

theorem LastBegun.stranded_iff {c : Conductor SilentDevice W} {actions before : List Action}
    {a : Action} {after : List Action} {source : String}
    (h : LastBegun c actions before a after source) :
    Stranded c actions ↔
      (run before c).device.failsNextStart = true ∧ (run before c).stage ≠ .idle := by
  constructor
  · rintro ⟨before', a', after', source', hl, hs⟩
    obtain ⟨rfl, -, -⟩ := h.unique hl
    exact hs
  · intro hs
    exact ⟨before, a, after, source, h, hs⟩

/-- With nothing live at the end, the run is stranded or has become idle. -/
theorem idle_iff_not_stranded {actions : List Action} {c : Conductor SilentDevice W}
    (hi : c.stage = .idle) (hr : c.rendering = none) (hn : (run actions c).rendering = none) :
    (run actions c).stage = .idle ↔ ¬ Stranded c actions := by
  rcases noneBegun_or_lastBegun actions c with hnone | ⟨before, a, after, source, hl⟩
  · exact iff_of_true ((hnone.idle_iff hr).2 hi) hnone.not_stranded
  · have hp : (a.perform (run before c)).rendering = none := by
      rw [hl.run_eq] at hn
      exact hl.none_later.rendering_eq.1.symm.trans hn
    have hs : (a.perform (run before c)).stage = _ :=
      ((effect a (run before c)).outcome hl.begun).stage_eq hp
    rw [hl.run_eq, hl.none_later.idle_iff hp, hs, hl.stranded_iff]
    cases (run before c).device.failsNextStart <;> simp

/-- With something live at the end, the run is not stranded. -/
theorem not_stranded_of_live {actions : List Action} {c : Conductor SilentDevice W}
    (live : (run actions c).rendering ≠ none) : ¬ Stranded c actions := by
  rintro ⟨before, a, after, source, hl, refuses, -⟩
  have hp : (a.perform (run before c)).rendering = none :=
    ((effect a (run before c)).outcome hl.begun).rendering_of_refused refuses
  rw [hl.run_eq, hl.none_later.rendering_eq.1] at live
  exact live hp

/-- Between actions the stage is settled; it is idle just when nothing is live, unless
the last render begun was refused its buffer away from idle. -/
theorem idle_iff_nothing_live_iff_not_stranded (settings : Settings) (libraries : List Library)
    (random : Random) (store : W) (actions : List Action) :
    let start := launch settings libraries random store
    let c := run actions start
    c.stage ∈ settledStages ∧
      (c.stage = .idle → c.rendering = none) ∧
      ((c.stage = .idle ↔ c.rendering = none) ↔ ¬ Stranded start actions) ∧
      ∀ (a : Action) (source : String),
        a.begun? c = some source → (a.perform c).rendering = none →
          ((a.perform c).stage = .idle ↔ c.device.failsNextStart = false ∨ c.stage = .idle) := by
  intro start c
  have hc : c.performance.Settled :=
    settled_run actions (settled_launch settings libraries random store)
  refine ⟨hc.stage, hc.idle, ?_, ?_⟩
  · by_cases hr : c.rendering = none
    · have hi : c.stage = .idle ↔ ¬ Stranded start actions := idle_iff_not_stranded rfl rfl hr
      rw [← hi]
      exact iff_true_right hr
    · have hi : c.stage ≠ .idle := fun hi => hr (hc.idle hi)
      exact iff_of_true (iff_of_false hi hr) (not_stranded_of_live hr)
  · intro a source ha hr
    have hs : (a.perform c).stage = _ := ((effect a c).outcome ha).stage_eq hr
    rw [hs]
    cases c.device.failsNextStart <;> simp

/-- A render refused after another: nothing is live, and the stage says rendered. -/
theorem stranded_after_second_render :
    let c := run [.addFile, .render, .setSource "x", .failNextStart, .render] novice
    ¬ (c.stage = .idle ↔ c.rendering = none) := by
  decide +kernel

end Conductor

end Studio
