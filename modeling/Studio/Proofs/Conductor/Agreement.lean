import Studio.Proofs.Conductor.Stage

/-! The stage against the transport. Pausing and stopping tell the device in every stage,
while the stage moves from some only, so the two drift apart. What is left is that the
stage never claims too much: one who plays is heard, one who has paused or stopped is not.
No other stage says anything about the transport. -/

namespace Studio

/-- What the stage says of the transport is true of it. -/
structure Performance.Agrees (p : Performance) : Prop where
  playing : p.stage = .playing → p.transport = .playing
  paused : p.stage = .paused → p.transport = .paused
  stopped : p.stage = .stopped → p.transport ≠ .playing

namespace Performance

theorem pause_stage_cases (p : Performance) :
    p.stage = .playing ∧ p.pause.stage = .paused ∨
      p.stage ≠ .playing ∧ p.pause.stage = p.stage := by
  rw [pause_stage]
  split
  · next h => exact .inl ⟨h, rfl⟩
  · next h => exact .inr ⟨h, rfl⟩

theorem stop_stage_cases (p : Performance) :
    (p.stage = .playing ∨ p.stage = .paused) ∧ p.stop.stage = .stopped ∨
      ¬ (p.stage = .playing ∨ p.stage = .paused) ∧ p.stop.stage = p.stage := by
  rw [stop_stage]
  split
  · next h => exact .inl ⟨h, rfl⟩
  · next h => exact .inr ⟨h, rfl⟩

theorem Agrees.giveUp {p : Performance} (h : p.Agrees) : p.giveUp.Agrees :=
  ⟨h.playing, h.paused, h.stopped⟩

theorem agrees_fail (p : Performance) : p.fail.Agrees := ⟨nofun, nofun, nofun⟩

theorem agrees_install (r : Rendering) (source : String) (observer : Option Nat)
    (p : Performance) : (p.install r source observer).Agrees := ⟨nofun, nofun, nofun⟩

theorem agrees_play (p : Performance) : p.play.Agrees := ⟨fun _ => rfl, nofun, nofun⟩

/-- Whatever was the case before, pausing brings the two together. -/
theorem agrees_pause (p : Performance) : p.pause.Agrees := by
  have hplaying : p.pause.stage ≠ .playing := by
    rcases p.pause_stage_cases with ⟨-, hs⟩ | ⟨hp, hs⟩
    · rw [hs]; nofun
    · rw [hs]; exact hp
  exact ⟨fun h => absurd h hplaying, fun _ => rfl, fun _ => nofun⟩

theorem agrees_stop (p : Performance) : p.stop.Agrees := by
  have hhalted : ¬ (p.stop.stage = .playing ∨ p.stop.stage = .paused) := by
    rcases p.stop_stage_cases with ⟨-, hs⟩ | ⟨hp, hs⟩
    · rw [hs]; nofun
    · rw [hs]; exact hp
  exact ⟨fun h => absurd (.inl h) hhalted, fun h => absurd (.inr h) hhalted, fun _ => nofun⟩

end Performance

namespace Conductor

variable {W : Type} {a : Action} {c : Conductor SilentDevice W} {p : Performance}

/-! ### The turns of the stage -/

/-- The ways in which an action can change the stage. -/
inductive Turn : Stage → Action → Stage → Prop
  | kept (stage : Stage) (a : Action) : Turn stage a stage
  | failed (stage : Stage) (a : Action) : Turn stage a .idle
  | rendered (stage : Stage) : Turn stage .render .rendered
  | played (stage : Stage) : Turn stage .play .playing
  | paused : Turn .playing .pause .paused
  | stopped {stage : Stage} (heard : stage = .playing ∨ stage = .paused) :
      Turn stage .stop .stopped

theorem Turn.paused_from {stage : Stage} (h : Turn stage a .paused) :
    stage = .paused ∨ stage = .playing ∧ a = .pause := by
  cases h with
  | kept => exact .inl rfl
  | paused => exact .inr ⟨rfl, rfl⟩

theorem Turn.stopped_from {stage : Stage} (h : Turn stage a .stopped) :
    stage = .stopped ∨ (stage = .playing ∨ stage = .paused) ∧ a = .stop := by
  cases h with
  | kept => exact .inl rfl
  | stopped heard => exact .inr ⟨heard, rfl⟩

theorem turn_pause (p : Performance) : Turn p.stage .pause p.pause.stage := by
  rcases p.pause_stage_cases with ⟨hp, hs⟩ | ⟨-, hs⟩
  · rw [hp, hs]
    exact .paused
  · rw [hs]
    exact .kept ..

theorem turn_stop (p : Performance) : Turn p.stage .stop p.stop.stage := by
  rcases p.stop_stage_cases with ⟨hp, hs⟩ | ⟨-, hs⟩
  · rw [hs]
    exact .stopped hp
  · rw [hs]
    exact .kept ..

variable [FileStore W]

theorem Effect.turn (he : Effect c a p) : Turn c.stage a p.stage := by
  cases he with
  | begun _ outcome =>
    cases outcome with
    | refused => exact .kept ..
    | failed => exact .failed ..
    | rendered => exact .rendered _
    | started => exact .played _
  | none _ rest =>
    cases rest with
    | resumed => exact .played _
    | paused => exact turn_pause c.performance
    | stopped => exact turn_stop c.performance
    | kept => exact .kept ..

/-! ### Runs -/

theorem Effect.agrees (he : Effect c a p) (h : c.performance.Agrees) : p.Agrees := by
  cases he with
  | begun _ outcome =>
    cases outcome with
    | refused => exact h.giveUp
    | failed => exact Performance.agrees_fail _
    | rendered => exact Performance.agrees_install ..
    | started => exact Performance.agrees_play _
  | none _ rest =>
    cases rest with
    | resumed => exact Performance.agrees_play _
    | paused => exact Performance.agrees_pause _
    | stopped => exact Performance.agrees_stop _
    | kept => exact h

theorem agrees_run (actions : List Action) (h : c.performance.Agrees) :
    (run actions c).performance.Agrees :=
  run_keeps (P := fun c => c.performance.Agrees) (fun a c hc => (effect a c).agrees hc) actions h

/-- Between actions the stage is right about the transport wherever it says something of it:
it is playing only while the transport plays, paused only while that is paused, and stopped
only while nothing plays. It is by pausing alone, while playing, that it becomes paused, and by
stopping alone, while playing or paused, that it becomes stopped. -/
theorem stage_right_about_transport (settings : Settings) (libraries : List Library)
    (random : Random) (store : W) (bus : Bus) (actions : List Action) :
    let c := run actions { launch settings libraries random store with bus }
    (c.stage = .playing → c.device.state = .playing) ∧
      (c.stage = .paused → c.device.state = .paused) ∧
      (c.stage = .stopped → c.device.state ≠ .playing) ∧
      ∀ a : Action,
        ((a.perform c).stage = .paused →
          c.stage = .paused ∨ c.stage = .playing ∧ a = .pause) ∧
        ((a.perform c).stage = .stopped →
          c.stage = .stopped ∨ (c.stage = .playing ∨ c.stage = .paused) ∧ a = .stop) := by
  intro c
  let start : Conductor SilentDevice W := { launch settings libraries random store with bus }
  have launched : start.performance.Agrees := ⟨nofun, nofun, nofun⟩
  have hc : c.performance.Agrees := agrees_run actions launched
  refine ⟨hc.playing, hc.paused, hc.stopped, fun a => ?_⟩
  have hturn : Turn c.stage a (a.perform c).stage := (effect a c).turn
  constructor
  · intro hs
    rw [hs] at hturn
    exact hturn.paused_from
  · intro hs
    rw [hs] at hturn
    exact hturn.stopped_from

/-- The two drift apart: a stopped conductor pauses its device all the same. -/
example :
    let c := run [.addFile, .play, .stop, .pause] novice
    c.stage = .stopped ∧ c.device.state = .paused := by
  decide +kernel

end Conductor

end Studio
