import Studio.Proofs.Conductor.Action
import Studio.Proofs.Conductor.Afresh

/-! What a conductor is performing: the live rendering with its source and its
observer, the stage, and what the silent device holds of it. An action takes a
performance to one of a few others (`Conductor.Effect`), whatever else it does; all
that decides between them is whether a render is due, whether the device lends its
buffer, and what the source text comes to. -/

namespace Studio

structure Performance where
  libraries : List Library
  rendering : Option Rendering
  source : Option String
  observer : Option Nat
  stage : Stage
  transport : TransportState
  hasBuffer : Bool
  started : Nat
  released : Nat
  graph : Graph

namespace Performance

/-- The live rendering is given up and its buffer given back. -/
def giveUp (p : Performance) : Performance :=
  { p with
    rendering := none, source := none, observer := none, hasBuffer := false
    released := if p.hasBuffer then p.released + 1 else p.released }

/-- A buffer is taken in exchange for the old one, and given back as well. -/
def fail (p : Performance) : Performance :=
  { p.giveUp with
    stage := .idle, started := p.started + 1, released := p.giveUp.released + 1 }

/-- A rendering becomes the live one, with a buffer of its own. -/
def install (r : Rendering) (source : String) (observer : Option Nat) (p : Performance) :
    Performance :=
  { p.giveUp with
    rendering := some r, source := some source, observer, stage := .rendered
    hasBuffer := true, started := p.started + 1, graph := r.graph }

def play (p : Performance) : Performance := { p with stage := .playing, transport := .playing }

def pause (p : Performance) : Performance :=
  { p with
    stage := if p.stage = .playing then .paused else p.stage
    transport := .paused }

def stop (p : Performance) : Performance :=
  { p with
    stage := if p.stage = .playing ∨ p.stage = .paused then .stopped else p.stage
    transport := .stopped }

end Performance

namespace Conductor

variable {W : Type}

def performance (c : Conductor SilentDevice W) : Performance where
  libraries := c.libraries
  rendering := c.rendering
  source := c.source
  observer := c.observer
  stage := c.stage
  transport := c.device.state
  hasBuffer := c.device.hasBuffer
  started := c.device.started
  released := c.device.released
  graph := c.device.graph

/-! ### Reports are no part of it -/

theorem performance_of_quiet {c c' : Conductor SilentDevice W} (h : c.quiet = c'.quiet) :
    c.performance = c'.performance := eq_of_quiet (fun _ => rfl) h

@[simp] theorem performance_emit (e : Event) (c : Conductor SilentDevice W) :
    (c.emit e).performance = c.performance := performance_of_quiet (quiet_emit e c)

@[simp] theorem performance_report (message : String) (cause : Fault)
    (c : Conductor SilentDevice W) : (c.report message cause).performance = c.performance :=
  performance_of_quiet (quiet_report message cause c)

@[simp] theorem performance_setStage (stage : Stage) (c : Conductor SilentDevice W) :
    (c.setStage stage).performance = { c.performance with stage } := by
  have hq : (c.setStage stage).quiet = { c with stage }.quiet := quiet_setStage stage c
  rw [performance_of_quiet hq]
  rfl

@[simp] theorem performance_advanceStage (sources : List Stage) (stage : Stage)
    (c : Conductor SilentDevice W) :
    (c.advanceStage sources stage).performance =
      { c.performance with stage := if sources.contains c.stage then stage else c.stage } := by
  have hq : (c.advanceStage sources stage).quiet =
      { c with stage := if sources.contains c.stage then stage else c.stage }.quiet :=
    quiet_advanceStage sources stage c
  rw [performance_of_quiet hq]
  rfl

/-! ### Rendering -/

theorem performance_release (c : Conductor SilentDevice W) :
    c.release.performance = c.performance.giveUp := by
  have hr (d : SilentDevice) : AudioDevice.release d =
      { d with
        hasBuffer := false
        released := if d.hasBuffer then d.released + 1 else d.released } :=
    SilentDevice.release_eq d
  unfold release
  simp only [hr]
  cases c.observer <;> rfl

theorem performance_exchange (c : Conductor SilentDevice W) :
    c.exchange.performance =
      { c.performance.giveUp with hasBuffer := true, started := c.performance.started + 1 } := by
  have hp := performance_release c
  have hs : c.release.performance.started = c.performance.started := by rw [hp]; rfl
  rw [← hp, ← hs]
  rfl

/-- Observing positions is seen in the observer alone. -/
theorem exists_observer (c : Conductor SilentDevice W) :
    ∃ observer, c.observe.performance = { c.performance with observer } := by
  unfold observe
  split
  · exact ⟨some c.device.observed, rfl⟩
  · exact ⟨c.observer, rfl⟩

theorem performance_refused (source : String) {c : Conductor SilentDevice W}
    (refuses : c.device.failsNextStart = true) :
    (c.renderAfresh source).2.performance = c.performance.giveUp := by
  have hp : { c.release with
        device := { c.release.device with failsNextStart := false } }.performance =
      c.release.performance := rfl
  rw [renderAfresh_refused source refuses, hp, performance_release]

theorem performance_failed {source : String} {f : Fault} {c : Conductor SilentDevice W}
    (lends : c.device.failsNextStart = false)
    (h : Score.realize c.libraries c.settings.defaultLibrary source = .error f) :
    (c.renderAfresh source).2.performance = c.performance.fail := by
  have hp : { c.exchange.release with stage := Stage.idle }.performance =
      { c.exchange.release.performance with stage := .idle } := rfl
  rw [performance_of_quiet (renderAfresh_error lends h).2, hp, performance_release,
    performance_exchange]
  rfl

theorem performance_rendered {source : String} {r : Rendering} {c : Conductor SilentDevice W}
    (lends : c.device.failsNextStart = false)
    (h : Score.realize c.libraries c.settings.defaultLibrary source = .ok r) :
    ∃ observer,
      (c.renderAfresh source).2.performance = c.performance.install r source observer := by
  have hq := (renderAfresh_ok lends h).2
  obtain ⟨observer, ho⟩ := exists_observer
    { c.exchange with
      rendering := some r, source := some source
      device := { c.exchange.device with graph := r.graph } }
  refine ⟨observer, ?_⟩
  have hp (d : Conductor SilentDevice W) :
      { d with stage := Stage.rendered }.performance = { d.performance with stage := .rendered } :=
    rfl
  have hx : { c.exchange with
        rendering := some r, source := some source
        device := { c.exchange.device with graph := r.graph } }.performance =
      { c.exchange.performance with
        rendering := some r, source := some source, graph := r.graph } := rfl
  rw [performance_of_quiet hq, hp, ho, hx, performance_exchange]
  rfl

end Conductor

end Studio
