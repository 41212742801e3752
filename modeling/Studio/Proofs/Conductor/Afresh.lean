import Studio.Device.Silent
import Studio.Proofs.Conductor.Reports

/-! Rendering afresh over a silent device. The live rendering is given up first; then
the device refuses its buffer, or the source text comes to nothing and the buffer goes
back, or the graph is loaded and the new rendering is the live one. Each ending is
written out as the state it leaves, up to what was reported. -/

namespace Studio

/-! ### The device -/

namespace SilentDevice

theorem release_eq (d : SilentDevice) :
    d.release =
      { d with
        hasBuffer := false
        released := if d.hasBuffer then d.released + 1 else d.released } := by
  unfold release
  cases d with
  | mk state hasBuffer => cases hasBuffer <;> rfl

theorem start_refused {d : SilentDevice} (h : d.failsNextStart = true) :
    d.start = (.error .noDevice, { d with failsNextStart := false }) := by
  rw [start, if_pos h]

theorem start_lent {d : SilentDevice} (h : d.failsNextStart = false) :
    d.start = (.ok (), { d with hasBuffer := true, started := d.started + 1 }) := by
  rw [start, if_neg (by rw [h]; decide)]

theorem load_held {d : SilentDevice} (g : Graph) (h : d.hasBuffer = true) :
    d.load g = (.ok (), { d with graph := g }) := by
  rw [load, if_pos h]

/-- The second device differs from the first at most in what a render uses: the buffer, the
graph and the observers. -/
def Refitted (d d' : SilentDevice) : Prop :=
  ∃ hasBuffer started released graph failsNextStart observers observed,
    d' = { d with hasBuffer, started, released, graph, failsNextStart, observers, observed }

theorem Refitted.trans {d d' d'' : SilentDevice} (h : d.Refitted d') (h' : d'.Refitted d'') :
    d.Refitted d'' := by
  obtain ⟨_, _, _, _, _, _, _, rfl⟩ := h
  obtain ⟨_, _, _, _, _, _, _, rfl⟩ := h'
  exact ⟨_, _, _, _, _, _, _, rfl⟩

end SilentDevice

/-! ### The score -/

namespace Score

/-- What a source text comes to: a session and the graph of it. -/
def realize (libraries : List Library) (default code : String) : Except Fault Rendering := do
  let score ← ofText code
  (score.build libraries default).result

theorem build_eq_ok {libraries : List Library} {default : String} {s : Score} {r : Rendering}
    (h : (s.build libraries default).result = .ok r) :
    (s.compose libraries default).result = .ok r.session ∧
      r.session.graph.result = .ok r.graph := by
  simp only [build, Attempt.result_bind, Attempt.result_pure] at h
  obtain ⟨session, hc, hs⟩ := Attempt.bind_eq_ok_iff.1 h
  obtain ⟨graph, hg, hr⟩ := Attempt.bind_eq_ok_iff.1 hs
  cases hr
  exact ⟨hc, hg⟩

theorem realize_eq_ok {libraries : List Library} {default code : String} {r : Rendering}
    (h : realize libraries default code = .ok r) :
    ∃ score, ofText code = .ok score ∧ (score.compose libraries default).result = .ok r.session ∧
      r.session.graph.result = .ok r.graph := by
  obtain ⟨score, ht, hb⟩ := Attempt.bind_eq_ok_iff.1 h
  exact ⟨score, ht, build_eq_ok hb⟩

theorem render_error {D : Type} [AudioDevice D] {libraries : List Library} {default : String}
    {s : Score} {f : Fault} (d : D) (h : (s.build libraries default).result = .error f) :
    s.render libraries default d = (s.build libraries default, d) := by
  simp only [render, h]

theorem render_ok {libraries : List Library} {default : String} {s : Score} {r : Rendering}
    {d : SilentDevice} (hd : d.hasBuffer = true)
    (h : (s.build libraries default).result = .ok r) :
    s.render libraries default d = (s.build libraries default, { d with graph := r.graph }) := by
  have hl : AudioDevice.load r.graph d = (.ok (), { d with graph := r.graph }) :=
    SilentDevice.load_held r.graph hd
  simp only [render, h, hl]

end Score

/-! ### The conductor -/

namespace Conductor

variable {W : Type}

theorem quiet_observe {D : Type} [AudioDevice D] (c : Conductor D W) :
    c.observe.quiet = c.quiet.observe := by
  have hs : c.quiet.settings.reportPositions = c.settings.reportPositions := rfl
  unfold observe
  rw [hs]
  split <;> rfl

/-- The conductor with a new buffer in exchange for the live rendering and its own. -/
def exchange (c : Conductor SilentDevice W) : Conductor SilentDevice W :=
  { c.release with
    device :=
      { c.release.device with
        hasBuffer := true, started := c.release.device.started + 1 } }

theorem release_failsNextStart (c : Conductor SilentDevice W) :
    c.release.device.failsNextStart = c.device.failsNextStart := by
  have hr (d : SilentDevice) : (AudioDevice.release d).failsNextStart = d.failsNextStart := by
    change d.release.failsNextStart = _
    rw [SilentDevice.release_eq]
  unfold release
  cases c.observer with
  | none => exact hr _
  | some key => exact hr _

/-- The conductor that has announced every stage up to the rendering. -/
def announce {D : Type} (c : Conductor D W) : Conductor D W :=
  ((((c.setStage .parsing).emit .parsing).setStage .parsed).emit .parsed).setStage .rendering
    |>.emit .rendering

theorem quiet_announce {D : Type} (c : Conductor D W) :
    c.announce.quiet = { c with stage := .rendering }.quiet := by
  simp only [announce, quiet_emit, quiet_setStage]
  rfl

theorem composeAndLoad_unreadable {D : Type} [AudioDevice D] {source : String} {f : Fault}
    (c : Conductor D W) (h : Score.ofText source = .error f) :
    c.composeAndLoad source = (.error f, (c.setStage .parsing).emit .parsing) := by
  simp only [composeAndLoad, h]

theorem composeAndLoad_readable {source : String} {score : Score} (c : Conductor SilentDevice W)
    (h : Score.ofText source = .ok score) :
    (c.composeAndLoad source).1 =
        (score.render c.libraries c.settings.defaultLibrary c.device).1.result ∧
      (c.composeAndLoad source).2.quiet =
        { c with
          stage := .rendering
          device := (score.render c.libraries c.settings.defaultLibrary c.device).2 }.quiet := by
  have hc : c.composeAndLoad source =
      let made := score.render c.announce.libraries c.announce.settings.defaultLibrary
        c.announce.device
      (made.1.result, { c.announce with device := made.2 }.addNotes made.1.notes) := by
    simp only [composeAndLoad, h, announce]
  obtain ⟨out, ho⟩ := exists_out_of_quiet (quiet_announce c)
  rw [hc, ho]
  exact ⟨rfl, rfl⟩

/-- Composing a source that comes to nothing changes the stage alone. -/
theorem composeAndLoad_error {source : String} {f : Fault} (c : Conductor SilentDevice W)
    (h : Score.realize c.libraries c.settings.defaultLibrary source = .error f) :
    (c.composeAndLoad source).1 = .error f ∧
      ∃ stage, (c.composeAndLoad source).2.quiet = { c with stage }.quiet := by
  unfold Score.realize at h
  cases ht : Score.ofText source with
  | error f' =>
    rw [ht] at h
    cases h
    rw [composeAndLoad_unreadable c ht]
    refine ⟨rfl, .parsing, ?_⟩
    rw [quiet_emit, quiet_setStage]
    rfl
  | ok score =>
    rw [ht] at h
    have hb : (score.build c.libraries c.settings.defaultLibrary).result = .error f := h
    obtain ⟨hm, hq⟩ := composeAndLoad_readable c ht
    rw [Score.render_error c.device hb] at hm hq
    exact ⟨hm.trans hb, .rendering, hq⟩

/-- Composing a source that comes to a rendering loads its graph. -/
theorem composeAndLoad_ok {source : String} {r : Rendering} (c : Conductor SilentDevice W)
    (held : c.device.hasBuffer = true)
    (h : Score.realize c.libraries c.settings.defaultLibrary source = .ok r) :
    (c.composeAndLoad source).1 = .ok r ∧
      (c.composeAndLoad source).2.quiet =
        { c with stage := .rendering, device := { c.device with graph := r.graph } }.quiet := by
  obtain ⟨score, ht, hb⟩ := Attempt.bind_eq_ok_iff.1 h
  obtain ⟨hm, hq⟩ := composeAndLoad_readable c ht
  rw [Score.render_ok held hb] at hm hq
  exact ⟨hm.trans hb, hq⟩

/-! ### The three endings -/

theorem renderAfresh_refused (source : String) {c : Conductor SilentDevice W}
    (refuses : c.device.failsNextStart = true) :
    c.renderAfresh source =
      (.error .noDevice,
        { c.release with device := { c.release.device with failsNextStart := false } }) := by
  have hs : AudioDevice.start c.release.device =
      (.error .noDevice, { c.release.device with failsNextStart := false }) :=
    SilentDevice.start_refused (by rw [release_failsNextStart, refuses])
  simp only [renderAfresh, hs]

/-- With a buffer lent, the source is composed in the exchanged state. -/
theorem renderAfresh_lent (source : String) {c : Conductor SilentDevice W}
    (lends : c.device.failsNextStart = false) :
    c.renderAfresh source =
      ((c.exchange.composeAndLoad source).1.map fun _ => (),
        match (c.exchange.composeAndLoad source).1 with
        | .ok r => (c.exchange.composeAndLoad source).2.keep r source
        | .error _ => (c.exchange.composeAndLoad source).2.release.setStage .idle) := by
  have hs : AudioDevice.start c.release.device = (.ok (), c.exchange.device) :=
    SilentDevice.start_lent (by rw [release_failsNextStart, lends])
  have hx : { c.release with device := c.exchange.device } = c.exchange := rfl
  simp only [renderAfresh, hs, hx]
  cases hm : c.exchange.composeAndLoad source with
  | mk result c' => cases result <;> rfl

/-- The source came to nothing: the new buffer is given back too. -/
theorem renderAfresh_error {source : String} {f : Fault} {c : Conductor SilentDevice W}
    (lends : c.device.failsNextStart = false)
    (h : Score.realize c.libraries c.settings.defaultLibrary source = .error f) :
    (c.renderAfresh source).1 = .error f ∧
      (c.renderAfresh source).2.quiet = { c.exchange.release with stage := .idle }.quiet := by
  obtain ⟨he, stage, hq⟩ := composeAndLoad_error c.exchange h
  obtain ⟨out, ho⟩ := exists_out_of_quiet hq
  rw [renderAfresh_lent source lends, he, ho]
  refine ⟨rfl, ?_⟩
  exact quiet_setStage .idle _

/-- The source came to a rendering: it is the live one, in a buffer of its own. -/
theorem renderAfresh_ok {source : String} {r : Rendering} {c : Conductor SilentDevice W}
    (lends : c.device.failsNextStart = false)
    (h : Score.realize c.libraries c.settings.defaultLibrary source = .ok r) :
    (c.renderAfresh source).1 = .ok () ∧
      (c.renderAfresh source).2.quiet =
        { { c.exchange with
            rendering := some r, source := some source
            device := { c.exchange.device with graph := r.graph } }.observe with
          stage := .rendered }.quiet := by
  obtain ⟨he, hq⟩ := composeAndLoad_ok c.exchange rfl h
  obtain ⟨out, ho⟩ := exists_out_of_quiet hq
  rw [renderAfresh_lent source lends, he, ho]
  refine ⟨rfl, ?_⟩
  simp only [keep, quiet_emit, quiet_setStage, quiet_observe]
  by_cases hp : c.exchange.settings.reportPositions = true
  · simp only [observe, quiet, hp, if_true]
  · simp only [observe, quiet, hp]
    rfl

/-! ### What a render leaves alone -/

theorem device_of_quiet {D : Type} {c d : Conductor D W} (h : c.quiet = d.quiet) :
    c.device = d.device := eq_of_quiet (fun _ => rfl) h

theorem refitted_release (c : Conductor SilentDevice W) :
    c.device.Refitted c.release.device := by
  have hr (d : SilentDevice) : d.Refitted (AudioDevice.release d) := by
    change d.Refitted d.release
    rw [SilentDevice.release_eq]
    exact ⟨_, _, _, _, _, _, _, rfl⟩
  unfold release
  cases c.observer with
  | none => exact hr c.device
  | some key =>
    have forgotten : c.device.Refitted (AudioDevice.forget key c.device) :=
      ⟨_, _, _, _, _, _, _, rfl⟩
    exact forgotten.trans (hr _)

theorem refitted_observe (c : Conductor SilentDevice W) :
    c.device.Refitted c.observe.device := by
  unfold observe
  split <;> exact ⟨_, _, _, _, _, _, _, rfl⟩

theorem refitted_renderAfresh (source : String) (c : Conductor SilentDevice W) :
    c.device.Refitted (c.renderAfresh source).2.device := by
  have released := refitted_release c
  have exchanged : c.device.Refitted c.exchange.device :=
    released.trans ⟨_, _, _, _, _, _, _, rfl⟩
  cases hr : c.device.failsNextStart with
  | true =>
    rw [renderAfresh_refused source hr]
    exact released.trans ⟨_, _, _, _, _, _, _, rfl⟩
  | false =>
    cases hm : Score.realize c.libraries c.settings.defaultLibrary source with
    | error f =>
      rw [device_of_quiet (renderAfresh_error hr hm).2]
      exact exchanged.trans (refitted_release c.exchange)
    | ok r =>
      rw [device_of_quiet (renderAfresh_ok hr hm).2]
      have loaded : c.exchange.device.Refitted { c.exchange.device with graph := r.graph } :=
        ⟨_, _, _, _, _, _, _, rfl⟩
      exact (exchanged.trans loaded).trans (refitted_observe _)

end Conductor

end Studio
