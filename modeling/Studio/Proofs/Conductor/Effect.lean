import Studio.Proofs.Conductor.Files
import Studio.Proofs.Conductor.Performance

/-! What each action does to a performance. `Outcome` lists the endings of a render
that is begun, and `Rest` what there is without one: the transport's moves, and all
the actions that leave the performance alone. Later results about the stage, the
buffer or the transport look at these cases and at no action. -/

namespace Studio.Conductor

variable {D W : Type}

section Ensure

variable [AudioDevice D] [FileStore W]

/-- With a render due, making sure of one is rendering afresh. -/
theorem ensureRendered_due {c : Conductor D W} {source : String} (h : c.due? = some source) :
    c.ensureRendered = c.renderAfresh source := by
  obtain ⟨file, hf, hs⟩ := Option.bind_eq_some_iff.1 h
  unfold ensureRendered
  split at hs
  · cases hs
  · next hl =>
    cases hs
    rw [hf]
    exact if_neg hl

/-- With none due, the live rendering serves, or no file is selected. -/
theorem ensureRendered_not_due {c : Conductor D W} (h : c.due? = none) :
    (c.activeFile = none ∧ c.ensureRendered = (.error .nothingSelected, c)) ∨
      (c.rendering.isSome = true ∧
        c.ensureRendered =
          (.ok (), c.say .info "source unchanged; reusing the rendered graph")) := by
  unfold ensureRendered
  cases hf : c.activeFile with
  | none => exact .inl ⟨rfl, rfl⟩
  | some file =>
    right
    unfold due? at h
    rw [hf, Option.bind_some] at h
    split at h
    · next hl =>
      exact ⟨(Bool.and_eq_true_iff.1 hl).1, if_pos hl⟩
    · cases h

end Ensure

variable [FileStore W]

/-- How making sure of a rendering ends, with its result and the performance it
leaves. -/
inductive Ensured (c : Conductor SilentDevice W) : Except Fault Unit → Performance → Prop
  | refused {source : String} (due : c.due? = some source)
      (refuses : c.device.failsNextStart = true) :
      Ensured c (.error .noDevice) c.performance.giveUp
  | failed {source : String} {f : Fault} (due : c.due? = some source)
      (lends : c.device.failsNextStart = false)
      (fault : Score.realize c.libraries c.settings.defaultLibrary source = .error f) :
      Ensured c (.error f) c.performance.fail
  | rendered {source : String} {r : Rendering} (observer : Option Nat)
      (due : c.due? = some source) (lends : c.device.failsNextStart = false)
      (made : Score.realize c.libraries c.settings.defaultLibrary source = .ok r) :
      Ensured c (.ok ()) (c.performance.install r source observer)
  | unselected (due : c.due? = none) (active : c.activeFile = none) :
      Ensured c (.error .nothingSelected) c.performance
  | live (due : c.due? = none) (live : c.rendering.isSome = true) :
      Ensured c (.ok ()) c.performance

theorem ensured (c : Conductor SilentDevice W) :
    Ensured c c.ensureRendered.1 c.ensureRendered.2.performance := by
  cases hd : c.due? with
  | none =>
    rcases ensureRendered_not_due hd with ⟨hf, he⟩ | ⟨hl, he⟩
    · rw [he]
      exact .unselected hd hf
    · rw [he]
      exact .live hd hl
  | some source =>
    rw [ensureRendered_due hd]
    cases hb : c.device.failsNextStart with
    | true =>
      rw [performance_refused source hb, renderAfresh_refused source hb]
      exact .refused hd hb
    | false =>
      cases hr : Score.realize c.libraries c.settings.defaultLibrary source with
      | error f =>
        rw [performance_failed hb hr, (renderAfresh_error hb hr).1]
        exact .failed hd hb hr
      | ok r =>
        obtain ⟨observer, hp⟩ := performance_rendered hb hr
        rw [hp, (renderAfresh_ok hb hr).1]
        exact .rendered observer hd hb hr

/-! ### The other actions -/

omit [FileStore W] in
theorem Filed.performance {c c' : Conductor SilentDevice W} (h : c.Filed c') :
    c'.performance = c.performance := by
  obtain ⟨_, _, _, _, rfl⟩ := h
  rfl

omit [FileStore W] in
@[simp] theorem performance_dispatch (c : Conductor SilentDevice W) :
    c.dispatch.performance = c.performance := by
  have he (es : List Event) (c : Conductor SilentDevice W) :
      (es.foldl (fun c e => c.emit e) c).performance = c.performance :=
    performance_of_quiet (quiet_foldl_emit es c)
  have ht (c : Conductor SilentDevice W) : c.takePositions.2.performance = c.performance := by
    unfold takePositions
    split <;> rfl
  have hd : { c with device := (AudioDevice.takeEvents c.device).2 }.performance =
      c.performance := rfl
  unfold dispatch
  dsimp only
  rw [he, ht, he, hd]

theorem performance_render (c : Conductor SilentDevice W) :
    c.render.performance = c.ensureRendered.2.performance := by
  unfold render
  split
  · next h => rw [h]
  · next h => rw [performance_report, h]

theorem performance_play (c : Conductor SilentDevice W) :
    c.play.performance =
      match c.ensureRendered.1 with
      | .ok _ => c.ensureRendered.2.performance.play
      | .error _ => c.ensureRendered.2.performance := by
  unfold play
  split
  · next h => rw [performance_report, h]
  · next c' h =>
    have hp : AudioDevice.play c'.device = (.ok (), c'.device.play) := rfl
    rw [h, hp]
    exact performance_setStage ..

omit [FileStore W] in
theorem performance_pause (c : Conductor SilentDevice W) :
    c.pause.performance = c.performance.pause := by
  have hp : AudioDevice.pause c.device = (.ok (), c.device.pause) := rfl
  unfold pause
  rw [hp]
  dsimp only
  rw [performance_advanceStage]
  cases h : c.stage <;>
    simp [Performance.pause, performance, h, SilentDevice.pause, SilentDevice.send]

omit [FileStore W] in
theorem performance_stop (c : Conductor SilentDevice W) :
    c.stop.performance = c.performance.stop := by
  have hs : AudioDevice.stop c.device = (.ok (), c.device.stop) := rfl
  unfold stop
  rw [hs]
  dsimp only
  rw [performance_emit, performance_advanceStage]
  cases h : c.stage <;>
    simp [Performance.stop, performance, h, SilentDevice.stop, SilentDevice.send]

/-! ### Every action -/

/-- What an action that begins a render of `source` makes of the performance. -/
inductive Outcome (c : Conductor SilentDevice W) (source : String) : Action → Performance → Prop
  | refused {a : Action} (refuses : c.device.failsNextStart = true) :
      Outcome c source a c.performance.giveUp
  | failed {a : Action} {f : Fault} (lends : c.device.failsNextStart = false)
      (fault : Score.realize c.libraries c.settings.defaultLibrary source = .error f) :
      Outcome c source a c.performance.fail
  | rendered {r : Rendering} (observer : Option Nat) (lends : c.device.failsNextStart = false)
      (made : Score.realize c.libraries c.settings.defaultLibrary source = .ok r) :
      Outcome c source .render (c.performance.install r source observer)
  | started {r : Rendering} (observer : Option Nat) (lends : c.device.failsNextStart = false)
      (made : Score.realize c.libraries c.settings.defaultLibrary source = .ok r) :
      Outcome c source .play (c.performance.install r source observer).play

/-- What an action that begins no render makes of it. -/
inductive Rest (c : Conductor SilentDevice W) : Action → Performance → Prop
  | resumed (live : c.rendering.isSome = true) : Rest c .play c.performance.play
  | paused : Rest c .pause c.performance.pause
  | stopped : Rest c .stop c.performance.stop
  | kept {a : Action} (not_pause : a ≠ .pause) (not_stop : a ≠ .stop) : Rest c a c.performance

/-- What an action makes of the performance. -/
inductive Effect (c : Conductor SilentDevice W) (a : Action) (p : Performance) : Prop
  | begun {source : String} (begun : a.begun? c = some source) (outcome : Outcome c source a p)
  | none (begun : a.begun? c = none) (rest : Rest c a p)

theorem Effect.outcome {c : Conductor SilentDevice W} {a : Action} {p : Performance}
    {source : String} (he : Effect c a p) (h : a.begun? c = some source) :
    Outcome c source a p := by
  cases he with
  | begun begun outcome =>
    rw [h] at begun
    cases begun
    exact outcome
  | none begun => rw [h] at begun; cases begun

theorem Effect.rest {c : Conductor SilentDevice W} {a : Action} {p : Performance}
    (he : Effect c a p) (h : a.begun? c = .none) : Rest c a p := by
  cases he with
  | begun begun => rw [h] at begun; cases begun
  | none _ rest => exact rest

theorem effect_render (c : Conductor SilentDevice W) : Effect c .render c.render.performance := by
  have he := ensured c
  rw [performance_render]
  generalize c.ensureRendered.1 = result, c.ensureRendered.2.performance = p at he
  cases he with
  | refused due refuses => exact .begun due (.refused refuses)
  | failed due lends fault => exact .begun due (.failed lends fault)
  | rendered observer due lends made => exact .begun due (.rendered observer lends made)
  | unselected due _ => exact .none due (.kept nofun nofun)
  | live due _ => exact .none due (.kept nofun nofun)

theorem effect_play (c : Conductor SilentDevice W) : Effect c .play c.play.performance := by
  have he := ensured c
  rw [performance_play]
  generalize c.ensureRendered.1 = result, c.ensureRendered.2.performance = p at he
  cases he with
  | refused due refuses => exact .begun due (.refused refuses)
  | failed due lends fault => exact .begun due (.failed lends fault)
  | rendered observer due lends made => exact .begun due (.started observer lends made)
  | unselected due _ => exact .none due (.kept nofun nofun)
  | live due live => exact .none due (.resumed live)

theorem effect (a : Action) (c : Conductor SilentDevice W) :
    Effect c a (a.perform c).performance := by
  have same {b : Action} (h : (b.perform c).performance = c.performance)
      (hb : b.begun? c = none) (hp : b ≠ .pause) (hs : b ≠ .stop) :
      Effect c b (b.perform c).performance := h ▸ .none hb (.kept hp hs)
  cases a with
  | render => exact effect_render c
  | play => exact effect_play c
  | pause =>
    rw [show (Action.pause.perform c) = c.pause from rfl, performance_pause]
    exact .none rfl .paused
  | stop =>
    rw [show (Action.stop.perform c) = c.stop from rfl, performance_stop]
    exact .none rfl .stopped
  | dispatch => exact same (performance_dispatch c) rfl nofun nofun
  | addFile => exact same (filed_addFile c).performance rfl nofun nofun
  | destroyFile uid => exact same (filed_destroyFile uid c).performance rfl nofun nofun
  | selectFile uid => exact same (filed_selectFile uid c).performance rfl nofun nofun
  | save => exact same (filed_save c).performance rfl nofun nofun
  | setSource source => exact same (filed_setSource source c).performance rfl nofun nofun
  | configure change => exact same rfl rfl nofun nofun
  | failNextStart => exact same rfl rfl nofun nofun
  | advance p => exact same rfl rfl nofun nofun
  | loop => exact same rfl rfl nofun nofun

end Studio.Conductor
