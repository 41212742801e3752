import Mathlib.Data.List.DropRight
import Studio.Proofs.Conductor.Live
import Studio.Proofs.Conductor.Relay

/-! Which positions a dispatch passes on. A rendering that asks for positions observes the
device through a key of its own. The observer of an earlier rendering stays with the device,
gone away, until the transport moves next. What counts is thus the audience, the observers that
still listen: it is empty, or it is the live rendering's observer alone (`Subscribed`), whatever
renders and changes of the settings there have been. -/

namespace Studio

/-- The position that an event tells. -/
def Event.position? : Event → Option Position
  | .position p => some p
  | _ => none

/-! ### The device's audience -/

/-- The observer that has been told one more position. -/
def Observer.tell (p : Position) (o : Observer) : Observer := { o with queue := o.queue ++ [p] }

namespace SilentDevice

/-- The observers that have not gone away. -/
def audience (d : SilentDevice) : List Observer := d.observers.filter (·.listening)

/-- The transport's moving drops all the others. -/
theorem observers_advance (p : Position) (d : SilentDevice) :
    (d.advance p).observers = d.audience.map (Observer.tell p) := rfl

theorem audience_advance (p : Position) (d : SilentDevice) :
    (d.advance p).audience = d.audience.map (Observer.tell p) := by
  have hlisten : (fun o : Observer => o.listening) ∘ Observer.tell p = (·.listening) := rfl
  rw [audience, observers_advance, List.filter_map, hlisten, audience, List.filter_filter]
  simp only [Bool.and_self]

theorem audience_takePositions (key : Nat) (d : SilentDevice) :
    (d.takePositions key).2.audience = d.audience.map (Observer.clear key) := by
  have hlisten : (fun o : Observer => o.listening) ∘ Observer.clear key = (·.listening) :=
    funext (Observer.clear_listening key)
  change (d.observers.map (Observer.clear key)).filter (·.listening) = _
  rw [List.filter_map, hlisten, audience]

theorem audience_forget (key : Nat) (d : SilentDevice) :
    (d.forget key).audience = d.audience.filter (·.key ≠ key) := by
  unfold audience forget
  dsimp only
  induction d.observers with
  | nil => rfl
  | cons o os ih =>
    by_cases hkey : o.key = key
    · cases hlisten : o.listening <;> simp [hkey, hlisten, ih]
    · cases hlisten : o.listening <;> simp [hkey, hlisten, ih]

theorem audience_observe (d : SilentDevice) :
    d.observe.2.audience = d.audience ++ [{ key := d.observed }] := List.filter_append ..

theorem observer?_eq (key : Nat) (d : SilentDevice) :
    d.observer? key = d.audience.find? (·.key = key) := by
  rw [audience, List.find?_filter, observer?]
  congr 1
  funext o
  rw [Bool.and_comm, Bool.decide_and, Bool.decide_eq_true, Bool.decide_eq_true]

theorem audience_release (d : SilentDevice) : d.release.audience = d.audience := by
  rw [release_eq]
  rfl

end SilentDevice

/-! ### The subscription -/

/-- An observer and an audience belong together: nobody observes, or the observer is the
audience, with these positions waiting for it. -/
inductive Subscribed : Option (List Position) → Option Nat × List Observer → Prop
  | off : Subscribed none (none, [])
  | on (key : Nat) (queue : List Position) : Subscribed (some queue) (some key, [{ key, queue }])

/-- A change of the observer's queue is a change of what waits. -/
theorem Subscribed.map {waiting : Option (List Position)} {observer : Option Nat}
    {audience : List Observer} (h : Subscribed waiting (observer, audience))
    {f : Observer → Observer} {g : List Position → List Position}
    (hf : ∀ key ∈ observer, ∀ queue, f { key, queue } = { key, queue := g queue }) :
    Subscribed (waiting.map g) (observer, audience.map f) := by
  cases h with
  | off => exact .off
  | on key queue =>
    rw [List.map_singleton, hf key rfl]
    exact .on key (g queue)

namespace Conductor

variable {W : Type} {c d : Conductor SilentDevice W} {waiting : Option (List Position)}

def subscription (c : Conductor SilentDevice W) : Option Nat × List Observer :=
  (c.observer, c.device.audience)

/-- These positions wait for the next dispatch; `none` if the conductor does not observe. -/
def Awaits (c : Conductor SilentDevice W) (waiting : Option (List Position)) : Prop :=
  Subscribed waiting c.subscription

theorem subscription_of_quiet (h : c.quiet = d.quiet) : c.subscription = d.subscription :=
  eq_of_quiet (fun _ => rfl) h

theorem subscription_setStage (stage : Stage) (c : Conductor SilentDevice W) :
    (c.setStage stage).subscription = c.subscription :=
  subscription_of_quiet (d := { c with stage }) (quiet_setStage stage c)

theorem Awaits.of_subscription (h : c.Awaits waiting) (hd : d.subscription = c.subscription) :
    d.Awaits waiting := by
  rw [Awaits, hd]
  exact h

theorem Awaits.unseen (h : c.Awaits waiting) : c.unseen.1 = waiting.getD [] := by
  unfold Awaits subscription at h
  unfold Conductor.unseen
  generalize ho : c.observer = observer, ha : c.device.audience = audience at h
  cases h with
  | off => rfl
  | on key queue =>
    have hfound : c.device.observer? key = some { key, queue } := by
      rw [SilentDevice.observer?_eq, ha]
      exact List.find?_cons_of_pos (decide_eq_true rfl)
    change ((c.device.observer? key).map (·.queue)).getD [] = queue
    rw [hfound]
    rfl

/-- Without a rendering the conductor does not observe. -/
theorem Awaits.release (h : c.Awaits waiting) : c.release.Awaits none := by
  unfold Awaits subscription at h
  have hsub : c.release.subscription =
      (none, c.observer.elim c.device.audience fun key =>
        c.device.audience.filter (·.key ≠ key)) := by
    refine Prod.ext rfl ?_
    change (SilentDevice.release _).audience = _
    rw [SilentDevice.audience_release]
    cases c.observer with
    | none => rfl
    | some key => exact SilentDevice.audience_forget key c.device
  rw [Awaits, hsub]
  generalize c.observer = observer, c.device.audience = audience at h
  cases h with
  | off => exact .off
  | on key queue => simpa using Subscribed.off

theorem Awaits.observe (h : c.Awaits none) :
    c.observe.Awaits (if c.settings.reportPositions then some [] else none) := by
  unfold Conductor.observe
  by_cases hs : c.settings.reportPositions = true
  · rw [if_pos hs, if_pos hs]
    have ha : c.device.audience = [] := by
      unfold Awaits subscription at h
      generalize c.observer = observer, c.device.audience = audience at h
      cases h
      rfl
    have hsub : Subscribed (some []) (some c.device.observed, c.device.observe.2.audience) := by
      rw [SilentDevice.audience_observe, ha]
      exact .on c.device.observed []
    exact hsub
  · rw [if_neg hs, if_neg hs]
    exact h

theorem Awaits.audience_length (h : c.Awaits waiting) : c.device.audience.length ≤ 1 := by
  unfold Awaits subscription at h
  generalize c.observer = observer, c.device.audience = audience at h
  cases h with
  | off => exact Nat.zero_le _
  | on key queue => exact Nat.le_refl _

/-! ### Rendering -/

section Rendering

variable [FileStore W]

/-- A render that is begun opens a new subscription if it succeeds and the settings ask for
positions, and leaves none otherwise. -/
theorem Awaits.ensureRendered {source : String} (h : c.Awaits waiting)
    (due : c.due? = some source) :
    c.ensureRendered.2.Awaits
      (if c.ensureRendered.1.isOk && c.settings.reportPositions then some [] else none) := by
  have released : c.release.Awaits none := h.release
  have exchanged : c.exchange.Awaits none := released.of_subscription rfl
  rw [ensureRendered_due due]
  cases hr : c.device.failsNextStart with
  | true =>
    rw [renderAfresh_refused source hr]
    exact released.of_subscription rfl
  | false =>
    cases hm : Score.realize c.libraries c.settings.defaultLibrary source with
    | error f =>
      obtain ⟨hresult, hquiet⟩ := renderAfresh_error hr hm
      rw [hresult]
      exact exchanged.release.of_subscription ((subscription_of_quiet hquiet).trans rfl)
    | ok r =>
      obtain ⟨hresult, hquiet⟩ := renderAfresh_ok hr hm
      have loaded : Awaits
          { c.exchange with
            rendering := some r, source := some source
            device := { c.exchange.device with graph := r.graph } } none :=
        exchanged.of_subscription rfl
      rw [hresult]
      exact loaded.observe.of_subscription ((subscription_of_quiet hquiet).trans rfl)

theorem subscription_render (c : Conductor SilentDevice W) :
    c.render.subscription = c.ensureRendered.2.subscription := by
  cases h : c.ensureRendered.1 with
  | error f => rw [render_failed h, subscription_of_quiet (quiet_report ..)]
  | ok u => rw [render_done h]

theorem subscription_play (c : Conductor SilentDevice W) :
    c.play.subscription = c.ensureRendered.2.subscription := by
  cases h : c.ensureRendered.1 with
  | error f => rw [play_failed h, subscription_of_quiet (quiet_report ..)]
  | ok u =>
    rw [play_started h rfl, subscription_setStage]
    rfl

theorem subscription_not_due (h : c.due? = none) :
    c.ensureRendered.2.subscription = c.subscription := by
  rcases ensureRendered_not_due h with ⟨-, he⟩ | ⟨-, he⟩ <;> rw [he]; rfl

end Rendering

end Conductor

/-! ### Every action -/

namespace Action

/-- The position that the action gives to the device. -/
def position? : Action → Option Position
  | advance p => some p
  | loop => some .zero
  | _ => none

def isDispatch : Action → Bool
  | dispatch => true
  | _ => false

/-- What waits after an action that begins no render, if this waited before it. -/
def waiting (queue : List Position) (a : Action) : List Position :=
  if a.isDispatch then [] else queue ++ a.position?.toList

end Action

namespace Conductor

variable {W : Type} [FileStore W] {c : Conductor SilentDevice W}
  {waiting : Option (List Position)} {a : Action}

theorem Awaits.begun {source : String} (h : c.Awaits waiting) (hb : a.begun? c = some source) :
    (a.perform c).Awaits
      (if (a.perform c).rendering.isSome && c.settings.reportPositions then some [] else none) := by
  cases a with
  | render =>
    rw [Action.rendering_perform rfl, isSome_rendering hb]
    exact (h.ensureRendered hb).of_subscription (subscription_render c)
  | play =>
    rw [Action.rendering_perform rfl, isSome_rendering hb]
    exact (h.ensureRendered hb).of_subscription (subscription_play c)
  | _ => cases hb

omit [FileStore W] in
theorem Filed.subscription {c' : Conductor SilentDevice W} (h : c.Filed c') :
    c'.subscription = c.subscription := by
  obtain ⟨_, _, _, _, rfl⟩ := h
  rfl

omit [FileStore W] in
theorem Awaits.dispatch (h : c.Awaits waiting) : c.dispatch.Awaits (waiting.map fun _ => []) := by
  have hsub : c.dispatch.subscription =
      (c.observer, c.observer.elim c.device.audience fun key =>
        c.device.audience.map (Observer.clear key)) := by
    refine Prod.ext (dispatch_observer c) ?_
    change c.dispatch.device.audience = _
    rw [dispatch_device, Conductor.unseen]
    cases c.observer with
    | none => rfl
    | some key => exact SilentDevice.audience_takePositions key (AudioDevice.takeEvents c.device).2
  rw [Awaits, hsub]
  unfold Awaits Conductor.subscription at h
  cases ho : c.observer with
  | none =>
    rw [ho] at h
    generalize c.device.audience = audience at h
    cases h
    exact .off
  | some key =>
    rw [ho] at h
    exact h.map fun _ hk _ => if_pos (Option.mem_some_iff.1 hk).symm

omit [FileStore W] in
theorem Awaits.advance (h : c.Awaits waiting) (p : Position) :
    Awaits { c with device := c.device.advance p } (waiting.map (· ++ [p])) := by
  have hsub : Conductor.subscription { c with device := c.device.advance p } =
      (c.observer, c.device.audience.map (Observer.tell p)) :=
    Prod.ext rfl (SilentDevice.audience_advance p c.device)
  rw [Awaits, hsub]
  exact h.map fun _ _ _ => rfl

theorem Awaits.rest (h : c.Awaits waiting) (hb : a.begun? c = none) :
    (a.perform c).Awaits (waiting.map fun queue => a.waiting queue) := by
  have same {b : Action} (hs : (b.perform c).subscription = c.subscription)
      (hn : (b.isDispatch, b.position?) = (false, none)) :
      (b.perform c).Awaits (waiting.map fun queue => b.waiting queue) := by
    obtain ⟨hd, hp⟩ := Prod.mk.inj hn
    have hw : (waiting.map fun queue => b.waiting queue) = waiting := by
      cases waiting <;> simp [Action.waiting, hd, hp]
    rw [hw]
    exact h.of_subscription hs
  cases a with
  | render => exact same ((subscription_render c).trans (subscription_not_due hb)) rfl
  | play => exact same ((subscription_play c).trans (subscription_not_due hb)) rfl
  | pause =>
    have ho := congrArg Performance.observer (performance_pause c)
    have ha : c.pause.device.audience = c.device.audience := by rw [pause_device]; rfl
    exact same (Prod.ext ho ha) rfl
  | stop =>
    have ho := congrArg Performance.observer (performance_stop c)
    have ha : c.stop.device.audience = c.device.audience := by rw [stop_device]; rfl
    exact same (Prod.ext ho ha) rfl
  | dispatch => exact h.dispatch
  | addFile => exact same (filed_addFile c).subscription rfl
  | destroyFile uid => exact same (filed_destroyFile uid c).subscription rfl
  | selectFile uid => exact same (filed_selectFile uid c).subscription rfl
  | save => exact same (filed_save c).subscription rfl
  | setSource source => exact same (filed_setSource source c).subscription rfl
  | configure change => exact same rfl rfl
  | failNextStart => exact same rfl rfl
  | advance p => exact h.advance p
  | loop => exact h.advance .zero

/-! ### Runs -/

theorem awaits_run (actions : List Action) (h : c.Awaits waiting) :
    ∃ waiting, (run actions c).Awaits waiting := by
  refine run_keeps (P := fun c => ∃ waiting, c.Awaits waiting) ?_ actions ⟨waiting, h⟩
  rintro a c ⟨waiting, h⟩
  cases hb : a.begun? c with
  | some source => exact ⟨_, h.begun hb⟩
  | none => exact ⟨_, h.rest hb⟩

/-- The positions given since the last dispatch. -/
def undispatched (actions : List Action) : List Position :=
  (actions.rtakeWhile (!·.isDispatch)).filterMap Action.position?

theorem foldl_waiting (actions : List Action) :
    actions.foldl Action.waiting [] = undispatched actions := by
  induction actions using List.reverseRecOn with
  | nil => rfl
  | append_singleton as a ih =>
    have hlast : undispatched (as ++ [a]) = Action.waiting (undispatched as) a := by
      rw [undispatched, List.rtakeWhile_concat, Action.waiting]
      cases a.isDispatch with
      | true => rfl
      | false =>
        rw [Bool.not_false, if_pos rfl, if_neg nofun, List.filterMap_append, undispatched]
        cases hp : a.position? <;> simp [hp]
    rw [List.foldl_append, ih, hlast]
    rfl

theorem NoneBegun.awaits {as : List Action} (hn : NoneBegun as c) (h : c.Awaits waiting) :
    (run as c).Awaits (waiting.map fun queue => as.foldl Action.waiting queue) := by
  induction as generalizing c waiting with
  | nil => simpa using h
  | cons a as ih =>
    obtain ⟨ha, hs⟩ := noneBegun_cons.1 hn
    have hrest := ih hs (h.rest ha)
    rw [Option.map_map] at hrest
    exact hrest

/-- With a rendering live, what waits is what was given since the later of its render and the
last dispatch, if positions were asked for at that render. -/
theorem LastBegun.awaits {actions before : List Action} {after : List Action} {source : String}
    (hl : LastBegun c actions before a after source) (h : c.Awaits waiting)
    (live : (run actions c).rendering.isSome = true) :
    (run actions c).Awaits
      (if (run before c).settings.reportPositions then some (undispatched after) else none) := by
  obtain ⟨earlier, hbefore⟩ := awaits_run before h
  have hbegun := hbefore.begun hl.begun
  rw [hl.run_eq] at live ⊢
  rw [hl.none_later.rendering_eq.1] at live
  rw [live, Bool.true_and] at hbegun
  have hafter := hl.none_later.awaits hbegun
  cases hs : (run before c).settings.reportPositions with
  | false =>
    rw [hs] at hafter
    exact hafter
  | true =>
    rw [hs, if_pos rfl, Option.map_some, foldl_waiting] at hafter
    exact hafter

end Conductor

/-! ### What is passed on -/

/-- The positions that a dispatch passes on. -/
def Action.relays {W : Type} [FileStore W] : Action → Conductor SilentDevice W → List Position
  | dispatch, c => (Conductor.emitted Action.dispatch.perform c).filterMap Event.position?
  | _, _ => []

theorem Action.relays_of_not_dispatch {W : Type} [FileStore W] {a : Action}
    (h : a.isDispatch = false) (c : Conductor SilentDevice W) : a.relays c = [] := by
  cases a with
  | dispatch => cases h
  | _ => rfl

namespace Conductor

variable {W : Type} [FileStore W] {c : Conductor SilentDevice W}
  {waiting : Option (List Position)}

theorem filterMap_position? (moves : List TransportEvent) (positions : List Position) :
    (moves.map Event.transport ++ positions.map Event.position).filterMap Event.position? =
      positions := by
  have hmoves : (moves.map Event.transport).filterMap Event.position? = [] := by
    rw [List.filterMap_map]
    exact List.filterMap_eq_nil_iff.2 fun _ _ => rfl
  rw [List.filterMap_append, hmoves, List.nil_append, List.filterMap_map]
  exact List.filterMap_some

theorem Awaits.relays (h : c.Awaits waiting) (hb : c.bus.Complete) :
    Action.dispatch.relays c = waiting.getD [] := by
  have hemitted : emitted Action.dispatch.perform c =
      c.device.events.map Event.transport ++ c.unseen.1.map Event.position := by
    have he := (Action.dispatch.reports_perform.events c hb).symm.trans (dispatch_events hb)
    rw [List.append_assoc] at he
    exact List.append_cancel_left he
  rw [Action.relays, hemitted, filterMap_position?, h.unseen]

/-- What an action passes on and leaves waiting had been waiting, or is given by it. -/
theorem Awaits.perform (h : c.Awaits waiting) (hb : c.bus.Complete) (a : Action) :
    ∃ waiting', (a.perform c).Awaits waiting' ∧
      (a.relays c ++ waiting'.getD []).Sublist (waiting.getD [] ++ a.position?.toList) := by
  cases hbegun : a.begun? c with
  | some source =>
    refine ⟨_, h.begun hbegun, ?_⟩
    have hnone : a.relays c = [] := by
      cases a with
      | render | play => rfl
      | _ => cases hbegun
    have hdropped (b : Bool) : (if b then some [] else none).getD [] = ([] : List Position) := by
      cases b <;> rfl
    rw [hnone, hdropped]
    exact List.nil_sublist _
  | none =>
    refine ⟨_, h.rest hbegun, ?_⟩
    cases hd : a.isDispatch with
    | true =>
      cases a with
      | dispatch =>
        rw [h.relays hb]
        cases waiting <;> exact .refl _
      | _ => cases hd
    | false =>
      rw [Action.relays_of_not_dispatch hd]
      cases waiting with
      | none => exact List.nil_sublist _
      | some queue =>
        rw [Option.map_some, Action.waiting, hd]
        exact .refl _

/-- Each position that is passed on was given before, and is passed on once and in its turn. -/
theorem Awaits.relays_run (h : c.Awaits waiting) (hb : c.bus.Complete) (actions : List Action) :
    ((steps actions c).flatMap fun (a, c) => a.relays c).Sublist
      (waiting.getD [] ++ actions.flatMap fun a => a.position?.toList) := by
  induction actions generalizing c waiting with
  | nil => exact List.nil_sublist _
  | cons a as ih =>
    have hb' : (a.perform c).bus.Complete := a.complete_perform hb
    obtain ⟨waiting', h', hstep⟩ := h.perform hb a
    have hrest := (ih h' hb').append_left (a.relays c)
    rw [← List.append_assoc] at hrest
    rw [steps, List.flatMap_cons, List.flatMap_cons, ← List.append_assoc]
    exact hrest.trans (hstep.append_right _)

/-- The positions that reach the listeners. Each dispatch emits the queued moves and then, if a
rendering is live that was made while positions were asked for, the positions given since the
later of its render and the dispatch before; otherwise it emits no position. So nothing is
passed on twice, and the device keeps one observer at most once its transport has moved. -/
theorem positions_relayed_once (settings : Settings) (libraries : List Library) (random : Random)
    (store : W) (listeners : Channel → List Nat) (actions : List Action) :
    let start : Conductor SilentDevice W :=
      { launch settings libraries random store with
        bus := ⟨Channel.all.map fun channel => (channel, listeners channel)⟩ }
    let c := run actions start
    let moves := c.device.events.map Event.transport
    (c.rendering = none → c.dispatch.out.events = c.out.events ++ moves) ∧
      (c.rendering.isSome = true →
        ∃ before a after source, LastBegun start actions before a after source ∧
          c.dispatch.out.events = c.out.events ++ moves ++
            if (run before start).settings.reportPositions then
              (undispatched after).map Event.position
            else []) ∧
      ((steps actions start).flatMap fun (a, c) => a.relays c).Sublist
        (actions.flatMap fun a => a.position?.toList) ∧
      (∀ p, (c.device.advance p).observers.length ≤ 1) ∧
      c.device.loop.observers.length ≤ 1 := by
  intro start c moves
  have hs : start.bus.Complete := Bus.complete_all listeners
  have hb : c.bus.Complete := complete_run actions hs
  have launched : start.Awaits none := .off
  have coherent : c.performance.Coherent :=
    coherent_run actions (coherent_launch settings libraries random store)
  obtain ⟨waiting, hc⟩ := awaits_run actions launched
  have alone (p : Position) : (c.device.advance p).observers.length ≤ 1 := by
    rw [SilentDevice.observers_advance, List.length_map]
    exact hc.audience_length
  refine ⟨fun hnone => ?_, fun live => ?_, launched.relays_run hs actions, alone, alone .zero⟩
  · have hobserver : c.observer = none := by
      cases ho : c.observer with
      | none => rfl
      | some key =>
        have hlive : c.rendering.isSome = true :=
          coherent.observer (show c.observer.isSome = true by rw [ho]; rfl)
        rw [hnone] at hlive
        cases hlive
    have hunseen : c.unseen.1 = [] := by rw [unseen, hobserver]
    rw [dispatch_events hb, hunseen]
    exact List.append_nil _
  · obtain ⟨r, hr⟩ := Option.isSome_iff_exists.1 live
    obtain ⟨before, a, after, source, hl, -, -⟩ := exists_lastBegun_of_live rfl hr
    refine ⟨before, a, after, source, hl, ?_⟩
    rw [dispatch_events hb, (hl.awaits launched live).unseen]
    cases (run before start).settings.reportPositions <;> rfl

end Conductor

end Studio
