import Studio.Proofs.Conductor.Subscription

/-! The position that was told last. A stop tells the start of the piece at once, and the
device's transport is there too. Positions that were given before the stop and not yet
dispatched are told after it all the same, so the last one told is the start of the piece
unless a dispatch has overtaken the stop in this way. -/

namespace Studio

theorem Event.position?_eq_none {e : Event} (h : e.topic ≠ .position) : e.position? = none := by
  cases e with
  | position p => exact absurd rfl h
  | _ => rfl

theorem Action.position_not_mem_topics {a : Action} (hs : a ≠ .stop) (hd : a.isDispatch = false) :
    .position ∉ a.topics := by
  cases a with
  | stop => exact absurd rfl hs
  | dispatch => cases hd
  | _ => simp [topics]

namespace Conductor

variable {W : Type} {c : Conductor SilentDevice W} {waiting : Option (List Position)}

/-- The position that the listeners were told last. -/
def lastPosition {D : Type} (c : Conductor D W) : Option Position :=
  (c.out.events.filterMap Event.position?).getLast?

theorem lastPosition_stop (hb : c.bus.Complete) : c.stop.lastPosition = some .zero := by
  have hstop : c.stop = ({ c with device := c.device.stop }.advanceStage [.playing, .paused]
      .stopped).emit (.position .zero) := stop_done rfl
  have hbus : ({ c with device := c.device.stop }.advanceStage [.playing, .paused]
      .stopped).bus = c.bus := by
    have h := congrArg Conductor.bus (quiet_advanceStage [.playing, .paused] .stopped
      { c with device := c.device.stop })
    exact h
  rw [lastPosition, hstop, emit_events (by rw [hbus]; exact hb), List.filterMap_append]
  exact List.getLast?_concat ..

variable [FileStore W]

/-- Stopping aside, positions are told by dispatches. -/
theorem lastPosition_perform {a : Action} (h : a ≠ .stop) (hb : c.bus.Complete) :
    (a.perform c).lastPosition = (a.relays c).getLast?.or c.lastPosition := by
  have htold : (emitted a.perform c).filterMap Event.position? = a.relays c := by
    cases hd : a.isDispatch with
    | true =>
      cases a with
      | dispatch => rfl
      | _ => cases hd
    | false =>
      rw [Action.relays_of_not_dispatch hd]
      refine List.filterMap_eq_nil_iff.2 fun e he => Event.position?_eq_none fun ht => ?_
      exact Action.position_not_mem_topics h hd (ht ▸ a.reports_perform.about c e he)
  rw [lastPosition, a.reports_perform.events c hb, List.filterMap_append, htold,
    List.getLast?_append, lastPosition]

/-! ### The transport's place -/

/-- A transport at the start stays there while no position is given. -/
theorem position_perform {a : Action} (h : a.position? = none) (hb : c.bus.Complete)
    (hz : c.device.position = .zero) : (a.perform c).device.position = .zero := by
  have filed {c' : Conductor SilentDevice W} (hf : c.Filed c') : c'.device.position = .zero := by
    obtain ⟨_, _, _, _, rfl⟩ := hf
    exact hz
  have hrender : c.render.device.position = .zero := by
    obtain ⟨_, _, _, _, _, _, _, hr⟩ := refitted_render c
    rw [hr]
    exact hz
  cases a with
  | render => exact hrender
  | play =>
    rw [Action.perform, play_device hb]
    cases c.ending.fails <;> exact hrender
  | pause =>
    rw [Action.perform, pause_device]
    exact hz
  | stop =>
    rw [Action.perform, stop_device]
    rfl
  | dispatch =>
    rw [Action.perform, dispatch_device, unseen]
    cases c.observer <;> exact hz
  | addFile => exact filed (filed_addFile c)
  | destroyFile uid => exact filed (filed_destroyFile uid c)
  | selectFile uid => exact filed (filed_selectFile uid c)
  | save => exact filed (filed_save c)
  | setSource source => exact filed (filed_setSource source c)
  | configure change => exact hz
  | failNextStart => exact hz
  | advance p => cases h
  | loop => cases h

end Conductor

/-! ### After a stop -/

/-- The action neither stops the transport nor gives it a position. -/
def Action.Still (a : Action) : Prop := a ≠ .stop ∧ a.position? = none

namespace Conductor

variable {W : Type} [FileStore W] {c : Conductor SilentDevice W}
  {waiting : Option (List Position)}

/-- With nothing waiting, nothing is told. -/
theorem Awaits.lastPosition_eq (h : c.Awaits waiting) (hw : waiting.getD [] = [])
    (hb : c.bus.Complete) {actions : List Action} (still : ∀ a ∈ actions, a.Still) :
    (run actions c).lastPosition = c.lastPosition := by
  have hkept : (run actions c).bus.Complete ∧
      (∃ waiting, (run actions c).Awaits waiting ∧ waiting.getD [] = []) ∧
      (run actions c).lastPosition = c.lastPosition := by
    refine run_keeps_of (Q := Action.Still) (P := fun d => d.bus.Complete ∧
      (∃ waiting, d.Awaits waiting ∧ waiting.getD [] = []) ∧ d.lastPosition = c.lastPosition)
      ?_ still ⟨hb, ⟨waiting, h, hw⟩, rfl⟩
    rintro a d ⟨hstop, hgiven⟩ ⟨hd, ⟨waiting, h, hw⟩, hlast⟩
    obtain ⟨waiting', h', hsub⟩ := h.perform hd a
    rw [hw, hgiven] at hsub
    obtain ⟨hrelays, hw'⟩ := List.append_eq_nil_iff.1 (List.sublist_nil.1 hsub)
    refine ⟨a.complete_perform hd, ⟨waiting', h', hw'⟩, ?_⟩
    rw [lastPosition_perform hstop hd, hrelays]
    exact hlast
  exact hkept.2.2

/-- The run dispatches before it begins a render, if it does. -/
inductive DispatchFirst : List Action → Conductor SilentDevice W → Prop
  | now (as : List Action) (c : Conductor SilentDevice W) : DispatchFirst (.dispatch :: as) c
  | later {a : Action} {as : List Action} {c : Conductor SilentDevice W}
      (undispatched : a.isDispatch = false) (begun : a.begun? c = none)
      (rest : DispatchFirst as (a.perform c)) : DispatchFirst (a :: as) c

/-- An action that begins no render and is no dispatch leaves what waits as it is. -/
theorem Awaits.still {a : Action} (h : c.Awaits waiting) (hb : c.bus.Complete) (still : a.Still)
    (undispatched : a.isDispatch = false) (begun : a.begun? c = none) :
    (a.perform c).Awaits waiting ∧ (a.perform c).lastPosition = c.lastPosition := by
  constructor
  · have hrest := h.rest begun
    have hsame : (waiting.map fun queue => a.waiting queue) = waiting := by
      cases waiting <;> simp [Action.waiting, undispatched, still.2]
    rw [hsame] at hrest
    exact hrest
  · rw [lastPosition_perform still.1 hb, Action.relays_of_not_dispatch undispatched]
    rfl

/-- The first dispatch tells what was waiting, and nothing is told after it. -/
theorem DispatchFirst.lastPosition_run {actions : List Action} (hd : DispatchFirst actions c)
    (h : c.Awaits waiting) (hb : c.bus.Complete) (still : ∀ a ∈ actions, a.Still) :
    (run actions c).lastPosition = (waiting.getD []).getLast?.or c.lastPosition := by
  induction hd with
  | now as c =>
    obtain ⟨hdispatch, hs⟩ := List.forall_mem_cons.1 still
    have hnone : (waiting.map fun _ => ([] : List Position)).getD [] = [] := by
      cases waiting <;> rfl
    have hb' : c.dispatch.bus.Complete := Action.dispatch.complete_perform hb
    have hlast := lastPosition_perform hdispatch.1 hb
    rw [h.relays hb] at hlast
    rw [run_cons]
    exact (h.dispatch.lastPosition_eq hnone hb' hs).trans hlast
  | @later a as c undispatched begun _ ih =>
    obtain ⟨ha, hs⟩ := List.forall_mem_cons.1 still
    obtain ⟨h', hlast⟩ := h.still hb ha undispatched begun
    have hb' : (a.perform c).bus.Complete := a.complete_perform hb
    rw [run_cons, ih h' hb' hs, hlast]

/-- Without a dispatch first, nothing that was waiting is told. -/
theorem lastPosition_run_of_not_dispatchFirst {actions : List Action}
    (hd : ¬ DispatchFirst actions c) (h : c.Awaits waiting) (hb : c.bus.Complete)
    (still : ∀ a ∈ actions, a.Still) : (run actions c).lastPosition = c.lastPosition := by
  induction actions generalizing c waiting with
  | nil => rfl
  | cons a as ih =>
    obtain ⟨ha, hs⟩ := List.forall_mem_cons.1 still
    have hb' : (a.perform c).bus.Complete := a.complete_perform hb
    have undispatched : a.isDispatch = false := by
      cases a with
      | dispatch => exact absurd (.now as c) hd
      | _ => rfl
    rw [run_cons]
    cases hbegun : a.begun? c with
    -- The render closes the subscription, and what was waiting goes with it.
    | some source =>
      have hnone (b : Bool) : (if b then some [] else none).getD [] = ([] : List Position) := by
        cases b <;> rfl
      rw [(h.begun hbegun).lastPosition_eq (hnone _) hb' hs, lastPosition_perform ha.1 hb,
        Action.relays_of_not_dispatch undispatched]
      rfl
    | none =>
      obtain ⟨h', hlast⟩ := h.still hb ha undispatched hbegun
      rw [ih (fun hrest => hd (.later undispatched hbegun hrest)) h' hb' hs, hlast]

/-- The run ends in a stop and what followed it, no position among that. When the stop came,
positions were waiting, the last of them not the start of the piece, and a dispatch followed
before any render was begun. -/
def Overtaken (c : Conductor SilentDevice W) (actions : List Action) : Prop :=
  ∃ before after p, actions = before ++ .stop :: after ∧ (∀ a ∈ after, a.Still) ∧
    DispatchFirst after (run before c).stop ∧
    (run before c).unseen.1.getLast? = some p ∧ p ≠ .zero

/-- After the last stop of a run the start of the piece is what was told last, unless a dispatch
has told what was waiting. -/
theorem lastPosition_after_stop {before after : List Action} (hb : c.bus.Complete)
    (h : (run before c).Awaits waiting) (still : ∀ a ∈ after, a.Still) :
    (run (before ++ .stop :: after) c).lastPosition = some .zero ↔
      ¬ (DispatchFirst after (run before c).stop ∧
        ∃ p, (run before c).unseen.1.getLast? = some p ∧ p ≠ .zero) := by
  have hbefore : (run before c).bus.Complete := complete_run before hb
  have hstop : (run before c).stop.bus.Complete := Action.stop.complete_perform hbefore
  have hwaiting : (waiting.map fun queue => Action.stop.waiting queue) = waiting := by
    cases waiting <;> simp [Action.waiting, Action.isDispatch, Action.position?]
  have stopped : (run before c).stop.Awaits waiting := hwaiting ▸ h.rest rfl
  have hzero : (run before c).stop.lastPosition = some .zero := lastPosition_stop hbefore
  have hrun : run (before ++ .stop :: after) c = run after (run before c).stop := run_append ..
  rw [hrun, h.unseen]
  by_cases hd : DispatchFirst after (run before c).stop
  · rw [hd.lastPosition_run stopped hstop still, hzero]
    cases hlast : (waiting.getD []).getLast? with
    | none =>
      refine iff_of_true rfl ?_
      rintro ⟨-, p, hp, -⟩
      cases hp
    | some p =>
      by_cases hp : p = .zero
      · refine iff_of_true (congrArg some hp) ?_
        rintro ⟨-, _, ⟨⟩, hne⟩
        exact hne hp
      · exact iff_of_false (fun he => hp (Option.some.inj he)) fun hn => hn ⟨hd, p, rfl, hp⟩
  · rw [lastPosition_run_of_not_dispatchFirst hd stopped hstop still]
    exact iff_of_true hzero fun hn => hd hn.1

/-- A run in which no position is given after some stop splits at its last stop. -/
theorem exists_last_stop (before : List Action) {after : List Action}
    (still : ∀ a ∈ after, a.position? = none) :
    ∃ before' after', before ++ .stop :: after = before' ++ .stop :: after' ∧
      ∀ a ∈ after', a.Still := by
  induction after using List.reverseRecOn with
  | nil => exact ⟨before, [], rfl, nofun⟩
  | append_singleton as a ih =>
    obtain ⟨hs, ha⟩ := List.forall_mem_append.1 still
    by_cases hstop : a = .stop
    · exact ⟨before ++ .stop :: as, [], by simp [hstop], nofun⟩
    · obtain ⟨before', after', hsplit, hstill⟩ := ih hs
      refine ⟨before', after' ++ [a], ?_, ?_⟩
      · rw [← List.cons_append, ← List.append_assoc, hsplit, List.append_assoc, List.cons_append]
      · intro b hm
        rcases List.mem_append.1 hm with hm | hm
        · exact hstill b hm
        · rw [List.mem_singleton.1 hm]
          exact ⟨hstop, ha a (.head _)⟩

/-- Once the transport is stopped, and while it is given no position, it stands at the start of
the piece. That is also what the listeners were told last, unless a dispatch has overtaken the
stop with positions that were waiting. -/
theorem start_told_last_iff_not_overtaken (settings : Settings) (libraries : List Library)
    (random : Random) (store : W) (listeners : Channel → List Nat) (before after : List Action)
    (still : ∀ a ∈ after, a.position? = none) :
    let start : Conductor SilentDevice W :=
      { launch settings libraries random store with
        bus := ⟨Channel.all.map fun channel => (channel, listeners channel)⟩ }
    let actions := before ++ .stop :: after
    let c := run actions start
    c.device.position = .zero ∧ (c.lastPosition = some .zero ↔ ¬ Overtaken start actions) := by
  intro start actions c
  have hs : start.bus.Complete := Bus.complete_all listeners
  have launched : start.Awaits none := .off
  refine ⟨?_, ?_, ?_⟩
  · have hbefore : (run before start).bus.Complete := complete_run before hs
    have hrun : c = run after (run before start).stop := run_append ..
    have hstopped : (run before start).stop.device.position = .zero := by
      rw [stop_device]
      rfl
    have hkept : c.bus.Complete ∧ c.device.position = .zero := by
      rw [hrun]
      exact run_keeps_of (Q := fun a => a.position? = none)
        (P := fun d => d.bus.Complete ∧ d.device.position = .zero)
        (fun a d ha hd => ⟨a.complete_perform hd.1, position_perform ha hd.1 hd.2⟩) still
        ⟨Action.stop.complete_perform hbefore, hstopped⟩
    exact hkept.2
  · rintro hzero ⟨before', after', p, hsplit, hstill, hd, hlast, hp⟩
    obtain ⟨waiting, h⟩ := awaits_run before' launched
    have hc : c = run (before' ++ .stop :: after') start := congrArg (run · start) hsplit
    rw [hc] at hzero
    exact (lastPosition_after_stop hs h hstill).1 hzero ⟨hd, p, hlast, hp⟩
  · intro hn
    obtain ⟨before', after', hsplit, hstill⟩ := exists_last_stop before still
    obtain ⟨waiting, h⟩ := awaits_run before' launched
    have hc : c = run (before' ++ .stop :: after') start := congrArg (run · start) hsplit
    rw [hc]
    refine (lastPosition_after_stop hs h hstill).2 ?_
    rintro ⟨hd, p, hlast, hp⟩
    exact hn ⟨before', after', p, hsplit, hstill, hd, hlast, hp⟩

/-- A position waits when the stop comes, and dispatches follow. -/
theorem stopped_with_position_waiting :
    let listeners : Channel → List Nat := fun _ => [7]
    let start : Conductor SilentDevice Workspace :=
      { launch {} novice.libraries ⟨1⟩ {} with
        bus := ⟨Channel.all.map fun channel => (channel, listeners channel)⟩ }
    let before : List Action := [.addFile, .play, .advance ⟨4, 0, 0⟩]
    let after : List Action := [.dispatch, .pause, .dispatch]
    let actions := before ++ .stop :: after
    let c := run actions start
    (∀ a ∈ after, a.position? = none) ∧ c.device.position = .zero ∧
      (c.lastPosition = some .zero ↔ ¬ Overtaken start actions) :=
  ⟨by decide, start_told_last_iff_not_overtaken {} novice.libraries ⟨1⟩ ({} : Workspace)
    (fun _ => [7]) [.addFile, .play, .advance ⟨4, 0, 0⟩] [.dispatch, .pause, .dispatch] (by decide)⟩

/-- The position given before the stop is told after it. -/
theorem stop_overtaken_by_waiting_position :
    let c := run [.addFile, .play, .advance ⟨4, 0, 0⟩, .stop, .dispatch] novice
    ¬ (c.lastPosition = some .zero ∧ .zero = c.device.position) := by
  decide +kernel

end Conductor

end Studio
