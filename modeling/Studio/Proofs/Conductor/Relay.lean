import Studio.Proofs.Conductor.Blocks
import Studio.Proofs.Service.Draining

/-! What becomes of the transport's moves. The silent device queues each move as it makes
it, with the state that it is in then, and a dispatch empties the queue into the outbox. So
at any time the outbox and the queue, one after the other, tell all that has happened to the
transport. -/

namespace Studio

/-- The move that an event tells of. -/
def Event.transport? : Event → Option TransportEvent
  | .transport e => some e
  | _ => none

theorem Event.transport?_eq_none {e : Event} (h : e.topic ≠ .transport) : e.transport? = none := by
  cases e with
  | transport e => exact absurd rfl h
  | _ => rfl

/-- From one device to another there are these moves: none, and the transport does what it
did, or one, which is queued with what the transport does after it. -/
inductive SilentDevice.Moved (d d' : SilentDevice) : List TransportEvent → Prop
  | still (state : d'.state = d.state) (events : d'.events = d.events) : Moved d d' []
  | moved (move : Move) (events : d'.events = d.events ++ [⟨move, d'.state⟩]) :
      Moved d d' [⟨move, d'.state⟩]

namespace Action

variable {W : Type} [FileStore W]

/-- The action reports an error. -/
def fails (a : Action) (c : Conductor SilentDevice W) : Bool :=
  (Conductor.emitted a.perform c).any (·.topic = .error)

/-- What the action makes happen to the transport, with what the transport does right after
it. -/
def moves : Action → Conductor SilentDevice W → List TransportEvent
  | play, c => if play.fails c then [] else [⟨.start, c.play.device.state⟩]
  | pause, c => [⟨.pause, c.pause.device.state⟩]
  | stop, c => [⟨.stop, c.stop.device.state⟩]
  | loop, c => [⟨.loop, c.device.state⟩]
  | _, _ => []

end Action

namespace Conductor

variable {W : Type} [FileStore W] {c : Conductor SilentDevice W}

/-- The moves that have been reported. -/
def told {D : Type} (c : Conductor D W) : List TransportEvent :=
  c.out.events.filterMap Event.transport?

/-! ### One action -/

omit [FileStore W] in
theorem Filed.moved {c' : Conductor SilentDevice W} (h : c.Filed c') :
    c.device.Moved c'.device [] := by
  obtain ⟨_, _, _, _, rfl⟩ := h
  exact .still rfl rfl

/-- Rendering and playing report an error just when the rendering fails. -/
theorem fails_of_asks {a : Action} (h : a.asks = true) (hb : c.bus.Complete) :
    a.fails c = c.ending.fails := by
  obtain ⟨message, cause, he⟩ := Action.emitted_of_asks h hb
  rw [Action.fails, he]
  cases c.ending <;> rfl

theorem moved_play (hb : c.bus.Complete) : c.device.Moved c.play.device (Action.play.moves c) := by
  obtain ⟨state, events⟩ := moves_render c
  have hdevice := play_device hb
  rw [Action.moves, fails_of_asks rfl hb]
  cases hfails : c.ending.fails with
  | true =>
    rw [hfails, if_pos rfl] at hdevice
    rw [if_pos rfl, hdevice]
    exact .still state events
  | false =>
    rw [hfails, if_neg nofun] at hdevice
    rw [if_neg nofun, hdevice]
    exact .moved .start (congrArg (· ++ _) events)

omit [FileStore W] in
theorem advanceStage_device (sources : List Stage) (stage : Stage) (c : Conductor SilentDevice W) :
    (c.advanceStage sources stage).device = c.device := by
  have h := congrArg Conductor.device (quiet_advanceStage sources stage c)
  exact h

omit [FileStore W] in
theorem pause_device (c : Conductor SilentDevice W) : c.pause.device = c.device.pause := by
  have hpause : c.pause = { c with device := c.device.pause }.advanceStage [.playing] .paused :=
    pause_done rfl
  rw [hpause, advanceStage_device]

omit [FileStore W] in
theorem stop_device (c : Conductor SilentDevice W) : c.stop.device = c.device.stop := by
  have hstop : c.stop = ({ c with device := c.device.stop }.advanceStage [.playing, .paused]
      .stopped).emit (.position .zero) := stop_done rfl
  rw [hstop, device_of_quiet (quiet_emit ..), advanceStage_device]

/-- All actions but a dispatch move the device as they say. -/
theorem moved_perform {a : Action} (h : a ≠ .dispatch) (hb : c.bus.Complete) :
    c.device.Moved (a.perform c).device (a.moves c) := by
  cases a with
  | dispatch => exact absurd rfl h
  | render => exact .still (moves_render c).1 (moves_render c).2
  | play => exact moved_play hb
  | pause => exact .moved .pause (by rw [Action.perform, pause_device]; rfl)
  | stop => exact .moved .stop (by rw [Action.perform, stop_device]; rfl)
  | addFile => exact (filed_addFile c).moved
  | destroyFile uid => exact (filed_destroyFile uid c).moved
  | selectFile uid => exact (filed_selectFile uid c).moved
  | save => exact (filed_save c).moved
  | setSource source => exact (filed_setSource source c).moved
  | configure change => exact .still rfl rfl
  | failNextStart => exact .still rfl rfl
  | advance p => exact .still rfl rfl
  | loop => exact .moved .loop rfl

/-- They tell of none of the moves. -/
theorem told_perform {a : Action} (h : a ≠ .dispatch) (hb : c.bus.Complete) :
    (a.perform c).told = c.told := by
  have hr := a.reports_perform (W := W)
  have silent : (emitted a.perform c).filterMap Event.transport? = [] := by
    refine List.filterMap_eq_nil_iff.2 fun e he => Event.transport?_eq_none fun ht => ?_
    exact Action.transport_not_mem_topics h (ht ▸ hr.about c e he)
  rw [told, hr.events c hb, List.filterMap_append, silent, List.append_nil, told]

/-! ### A dispatch -/

omit [FileStore W] in
theorem dispatch_events (hb : c.bus.Complete) :
    c.dispatch.out.events =
      c.out.events ++ c.device.events.map Event.transport ++ c.unseen.1.map Event.position := by
  have hbus : c.relayed.bus.Complete := by
    have h := congrArg Conductor.bus (quiet_relayed c)
    exact h ▸ hb
  rw [dispatch_eq, foldl_emit_events _ (by exact hbus)]
  exact congrArg (· ++ _) (foldl_emit_events _ (by exact hb))

omit [FileStore W] in
theorem told_dispatch (hb : c.bus.Complete) : c.dispatch.told = c.told ++ c.device.events := by
  have htransport : (c.device.events.map Event.transport).filterMap Event.transport? =
      c.device.events := by
    rw [List.filterMap_map]
    exact List.filterMap_some
  have hposition : (c.unseen.1.map Event.position).filterMap Event.transport? = [] := by
    rw [List.filterMap_map]
    exact List.filterMap_eq_nil_iff.2 fun _ _ => rfl
  rw [told, dispatch_events hb, List.filterMap_append, List.filterMap_append, htransport, hposition,
    List.append_nil, told]

omit [FileStore W] in
theorem moves_dispatch (c : Conductor SilentDevice W) :
    c.dispatch.device.events = [] ∧ c.dispatch.device.state = c.device.state := by
  rw [dispatch_device, unseen]
  cases c.observer <;> exact ⟨rfl, rfl⟩

/-! ### Runs -/

/-- The moves that have been reported and those in the queue are this history, and the last
of them tells what the transport is doing. -/
structure Accounts (c : Conductor SilentDevice W) (history : List TransportEvent) : Prop where
  complete : c.told ++ c.device.events = history
  current : ∀ e ∈ history.getLast?, e.state = c.device.state

theorem Accounts.perform {history : List TransportEvent} (h : c.Accounts history) (a : Action)
    (hb : c.bus.Complete) : (a.perform c).Accounts (history ++ a.moves c) := by
  by_cases ha : a = .dispatch
  -- The queue goes into the outbox as it is, and nothing happens to the transport.
  · subst ha
    have hmoves : Action.dispatch.moves c = [] := rfl
    have hperform : Action.dispatch.perform c = c.dispatch := rfl
    obtain ⟨hevents, hstate⟩ := moves_dispatch c
    rw [hmoves, hperform, List.append_nil]
    refine ⟨?_, fun e he => (h.current e he).trans hstate.symm⟩
    rw [told_dispatch hb, hevents, List.append_nil, h.complete]
  -- Nothing is told, and what happens to the transport goes to the end of the queue.
  · have htold := told_perform ha hb
    have hmoved := moved_perform ha hb
    generalize a.moves c = moves at hmoved ⊢
    cases hmoved with
    | still state events =>
      rw [List.append_nil]
      refine ⟨?_, fun e he => (h.current e he).trans state.symm⟩
      rw [htold, events, h.complete]
    | moved move events =>
      refine ⟨?_, fun e he => ?_⟩
      · rw [htold, events, ← List.append_assoc, h.complete]
      · rw [List.getLast?_concat, Option.mem_some_iff] at he
        rw [← he]

theorem Accounts.run {history : List TransportEvent} (h : c.Accounts history)
    (actions : List Action) (hb : c.bus.Complete) :
    (run actions c).Accounts (history ++ (steps actions c).flatMap fun (a, c) => a.moves c) := by
  induction actions generalizing c history with
  | nil =>
    rw [steps, List.flatMap_nil, List.append_nil]
    exact h
  | cons a actions ih =>
    have hb' : (a.perform c).bus.Complete := a.complete_perform hb
    rw [run_cons, steps, List.flatMap_cons, ← List.append_assoc]
    exact ih (h.perform a hb) hb'

/-- Nothing that happens to the transport is lost, told twice or told out of order. At any
time of a run, what has been told and what is in the queue are the start of every play that
did not fail, every pause, every stop and every loop, in order, each with what the transport
did right then. A dispatch leaves the queue empty, and the last move told agrees with the
device. -/
theorem relay_loses_nothing (settings : Settings) (libraries : List Library) (random : Random)
    (store : W) (listeners : Channel → List Nat) (actions : List Action) :
    let start : Conductor SilentDevice W :=
      { launch settings libraries random store with
        bus := ⟨Channel.all.map fun channel => (channel, listeners channel)⟩ }
    let c := run actions start
    c.told ++ c.device.events = ((steps actions start).flatMap fun (a, c) => a.moves c) ∧
      c.dispatch.device.events = [] ∧
      ∀ e, c.dispatch.told.getLast? = some e → e.state = c.dispatch.device.state := by
  intro start c
  have hs : start.bus.Complete := fun channel => by cases channel <;> rfl
  have hb : c.bus.Complete := run_keeps (P := fun c => c.bus.Complete)
    (fun a c h => by rw [a.bus_perform]; exact h) actions hs
  have launched : start.Accounts [] := ⟨rfl, nofun⟩
  have accounts := launched.run actions hs
  have dispatched := accounts.perform .dispatch hb
  refine ⟨accounts.complete, (moves_dispatch c).1, fun e he => dispatched.current e ?_⟩
  have htold : (Action.dispatch.perform c).told ++ (Action.dispatch.perform c).device.events =
      c.dispatch.told := by
    change c.dispatch.told ++ c.dispatch.device.events = _
    rw [(moves_dispatch c).1, List.append_nil]
  rw [← dispatched.complete, htold]
  exact he

/-- Moves pile up in the queue, and each is told with the state that it left. -/
theorem piled_up_moves_told :
    let start : Conductor SilentDevice Workspace :=
      { launch {} [] ⟨1⟩ {} with bus := ⟨Channel.all.map fun channel => (channel, [])⟩ }
    let c := run [.pause, .loop, .stop] start
    c.told ++ c.device.events = [⟨.pause, .paused⟩, ⟨.loop, .paused⟩, ⟨.stop, .stopped⟩] ∧
      c.dispatch.told.getLast? = some ⟨.stop, .stopped⟩ ∧
      .stopped = c.dispatch.device.state := by
  obtain ⟨complete, -, current⟩ := relay_loses_nothing {} [] ⟨1⟩ ({} : Workspace) (fun _ => [])
    [.pause, .loop, .stop]
  exact ⟨complete, rfl, current ⟨.stop, .stopped⟩ rfl⟩

end Conductor

end Studio
