import Studio.Device.Silent
import Studio.Proofs.Conductor.Rendering

/-! A dispatch empties the device's queues, and a dispatch of empty queues does nothing.
What is asked of a device for this is that its queues are queues: what was taken is
gone, and taking positions brings no events. -/

namespace Studio

class LawfulQueues (D : Type) [AudioDevice D] : Prop where
  events_once (d : D) :
    AudioDevice.takeEvents (AudioDevice.takeEvents d).2 = ([], (AudioDevice.takeEvents d).2)
  positions_once (key : Nat) (d : D) :
    AudioDevice.takePositions key (AudioDevice.takePositions key d).2 =
      ([], (AudioDevice.takePositions key d).2)
  events_apart (key : Nat) (d : D) (h : AudioDevice.takeEvents d = ([], d)) :
    AudioDevice.takeEvents (AudioDevice.takePositions key d).2 =
      ([], (AudioDevice.takePositions key d).2)

namespace Observer

/-- The observer once its positions have been taken, if it has that key. -/
def clear (key : Nat) (o : Observer) : Observer := if o.key = key then { o with queue := [] } else o

@[simp] theorem clear_key (key : Nat) (o : Observer) : (o.clear key).key = o.key := by
  unfold clear
  split <;> rfl

@[simp] theorem clear_listening (key : Nat) (o : Observer) :
    (o.clear key).listening = o.listening := by
  unfold clear
  split <;> rfl

theorem clear_clear (key : Nat) (o : Observer) : (o.clear key).clear key = o.clear key := by
  by_cases h : o.key = key
  · simp [clear, h]
  · simp [clear, h]

end Observer

namespace SilentDevice

theorem takeEvents_of_none {d : SilentDevice} (h : d.events = []) : d.takeEvents = ([], d) := by
  rw [takeEvents, h]
  cases d
  cases h
  rfl

theorem observer?_takePositions (key : Nat) (d : SilentDevice) :
    (d.takePositions key).2.observer? key = (d.observer? key).map (Observer.clear key) := by
  change (d.observers.map (Observer.clear key)).find? _ = _
  rw [List.find?_map, observer?]
  congr 2
  funext o
  simp only [Function.comp_apply, Observer.clear_key, Observer.clear_listening]

theorem takePositions_once (key : Nat) (d : SilentDevice) :
    (d.takePositions key).2.takePositions key = ([], (d.takePositions key).2) := by
  have hqueue : (((d.observer? key).map (Observer.clear key)).map (·.queue)).getD [] = [] := by
    cases ho : d.observer? key with
    | none => rfl
    | some o =>
      have hmatch := List.find?_some ho
      simp only [Bool.and_eq_true, decide_eq_true_eq] at hmatch
      exact congrArg Observer.queue (if_pos hmatch.1)
  have hagain : (d.observers.map (Observer.clear key)).map (Observer.clear key) =
      d.observers.map (Observer.clear key) := by
    rw [List.map_map]
    exact List.map_congr_left fun o _ => o.clear_clear key
  refine Prod.ext ?_ ?_
  · rw [takePositions, observer?_takePositions]
    exact hqueue
  · exact congrArg (fun observers => { d with observers }) hagain

end SilentDevice

instance : LawfulQueues SilentDevice where
  events_once _ := rfl
  positions_once := SilentDevice.takePositions_once
  events_apart key d h := by
    have he : d.events = [] := congrArg Prod.fst h
    have hp : (d.takePositions key).2.events = [] := he
    exact SilentDevice.takeEvents_of_none hp

namespace Conductor

variable {D W : Type} [AudioDevice D]

/-- The device has reported nothing that has not been dispatched. -/
structure Drained (c : Conductor D W) : Prop where
  events : AudioDevice.takeEvents c.device = ([], c.device)
  positions : ∀ key ∈ c.observer, AudioDevice.takePositions key c.device = ([], c.device)

theorem Drained.dispatch {c : Conductor D W} (h : c.Drained) : c.dispatch = c := by
  have hu : c.unseen = ([], c.device) := by
    unfold unseen
    rw [h.events]
    cases ho : c.observer with
    | none => rfl
    | some key => exact h.positions key ho
  have hr : c.relayed = c := by
    unfold relayed
    rw [h.events]
    rfl
  rw [dispatch_eq, hu, hr]
  rfl

theorem dispatch_device (c : Conductor D W) : c.dispatch.device = c.unseen.2 := by
  have h : c.dispatch.quiet.device = c.unseen.2 := by
    rw [dispatch_eq, quiet_foldl_emit]
    rfl
  exact h

theorem dispatch_observer (c : Conductor D W) : c.dispatch.observer = c.observer := by
  have h : c.dispatch.quiet.observer = c.relayed.quiet.observer := by
    rw [dispatch_eq, quiet_foldl_emit]
    rfl
  rw [quiet_relayed] at h
  exact h

theorem drained_dispatch [LawfulQueues D] (c : Conductor D W) : c.dispatch.Drained := by
  constructor
  · rw [dispatch_device]
    unfold unseen
    cases c.observer with
    | none => exact LawfulQueues.events_once c.device
    | some key => exact LawfulQueues.events_apart key _ (LawfulQueues.events_once c.device)
  · intro key hk
    rw [dispatch_observer] at hk
    rw [dispatch_device]
    unfold unseen
    rw [hk]
    exact LawfulQueues.positions_once key _

end Conductor

end Studio
