import Studio.Proofs.Bus.Delivery
import Studio.Proofs.Conductor.Reports

/-! What an action emits. A conductor alone has every channel allowed, nobody who
listens and an empty outbox; the events that an action leaves in the outbox of the
conductor alone are those that it emits. An action that `Reports` emits the same
events whoever listens and whatever was reported before: it appends them to the
outbox, delivers each to the listeners of its channel, and has the same effect
otherwise. Being so passes from the steps of an action to the action. -/

namespace Studio

/-- What an event is about. -/
inductive Topic
  | error
  | changed
  | transport
  | position
  | file
  | composer
  deriving Repr, DecidableEq

def Topic.all : List Topic := [.error, .changed, .transport, .position, .file, .composer]

def Event.topic : Event → Topic
  | .error _ _ => .error
  | .changed _ => .changed
  | .transport _ => .transport
  | .position _ => .position
  | .fileSelected _ => .file
  | .fileCreated _ => .file
  | .fileDestroyed _ => .file
  | .fileUpdated _ => .file
  | .parsing => .composer
  | .parsed => .composer
  | .rendering => .composer
  | .rendered => .composer

namespace Conductor

variable {D W : Type}

def alone (c : Conductor D W) : Conductor D W := { c with bus := .full, out := {} }

/-- The events that an action emits. -/
def emitted (f : Conductor D W → Conductor D W) (c : Conductor D W) : List Event :=
  (f c.alone).out.events

/-- The events that have been delivered to a listener. -/
def heard (listener : Nat) (c : Conductor D W) : List Event :=
  (c.out.deliveries.filter (·.listener = listener)).map (·.event)

theorem alone_of_quiet {c d : Conductor D W} (h : d.quiet = c.quiet) : d.alone = c.alone :=
  eq_of_quiet (fun _ => rfl) h

/-! ### One event -/

@[simp] theorem emit_bus (e : Event) (c : Conductor D W) : (c.emit e).bus = c.bus :=
  eq_of_quiet (fun _ => rfl) (quiet_emit e c)

theorem emit_deliveries (e : Event) (c : Conductor D W) :
    (c.emit e).out.deliveries = c.out.deliveries ++ c.bus.deliver e := by
  unfold emit
  cases h : c.bus.listeners? e.channel with
  | none =>
    obtain ⟨hr, hd⟩ := Bus.emit_notAllowed h
    dsimp only
    rw [hr, hd]
    exact (List.append_nil _).symm
  | some ls =>
    dsimp only
    rw [Bus.emit_allowed h]
    rfl

theorem emit_events {e : Event} {c : Conductor D W} (h : c.bus.Complete) :
    (c.emit e).out.events = c.out.events ++ [e] := by
  obtain ⟨ls, hls⟩ := Option.isSome_iff_exists.1 (h e.channel)
  unfold emit
  dsimp only
  rw [Bus.emit_allowed hls]
  rfl

theorem foldl_emit_events (es : List Event) {c : Conductor D W} (h : c.bus.Complete) :
    (es.foldl (fun c e => c.emit e) c).out.events = c.out.events ++ es := by
  induction es generalizing c with
  | nil => exact (List.append_nil _).symm
  | cons e es ih =>
    have h' : (c.emit e).bus.Complete := by
      rw [emit_bus]
      exact h
    rw [List.foldl_cons, ih h', emit_events h, List.append_assoc, List.singleton_append]

theorem report_events {message : String} {cause : Fault} {c : Conductor D W}
    (h : c.bus.Complete) :
    (c.report message cause).out.events = c.out.events ++ [.error message cause] :=
  emit_events (c := c.say .error _) h

/-! ### Actions that report -/

/-- The action emits events on these topics only. What it emits and what it does
otherwise depends neither on who listens nor on what was reported before. -/
structure Reports (topics : List Topic) (f : Conductor D W → Conductor D W) : Prop where
  alone : ∀ c, (f c.alone).alone = (f c).alone
  bus : ∀ c, (f c).bus = c.bus
  events : ∀ c, c.bus.Complete → (f c).out.events = c.out.events ++ emitted f c
  deliveries : ∀ c,
    (f c).out.deliveries = c.out.deliveries ++ (emitted f c).flatMap c.bus.deliver
  about : ∀ c, ∀ e ∈ emitted f c, e.topic ∈ topics

/-- What is emitted depends on the conductor alone. -/
theorem emitted_congr (f : Conductor D W → Conductor D W) {c d : Conductor D W}
    (h : c.alone = d.alone) : emitted f c = emitted f d := by
  unfold emitted
  rw [h]

@[simp] theorem emitted_emit (e : Event) (c : Conductor D W) :
    emitted (fun c => c.emit e) c = [e] := emit_events Bus.full_complete

namespace Reports

variable {topics more : List Topic} {f g : Conductor D W → Conductor D W}

theorem mono (h : Reports topics f) (hm : topics ⊆ more) : Reports more f :=
  { h with about := fun c e he => hm (h.about c e he) }

/-- An action whose effect on the outbox is at most a note. -/
theorem silent (h : ∀ c, (f c.alone).alone = (f c).alone ∧ (f c).bus = c.bus ∧
    (f c).out.events = c.out.events ∧ (f c).out.deliveries = c.out.deliveries) :
    Reports topics f := by
  have he (c : Conductor D W) : emitted f c = [] := (h c.alone).2.2.1
  constructor
  · exact fun c => (h c).1
  · exact fun c => (h c).2.1
  · intro c _
    rw [he, List.append_nil, (h c).2.2.1]
  · intro c
    rw [he, List.flatMap_nil, List.append_nil, (h c).2.2.2]
  · intro c e hm
    rw [he] at hm
    cases hm

theorem emit (e : Event) (h : e.topic ∈ topics) :
    Reports topics (D := D) (W := W) fun c => c.emit e where
  alone c := by rw [alone_of_quiet (quiet_emit e c), alone_of_quiet (quiet_emit e c.alone)]; rfl
  bus := emit_bus e
  events c h := by rw [emitted_emit, emit_events h]
  deliveries c := by rw [emitted_emit, emit_deliveries, List.flatMap_singleton]
  about c e' he := by
    rw [emitted_emit, List.mem_singleton] at he
    rw [he]
    exact h

theorem same (h : Reports topics f) (c : Conductor D W) (bus : Bus) (out : Outbox) :
    (f { c with bus, out }).alone = (f c).alone :=
  (h.alone { c with bus, out }).symm.trans (h.alone c)

theorem emitted_comp (hf : Reports topics f) (hg : Reports topics g) (c : Conductor D W) :
    emitted (fun c => g (f c)) c = emitted f c ++ emitted g (f c) := by
  have hb : (f c.alone).bus.Complete := by
    rw [hf.bus]
    exact Bus.full_complete
  rw [← emitted_congr g (hf.alone c)]
  exact hg.events _ hb

theorem comp (hf : Reports topics f) (hg : Reports topics g) :
    Reports topics fun c => g (f c) where
  alone c := by rw [← hg.alone, hf.alone, hg.alone]
  bus c := by rw [hg.bus, hf.bus]
  events c h := by
    have hb : (f c).bus.Complete := by
      rw [hf.bus]
      exact h
    rw [hf.emitted_comp hg, hg.events _ hb, hf.events c h, List.append_assoc]
  deliveries c := by
    rw [hf.emitted_comp hg, hg.deliveries, hf.deliveries, hf.bus, List.flatMap_append,
      List.append_assoc]
  about c e h := by
    rw [hf.emitted_comp hg, List.mem_append] at h
    exact h.elim (hf.about c e) (hg.about _ e)

/-- An action may choose what it does by anything but the bus and the outbox. -/
theorem chosen (h : ∀ c : Conductor D W, ∃ g, Reports topics g ∧
    ∀ bus out, f { c with bus, out } = g { c with bus, out }) : Reports topics f := by
  have he {c : Conductor D W} {g : Conductor D W → Conductor D W}
      (hg : ∀ bus out, f { c with bus, out } = g { c with bus, out }) :
      f c = g c ∧ f c.alone = g c.alone := ⟨hg c.bus c.out, hg .full {}⟩
  constructor
  · intro c
    obtain ⟨g, hr, hg⟩ := h c
    rw [(he hg).1, (he hg).2, hr.alone]
  · intro c
    obtain ⟨g, hr, hg⟩ := h c
    rw [(he hg).1, hr.bus]
  · intro c hc
    obtain ⟨g, hr, hg⟩ := h c
    rw [emitted, (he hg).1, (he hg).2, hr.events c hc]
    rfl
  · intro c
    obtain ⟨g, hr, hg⟩ := h c
    rw [emitted, (he hg).1, (he hg).2, hr.deliveries c]
    rfl
  · intro c e hm
    obtain ⟨g, hr, hg⟩ := h c
    rw [emitted, (he hg).2] at hm
    exact hr.about c e hm

theorem emitted_filter (h : Reports topics f) {topic : Topic} (ht : topic ∉ topics)
    (c : Conductor D W) : (emitted f c).filter (·.topic = topic) = [] := by
  refine List.filter_eq_nil_iff.2 fun e hm he => ht ?_
  rw [← of_decide_eq_true he]
  exact h.about c e hm

/-- A listener hears an event as often as it listens to its channel. -/
theorem heard (h : Reports topics f) (listener : Nat) (c : Conductor D W) :
    (f c).heard listener =
      c.heard listener ++
        (emitted f c).flatMap fun e => List.replicate (c.bus.times listener e.channel) e := by
  rw [Conductor.heard, h.deliveries, List.filter_append, List.map_append, List.filter_flatMap,
    List.map_flatMap]
  simp only [Bus.deliver_filter, List.map_replicate]
  rfl

theorem say (level : Level) (text : String) :
    Reports topics (D := D) (W := W) fun c => c.say level text :=
  silent fun _ => ⟨rfl, rfl, rfl, rfl⟩

theorem report (message : String) (cause : Fault) (h : .error ∈ topics) :
    Reports topics (D := D) (W := W) fun c => c.report message cause :=
  (say _ _).comp (emit _ h)

theorem setStage (stage : Stage) :
    Reports topics (D := D) (W := W) fun c => c.setStage stage := by
  have ha (c : Conductor D W) : (c.setStage stage).alone = { c.alone with stage } :=
    alone_of_quiet (c := { c with stage }) (quiet_setStage stage c)
  refine silent fun c => ⟨by rw [ha, ha]; rfl, ?_⟩
  unfold Conductor.setStage
  split <;> exact ⟨rfl, rfl, rfl⟩

theorem advanceStage (sources : List Stage) (stage : Stage) :
    Reports topics (D := D) (W := W) fun c => c.advanceStage sources stage := by
  refine chosen fun c => ?_
  by_cases hs : sources.contains c.stage = true
  · exact ⟨_, setStage stage, fun bus out => if_pos hs⟩
  · let old := c.stage.name
    let new := stage.name
    exact ⟨_, say .debug s!"staying {old} instead of becoming {new}", fun bus out => if_neg hs⟩

theorem foldl_emit (es : List Event) (h : ∀ e ∈ es, e.topic ∈ topics) :
    Reports topics (D := D) (W := W) fun c => es.foldl (fun c e => c.emit e) c := by
  induction es with
  | nil => exact silent fun _ => ⟨rfl, rfl, rfl, rfl⟩
  | cons e es ih =>
    obtain ⟨he, hs⟩ := List.forall_mem_cons.1 h
    exact (emit e he).comp (ih hs)

end Reports

/-- The same of an action with a result, which depends on neither of them too. -/
structure Yields {α : Type} (topics : List Topic) (f : Conductor D W → α × Conductor D W) :
    Prop where
  reports : Reports topics fun c => (f c).2
  result : ∀ (c : Conductor D W) (bus : Bus) (out : Outbox),
    (f { c with bus, out }).1 = (f c).1

theorem Yields.chosen {α : Type} {topics : List Topic} {f : Conductor D W → α × Conductor D W}
    (h : ∀ c : Conductor D W, ∃ a g, Reports topics g ∧
      ∀ bus out, f { c with bus, out } = (a, g { c with bus, out })) : Yields topics f where
  reports := by
    refine .chosen fun c => ?_
    obtain ⟨a, g, hr, hg⟩ := h c
    exact ⟨g, hr, fun bus out => congrArg Prod.snd (hg bus out)⟩
  result c bus out := by
    obtain ⟨a, g, -, hg⟩ := h c
    have hc : f c = (a, g c) := hg c.bus c.out
    rw [hg, hc]

end Conductor

end Studio
