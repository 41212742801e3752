import Studio.Bus

/-! What listeners get of an event. On a complete bus no event is lost, and one who
listens to a channel once gets each event of that channel once. -/

namespace Studio

theorem Channel.count_all (c : Channel) : Channel.all.count c = 1 := by
  cases c <;> rfl

namespace Bus

/-- Every channel is allowed. -/
def Complete (b : Bus) : Prop := ∀ channel, b.isAllowed channel = true

/-- An event as the listeners of its channel get it; nobody does if the channel is not
allowed. -/
def deliver (b : Bus) (e : Event) : List Delivery :=
  ((b.listeners? e.channel).getD []).map (⟨·, e⟩)

/-- How often the listener is on the list of the channel. -/
def times (b : Bus) (listener : Nat) (channel : Channel) : Nat :=
  ((b.listeners? channel).getD []).count listener

/-- A bus with every channel on its list is complete, whoever listens. -/
theorem complete_all (listeners : Channel → List Nat) :
    Complete ⟨Channel.all.map fun channel => (channel, listeners channel)⟩ := by
  intro channel
  cases channel <;> rfl

theorem full_complete : full.Complete := complete_all fun _ => []

theorem emit_notAllowed {b : Bus} {e : Event} (h : b.listeners? e.channel = none) :
    (b.emit e).result = .error (.unregistered e.channel) ∧ b.deliver e = [] := by
  rw [emit, deliver, h]
  exact ⟨rfl, rfl⟩

theorem emit_allowed {b : Bus} {e : Event} {ls : List Nat} (h : b.listeners? e.channel = some ls) :
    (b.emit e).result = .ok (b.deliver e) := by
  rw [emit, deliver, h]
  rfl

/-- What one listener gets of an event. -/
theorem deliver_filter (b : Bus) (listener : Nat) (e : Event) :
    (b.deliver e).filter (·.listener = listener) =
      List.replicate (b.times listener e.channel) ⟨listener, e⟩ := by
  rw [deliver, times, List.filter_map]
  generalize (b.listeners? e.channel).getD [] = ls
  have hf : ls.filter ((fun d : Delivery => decide (d.listener = listener)) ∘ (⟨·, e⟩)) =
      List.replicate (ls.count listener) listener := List.filter_eq listener
  rw [hf, List.map_replicate]

/-! ### Listening -/

theorem exists_listen {b : Bus} (h : b.Complete) (channel : Channel) (listener : Nat) :
    ∃ b', b.listen channel listener = .ok b' := by
  unfold listen
  rw [h channel]
  exact ⟨_, rfl⟩

theorem listeners?_listen {b b' : Bus} {channel : Channel} {listener : Nat}
    (h : b.listen channel listener = .ok b') (other : Channel) :
    b'.listeners? other =
      (b.listeners? other).map fun ls => if other = channel then ls ++ [listener] else ls := by
  unfold listen at h
  split at h
  · cases h
    simp only [listeners?, List.find?_map, Function.comp_def, Option.map_map]
    cases hf : b.channels.find? fun x => decide (x.1 = other) with
    | none => rfl
    | some x =>
      have hx := List.find?_some hf
      rw [decide_eq_true_eq] at hx
      simp only [Option.map_some, hx]
  · cases h

theorem complete_listen {b b' : Bus} {channel : Channel} {listener : Nat}
    (h : b.listen channel listener = .ok b') (hb : b.Complete) : b'.Complete := by
  intro other
  rw [isAllowed, listeners?_listen h, Option.isSome_map]
  exact hb other

theorem times_listen {b b' : Bus} {channel : Channel} {listener : Nat}
    (h : b.listen channel listener = .ok b') (hb : b.Complete) (other : Channel) :
    b'.times listener other =
      b.times listener other + if other = channel then 1 else 0 := by
  obtain ⟨ls, hls⟩ := Option.isSome_iff_exists.1 (hb other)
  rw [times, times, listeners?_listen h, hls]
  simp only [Option.map_some, Option.getD_some]
  split
  · rw [List.count_append, List.count_singleton_self]
  · rfl

end Bus

end Studio
