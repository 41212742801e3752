import Studio.Proofs.Bus.Delivery

/-! A bus over a run of calls. It keeps the listeners channel by channel, but what comes of
a run is what would come of it if all who ever began to listen stood on one list, in the
order in which they came, and each event went through that list. So nothing that was
called in between, on this channel or on others, makes a difference to who gets an event
and in which order. -/

namespace Studio.Bus

/-! ### Calls -/

inductive Call
  | allow (channel : Channel)
  | listen (channel : Channel) (listener : Nat)
  | emit (e : Event)
  deriving Repr, DecidableEq

/-- What a call is answered with: what it delivered, or why it failed. -/
abbrev Answer := Except Fault (List Delivery)

/-- The channel without which the call fails. -/
def Call.needs? : Call → Option Channel
  | allow _ => none
  | listen channel _ => some channel
  | emit e => some e.channel

def Call.perform : Call → Bus → Answer × Bus
  | allow channel, b => (.ok [], b.allow channel)
  | listen channel listener, b =>
    match b.listen channel listener with
    | .ok b' => (.ok [], b')
    | .error f => (.error f, b)
  | emit e, b => ((b.emit e).result, b)

/-- Everyone who began to listen, on whatever channel, in the order of their coming. -/
structure Register where
  allowed : List Channel := []
  entries : List (Channel × Nat) := []

/-- Those on the list who listen to the channel. -/
def Register.on (r : Register) (channel : Channel) : List Nat :=
  (r.entries.filter (·.1 = channel)).map (·.2)

/-- The call at the register in place of the bus. -/
def Call.enter : Call → Register → Answer × Register
  | allow channel, r => (.ok [], { r with allowed := r.allowed ++ [channel] })
  | listen channel listener, r =>
    if channel ∈ r.allowed then (.ok [], { r with entries := r.entries ++ [(channel, listener)] })
    else (.error (.unregistered channel), r)
  | emit e, r =>
    if e.channel ∈ r.allowed then (.ok ((r.on e.channel).map (⟨·, e⟩)), r)
    else (.error (.unregistered e.channel), r)

/-! ### Runs -/

section Runs

variable {S : Type} (perform : Call → S → Answer × S)

/-- The calls of a run, each with its answer. -/
def course : List Call → S → List (Call × Answer)
  | [], _ => []
  | call :: calls, s => (call, (perform call s).1) :: course calls (perform call s).2

def after (calls : List Call) (s : S) : S :=
  calls.foldl (fun s call => (perform call s).2) s

variable {perform} in
theorem after_replicate {call : Call} {s : S} (h : (perform call s).2 = s) (n : Nat) :
    after perform (List.replicate n call) s = s := by
  induction n with
  | zero => rfl
  | succ n ih => rw [List.replicate_succ, after, List.foldl_cons, h, ← after, ih]

end Runs

/-- Who began to listen, if it is that which was called and accepted. -/
def accepted? : Call × Answer → Option (Channel × Nat)
  | (.listen channel listener, .ok _) => some (channel, listener)
  | _ => none

/-- The calls to listen that a bus accepted, in their order. -/
def registrations (calls : List Call) : List (Channel × Nat) :=
  (course Call.perform calls {}).filterMap accepted?

/-! ### Single calls -/

theorem Call.perform_of_error {call : Call} {b : Bus} {f : Fault}
    (h : (call.perform b).1 = .error f) : (call.perform b).2 = b := by
  cases call with
  | allow channel => cases h
  | listen channel listener =>
    rw [perform] at h ⊢
    split at h
    · cases h
    · rfl
  | emit e => rfl

theorem Call.enter_eq_error_iff {call : Call} {channel : Channel} (h : call.needs? = some channel)
    (r : Register) (f : Fault) :
    (call.enter r).1 = .error f ↔ f = .unregistered channel ∧ channel ∉ r.allowed := by
  have hguard (ds : List Delivery) (r' : Register) :
      (if channel ∈ r.allowed then ((.ok ds, r') : Answer × Register)
        else (.error (.unregistered channel), r)).1 = .error f ↔
      f = .unregistered channel ∧ channel ∉ r.allowed := by
    split
    · next hc => exact iff_of_false (fun h => by cases h) fun h => h.2 hc
    · next hc => exact ⟨fun h => ⟨(Except.error.inj h).symm, hc⟩, fun h => congrArg _ h.1.symm⟩
  cases call with
  | allow other => cases h
  | listen other listener =>
    cases h
    exact hguard _ _
  | emit e =>
    cases h
    exact hguard _ _

/-! ### The bus and the register -/

theorem listeners?_allow (b : Bus) (channel other : Channel) :
    (b.allow channel).listeners? other =
      if other = channel then some ((b.listeners? channel).getD []) else b.listeners? other := by
  by_cases h : b.isAllowed channel = true
  · obtain ⟨ls, hls⟩ := Option.isSome_iff_exists.1 h
    rw [allow, if_pos h]
    split
    · next heq => rw [heq, hls, Option.getD_some]
    · rfl
  · have hnone : b.listeners? channel = none := Option.not_isSome_iff_eq_none.1 h
    rw [allow, if_neg h, hnone, Option.getD_none]
    simp only [listeners?, List.find?_append, Option.map_or]
    split
    · next heq =>
      subst heq
      rw [listeners?] at hnone
      rw [hnone]
      simp
    · next hne =>
      simp [Ne.symm hne]

theorem allow_allowed {b : Bus} {channel : Channel} {ls : List Nat}
    (h : b.listeners? channel = some ls) : b.allow channel = b := by
  have hallowed : b.isAllowed channel = true := by rw [isAllowed, h, Option.isSome_some]
  rw [allow, if_pos hallowed]

/-- The bus keeps what is on the register, channel by channel. -/
structure Register.Sorted (r : Register) (b : Bus) : Prop where
  allowed : ∀ channel ∈ r.allowed, b.listeners? channel = some (r.on channel)
  other : ∀ channel ∉ r.allowed, b.listeners? channel = none ∧ r.on channel = []

theorem Register.sorted_empty : Register.Sorted {} {} :=
  ⟨List.forall_mem_nil _, fun _ _ => ⟨rfl, rfl⟩⟩

theorem Register.on_concat (r : Register) (channel other : Channel) (listener : Nat) :
    Register.on { r with entries := r.entries ++ [(channel, listener)] } other =
      if other = channel then r.on other ++ [listener] else r.on other := by
  rw [on, List.filter_append, List.map_append]
  split
  · next heq =>
    subst heq
    simp [on]
  · next hne => simp [on, Ne.symm hne]

namespace Register.Sorted

variable {r : Register} {b : Bus} {channel : Channel}

theorem allow (h : r.Sorted b) (channel : Channel) :
    Register.Sorted { r with allowed := r.allowed ++ [channel] } (b.allow channel) where
  allowed other hother := by
    have hon : Register.on { r with allowed := r.allowed ++ [channel] } other = r.on other := rfl
    rw [hon, listeners?_allow]
    split
    · next heq =>
      subst heq
      by_cases hold : other ∈ r.allowed
      · rw [h.allowed other hold, Option.getD_some]
      · rw [(h.other other hold).1, (h.other other hold).2, Option.getD_none]
    · next hne =>
      have hold : other ∈ r.allowed := by simpa [hne] using hother
      exact h.allowed other hold
  other other hother := by
    obtain ⟨hold, hne⟩ : other ∉ r.allowed ∧ other ≠ channel := by simpa using hother
    rw [listeners?_allow, if_neg hne]
    exact h.other other hold

theorem listen_refused (h : r.Sorted b) (hc : channel ∉ r.allowed) (listener : Nat) :
    b.listen channel listener = .error (.unregistered channel) := by
  rw [Bus.listen, isAllowed, (h.other channel hc).1]
  rfl

theorem listen (h : r.Sorted b) (hc : channel ∈ r.allowed) (listener : Nat) :
    ∃ b', b.listen channel listener = .ok b' ∧
      Register.Sorted { r with entries := r.entries ++ [(channel, listener)] } b' := by
  obtain ⟨b', hb'⟩ : ∃ b', b.listen channel listener = .ok b' := by
    rw [Bus.listen, isAllowed, h.allowed channel hc]
    exact ⟨_, rfl⟩
  refine ⟨b', hb', fun other hother => ?_, fun other hother => ?_⟩
  · rw [listeners?_listen hb', h.allowed other hother, Register.on_concat, Option.map_some]
  · have hne : other ≠ channel := fun heq => hother (heq ▸ hc)
    rw [listeners?_listen hb', Register.on_concat, if_neg hne, (h.other other hother).1]
    exact ⟨rfl, (h.other other hother).2⟩

theorem emit (h : r.Sorted b) (e : Event) :
    (b.emit e).result =
      if e.channel ∈ r.allowed then .ok ((r.on e.channel).map (⟨·, e⟩))
      else .error (.unregistered e.channel) := by
  split
  · next hc =>
    have hls := h.allowed e.channel hc
    rw [emit_allowed hls, deliver, hls, Option.getD_some]
  · next hc => exact (emit_notAllowed (h.other e.channel hc).1).1

/-- A call comes to the same at both, and leaves both with the same on them. -/
theorem perform (h : r.Sorted b) (call : Call) :
    (call.perform b).1 = (call.enter r).1 ∧ (call.enter r).2.Sorted (call.perform b).2 := by
  cases call with
  | allow channel => exact ⟨rfl, h.allow channel⟩
  | listen channel listener =>
    by_cases hc : channel ∈ r.allowed
    · obtain ⟨b', hb', hsorted⟩ := h.listen hc listener
      simp only [Call.perform, Call.enter, hb', if_pos hc]
      exact ⟨trivial, hsorted⟩
    · simp only [Call.perform, Call.enter, h.listen_refused hc listener, if_neg hc]
      exact ⟨trivial, h⟩
  | emit e =>
    simp only [Call.perform, Call.enter, h.emit e]
    split <;> exact ⟨rfl, h⟩

theorem run (h : r.Sorted b) (calls : List Call) :
    course Call.perform calls b = course Call.enter calls r ∧
      (after Call.enter calls r).Sorted (after Call.perform calls b) := by
  induction calls generalizing r b with
  | nil => exact ⟨rfl, h⟩
  | cons call calls ih =>
    obtain ⟨hanswer, hsorted⟩ := h.perform call
    obtain ⟨hcourse, hafter⟩ := ih hsorted
    exact ⟨by rw [course, course, hanswer, hcourse], hafter⟩

end Register.Sorted

/-! ### The register of a run -/

theorem mem_allowed_after (calls : List Call) (r : Register) (channel : Channel) :
    channel ∈ (after Call.enter calls r).allowed ↔
      channel ∈ r.allowed ∨ .allow channel ∈ calls := by
  induction calls generalizing r with
  | nil => simp [after]
  | cons call calls ih =>
    have hstep : channel ∈ (call.enter r).2.allowed ↔
        channel ∈ r.allowed ∨ .allow channel = call := by
      cases call with
      | allow other => simp [Call.enter]
      | listen other listener =>
        rw [Call.enter]
        split <;> simp
      | emit e =>
        rw [Call.enter]
        split <;> simp
    rw [after, List.foldl_cons, ← after, ih, hstep, List.mem_cons, or_assoc]

theorem entries_after (calls : List Call) (r : Register) :
    (after Call.enter calls r).entries =
      r.entries ++ (course Call.enter calls r).filterMap accepted? := by
  induction calls generalizing r with
  | nil => simp [after, course]
  | cons call calls ih =>
    have hstep : (call.enter r).2.entries =
        r.entries ++ (accepted? (call, (call.enter r).1)).toList := by
      cases call with
      | allow channel => simp [Call.enter, accepted?]
      | listen channel listener =>
        rw [Call.enter]
        split <;> simp [accepted?]
      | emit e =>
        rw [Call.enter]
        split <;> simp [accepted?]
    rw [after, List.foldl_cons, ← after, ih, hstep, course, List.append_assoc,
      List.filterMap_cons]
    cases accepted? (call, (call.enter r).1) <;> rfl

/-- To listen to a channel and to report on it fails just when no call has allowed the
channel, and nothing is changed by it. An event that is accepted goes to those whose calls
to listen to its channel were accepted, in the order of these calls. To allow a channel
again, however often, changes nothing. And so all calls of a run are answered as by the
register. -/
theorem answers_as_registered (calls : List Call) :
    let b := after Call.perform calls {}
    (∀ (call : Call) (channel : Channel), call.needs? = some channel → ∀ f,
        (call.perform b).1 = .error f ↔ f = .unregistered channel ∧ .allow channel ∉ calls) ∧
      (∀ (call : Call) f, (call.perform b).1 = .error f → (call.perform b).2 = b) ∧
      (∀ (e : Event) ds, ((Call.emit e).perform b).1 = .ok ds →
        ds = ((registrations calls).filter (·.1 = e.channel)).map fun (_, listener) =>
          ⟨listener, e⟩) ∧
      (∀ channel, .allow channel ∈ calls → ∀ n,
        after Call.perform (calls ++ List.replicate n (.allow channel)) {} = b) ∧
      course Call.perform calls {} = course Call.enter calls {} := by
  intro b
  obtain ⟨hcourse, hsorted⟩ := Register.sorted_empty.run calls
  have hallowed (channel : Channel) :
      channel ∈ (after Call.enter calls {}).allowed ↔ .allow channel ∈ calls := by
    rw [mem_allowed_after]
    exact or_iff_right (List.not_mem_nil)
  refine ⟨fun call channel hneeds f => ?_, fun call f => Call.perform_of_error,
    fun e ds h => ?_, fun channel hc n => ?_, hcourse⟩
  · rw [(hsorted.perform call).1, Call.enter_eq_error_iff hneeds, hallowed]
  · have hentries : (after Call.enter calls {}).entries = registrations calls := by
      rw [entries_after, registrations, hcourse, List.nil_append]
    change (b.emit e).result = _ at h
    rw [hsorted.emit e] at h
    split at h
    · cases h
      rw [Register.on, hentries, List.map_map]
      rfl
    · cases h
  · have hagain : ((Call.allow channel).perform b).2 = b :=
      allow_allowed (hsorted.allowed channel ((hallowed channel).2 hc))
    rw [after, List.foldl_append]
    exact after_replicate hagain n

/-- Whoever comes too early is turned away, and to allow a channel once more drops nobody. -/
example :
    (course Call.perform
      [.listen .composerParsed 4, .allow .composerParsed, .allow .composerRendered,
        .listen .composerParsed 7, .listen .composerRendered 7, .allow .composerParsed,
        .listen .composerParsed 4, .emit .parsed, .emit .parsing] {}).filterMap
          (fun (call, answer) => if call matches .emit _ then some answer else none) =
      [.ok [⟨7, .parsed⟩, ⟨4, .parsed⟩], .error (.unregistered .composerParsing)] := rfl

end Studio.Bus
