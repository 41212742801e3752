import Studio.Composing.Session

/-! What a script comes to, and what its course tells. Each step makes a new model of the
one before, or ends the script, so a script is a monadic fold over its steps and can be
taken apart wherever one likes. The course has an entry for each step that the script
comes to. -/

namespace Studio.Attempt

/-- Chains are mapped onto each other part by part. -/
theorem map_bind {α β α' β' : Type} {x : Except Fault α} {f : α → α'} {g : β → β'}
    {next : α → Except Fault β} {next' : α' → Except Fault β'}
    (h : ∀ a, next' (f a) = (next a).map g) : x.map f >>= next' = (x >>= next).map g := by
  cases x with
  | error e => rfl
  | ok a => exact h a

/-- No builder ran. -/
def Unbuilt (x : Attempt α) : Prop := ∀ b, .ran b ∉ x.notes

theorem unbuilt_ofExcept (x : Except Fault α) : (ofExcept x).Unbuilt := fun _ => List.not_mem_nil

theorem unbuilt_say (level : Level) (text : String) : (say level text).Unbuilt := by
  intro b hb
  cases List.mem_singleton.1 hb

theorem Unbuilt.bind {x : Attempt α} {f : α → Attempt β} (hx : x.Unbuilt)
    (hf : ∀ a, (f a).Unbuilt) : (x >>= f).Unbuilt := by
  intro b hb
  change .ran b ∈ (Attempt.bind x f).notes at hb
  rw [Attempt.bind] at hb
  cases hr : x.result with
  | error e =>
    rw [hr] at hb
    exact hx b hb
  | ok a =>
    rw [hr] at hb
    rcases List.mem_append.1 hb with hb | hb
    · exact hx b hb
    · exact hf a b hb

end Studio.Attempt

namespace Studio

theorem Registry.unbuilt_add {α : Type} [Named α] (kind : String) (a : α) (r : Registry α) :
    (r.add kind a).Unbuilt := by
  unfold add
  dsimp only
  split
  · exact fun _ => List.not_mem_nil
  · exact (Attempt.unbuilt_say _ _).bind fun _ _ => List.not_mem_nil

theorem unbuilt_refuse {α : Type} (verb name : String) :
    (refuse verb name : Attempt α).Unbuilt :=
  (Attempt.unbuilt_say _ _).bind fun _ _ => List.not_mem_nil

end Studio

namespace Studio.Composing

variable {V M : Type} (perform : V → M → Attempt M)

/-- What a step makes of the model. -/
def Step.result : Step V → M → Except Fault M
  | .look, m => .ok m
  | .fail f tolerated, m => if tolerated then .ok m else .error f
  | .verb v tolerated, m =>
    match (perform v m).result with
    | .ok m' => .ok m'
    | .error f => if tolerated then .ok m else .error f

@[simp] theorem Step.result_fail (f : Fault) (m : M) :
    (Step.fail f false).result perform m = .error f := rfl

@[simp] theorem Step.result_verb (v : V) (m : M) :
    (Step.verb v false).result perform m = (perform v m).result := by
  rw [Step.result]
  cases (perform v m).result <;> rfl

theorem run_cons_result (step : Step V) (steps : List (Step V)) (m : M) :
    (run perform (step :: steps) m).result =
      step.result perform m >>= fun m' => (run perform steps m').result := by
  cases step with
  | look => rfl
  | fail f tolerated => cases tolerated <;> rfl
  | verb v tolerated =>
    rw [run, Step.result]
    cases (perform v m).result with
    | ok m' => rfl
    | error f => cases tolerated <;> rfl

theorem run_result (steps : List (Step V)) (m : M) :
    (run perform steps m).result = steps.foldlM (fun m step => step.result perform m) m := by
  induction steps generalizing m with
  | nil => rfl
  | cons step steps ih =>
    rw [run_cons_result, List.foldlM_cons]
    congr 1
    funext m'
    exact ih m'

/-- Of two scripts one after the other, the second goes on where the first ends. -/
theorem run_append_result (first second : List (Step V)) (m : M) :
    (run perform (first ++ second) m).result =
      (run perform first m).result >>= fun m' => (run perform second m').result := by
  simp only [run_result, List.foldlM_append]

variable {perform} in
/-- If steps that stand for the same thing are mapped onto each other, so are the scripts. -/
theorem run_map {A W N : Type} {perform' : W → N → Attempt N} {f : M → N} {step : A → Step V}
    {step' : A → Step W}
    (h : ∀ a m, (step' a).result perform' (f m) = ((step a).result perform m).map f) (as : List A)
    (m : M) :
    (run perform' (as.map step') (f m)).result = (run perform (as.map step) m).result.map f := by
  induction as generalizing m with
  | nil => rfl
  | cons a as ih =>
    rw [List.map_cons, List.map_cons, run_cons_result, run_cons_result, h]
    exact Attempt.map_bind ih

/-! ### Single steps -/

/-- The verb that a step calls, if it calls one. -/
def Step.verb? : Step V → Option V
  | .verb v _ => some v
  | _ => none

/-- The failure of the author's own with which a step ends the script. -/
def Step.thrown? : Step V → Option Fault
  | .fail f false => some f
  | _ => none

/-- The author goes on after the step, however it ends. -/
def Step.tolerated : Step V → Bool
  | .verb _ tolerated => tolerated
  | .look => true
  | .fail _ tolerated => tolerated

/-- What the course tells of a step. -/
def Step.entry : Step V → M → Entry M
  | .look, m => { model := m }
  | .fail f _, m => ⟨m, some f⟩
  | .verb v _, m =>
    match (perform v m).result with
    | .ok m' => { model := m' }
    | .error f => ⟨m, some f⟩

/-- A course tells of its first step, and of the others if the script goes on. -/
theorem run_cons_entries (step : Step V) (steps : List (Step V)) (m : M) :
    (run perform (step :: steps) m).entries =
      step.entry perform m ::
        match step.result perform m with
        | .ok m' => (run perform steps m').entries
        | .error _ => [] := by
  cases step with
  | look => rfl
  | fail f tolerated => cases tolerated <;> rfl
  | verb v tolerated =>
    rw [run, Step.entry, Step.result]
    cases (perform v m).result with
    | ok next => rfl
    | error f => cases tolerated <;> rfl

/-- The entry of a step that the script comes to. -/
theorem run_entry {before : List (Step V)} {m m' : M} (step : Step V) (after : List (Step V))
    (h : (run perform before m).result = .ok m') :
    (run perform (before ++ step :: after) m).entries[before.length]? =
      some (step.entry perform m') := by
  induction before generalizing m with
  | nil =>
    cases h
    rw [List.nil_append, run_cons_entries]
    rfl
  | cons first before ih =>
    rw [run_cons_result, Attempt.bind_eq_ok_iff] at h
    obtain ⟨next, hfirst, hrest⟩ := h
    rw [List.cons_append, run_cons_entries, hfirst, List.length_cons, List.getElem?_cons_succ]
    exact ih hrest

variable {perform} in
/-- If the script goes on after a step, it does so with the model that the course tells. -/
theorem Step.entry_model {step : Step V} {m m' : M} (h : step.result perform m = .ok m') :
    (step.entry perform m).model = m' := by
  cases step with
  | look =>
    cases h
    rfl
  | fail f tolerated =>
    cases tolerated <;> cases h
    rfl
  | verb v tolerated =>
    rw [Step.result] at h
    rw [Step.entry]
    cases hv : (perform v m).result with
    | ok next =>
      rw [hv] at h
      cases h
      rfl
    | error f =>
      rw [hv] at h
      cases tolerated <;> cases h
      rfl

theorem Step.result_of_tolerated {step : Step V} (h : step.tolerated = true) (m : M) :
    step.result perform m = .ok (step.entry perform m).model := by
  cases step with
  | look => rfl
  | fail f tolerated =>
    cases h
    rfl
  | verb v tolerated =>
    cases h
    rw [Step.result, Step.entry]
    cases (perform v m).result <;> rfl

/-- A step calls a verb that succeeds, or it leaves the model as it was. -/
theorem Step.entry_cases (step : Step V) (m : M) :
    (∃ v next, step.verb? = some v ∧ (perform v m).result = .ok next ∧
        step.entry perform m = { model := next }) ∨
      (step.entry perform m).model = m ∧
        ∀ v, step.verb? = some v → ∃ f, (perform v m).result = .error f := by
  cases step with
  | look => exact .inr ⟨rfl, nofun⟩
  | fail f tolerated => exact .inr ⟨rfl, nofun⟩
  | verb v tolerated =>
    rw [Step.entry]
    cases hv : (perform v m).result with
    | ok next => exact .inl ⟨v, next, rfl, hv, rfl⟩
    | error f =>
      refine .inr ⟨rfl, fun called hcalled => ⟨f, ?_⟩⟩
      cases hcalled
      exact hv

variable {perform} in
theorem Step.entry_of_failure {step : Step V} {m : M}
    (h : (step.entry perform m).failure ≠ none) : (step.entry perform m).model = m := by
  rcases step.entry_cases perform m with ⟨v, next, -, -, hentry⟩ | ⟨hsame, -⟩
  · rw [hentry] at h
    exact absurd rfl h
  · exact hsame

variable {perform} in
/-- Each entry tells of the step in its place, taken on the model before. -/
theorem entry_of_run {steps : List (Step V)} {m : M} {i : Nat} {entry : Entry M}
    (h : (run perform steps m).entries[i]? = some entry) :
    ∃ step before, steps[i]? = some step ∧
      (m :: (run perform steps m).entries.map (·.model))[i]? = some before ∧
      entry = step.entry perform before := by
  induction steps generalizing m i with
  | nil => cases h
  | cons step steps ih =>
    rw [run_cons_entries] at h ⊢
    cases i with
    | zero =>
      cases h
      exact ⟨step, m, rfl, rfl, rfl⟩
    | succ i =>
      rw [List.getElem?_cons_succ] at h
      cases hstep : step.result perform m with
      | error f =>
        rw [hstep] at h
        cases h
      | ok next =>
        rw [hstep] at h
        rw [List.getElem?_cons_succ, List.getElem?_cons_succ, List.map_cons,
          Step.entry_model hstep]
        exact ih h

/-- A script whose failures are all tolerated is told of to its end. -/
theorem run_length_of_tolerated {steps : List (Step V)}
    (h : ∀ step ∈ steps, step.tolerated = true) (m : M) :
    (run perform steps m).entries.length = steps.length := by
  induction steps generalizing m with
  | nil => rfl
  | cons step steps ih =>
    obtain ⟨hfirst, hrest⟩ := List.forall_mem_cons.1 h
    rw [run_cons_entries, step.result_of_tolerated perform hfirst, List.length_cons,
      List.length_cons, ih hrest]

section Keeping

variable {perform} {P : M → Prop}
  (hverb : ∀ v m m', P m → (perform v m).result = .ok m' → P m')

include hverb

/-- What every verb that succeeds keeps, a step keeps. -/
theorem Step.keeps (step : Step V) {m : M} (h : P m) : P (step.entry perform m).model := by
  rcases step.entry_cases perform m with ⟨v, next, -, hv, hentry⟩ | ⟨hsame, -⟩
  · rw [hentry]
    exact hverb v m next h hv
  · rw [hsame]
    exact h

theorem run_keeps {steps : List (Step V)} {m m' : M} (h : P m)
    (hrun : (run perform steps m).result = .ok m') : P m' := by
  induction steps generalizing m with
  | nil =>
    cases hrun
    exact h
  | cons step steps ih =>
    rw [run_cons_result, Attempt.bind_eq_ok_iff] at hrun
    obtain ⟨next, hstep, hrest⟩ := hrun
    refine ih ?_ hrest
    rw [← Step.entry_model hstep]
    exact step.keeps hverb h

/-- The models of a course keep it too. -/
theorem entries_keep {steps : List (Step V)} {m : M} (h : P m) :
    ∀ entry ∈ (run perform steps m).entries, P entry.model := by
  induction steps generalizing m with
  | nil => exact List.forall_mem_nil _
  | cons step steps ih =>
    have hentry := step.keeps hverb h
    rw [run_cons_entries]
    refine List.forall_mem_cons.2 ⟨hentry, ?_⟩
    cases hstep : step.result perform m with
    | ok next =>
      rw [Step.entry_model hstep] at hentry
      exact ih hentry
    | error f => exact List.forall_mem_nil _

end Keeping

variable {perform} in
/-- Where no verb runs a builder, no script does. -/
theorem run_unbuilt (hverb : ∀ v m, (perform v m).Unbuilt) (steps : List (Step V)) (m : M) :
    (run perform steps m).attempt.Unbuilt := by
  induction steps generalizing m with
  | nil => exact fun _ => List.not_mem_nil
  | cons step steps ih =>
    cases step with
    | look => exact ih m
    | fail f tolerated =>
      cases tolerated with
      | true => exact ih m
      | false => exact fun _ => List.not_mem_nil
    | verb v tolerated =>
      intro b hb
      have hnotes : ∃ rest : Course M, .ran b ∉ rest.notes ∧
          (run perform (.verb v tolerated :: steps) m).notes =
            (perform v m).notes ++ rest.notes := by
        rw [run]
        cases (perform v m).result with
        | ok next => exact ⟨_, ih next b, rfl⟩
        | error f =>
          cases tolerated with
          | true => exact ⟨_, ih m b, rfl⟩
          | false => exact ⟨.stop (.error f), List.not_mem_nil, rfl⟩
      obtain ⟨rest, hrest, hnotes⟩ := hnotes
      change .ran b ∈ (run perform (.verb v tolerated :: steps) m).notes at hb
      rw [hnotes, List.mem_append] at hb
      exact hb.elim (hverb v m b) hrest

/-! ### Whole scripts -/

/-- Composing starts with the empty model and ends with the finished one. -/
theorem compose_result (kind name : String) (start : Except Fault M)
    (finish : M → Except Fault M) (steps : List (Step V)) :
    (compose kind name start perform finish steps).result =
      start >>= fun m => (run perform steps m).result >>= finish := by
  cases start <;> rfl

theorem compose_entries (kind name : String) (start : Except Fault M)
    (finish : M → Except Fault M) (steps : List (Step V)) :
    (compose kind name start perform finish steps).entries =
      match start with
      | .ok m => (run perform steps m).entries
      | .error _ => [] := by
  cases start <;> rfl

variable {perform} in
/-- What the empty model has and every verb that succeeds keeps, the models of a course
have, and so has the one that is composed. -/
theorem compose_keeps {P : M → Prop}
    (hverb : ∀ v m m', P m → (perform v m).result = .ok m' → P m') {start : Except Fault M}
    (hstart : ∀ m, start = .ok m → P m) (kind name : String) (steps : List (Step V)) :
    (∀ entry ∈ (compose kind name start perform .ok steps).entries, P entry.model) ∧
      ∀ m, (compose kind name start perform .ok steps).result = .ok m → P m := by
  rw [compose_result]
  cases start with
  | error f => exact ⟨List.forall_mem_nil _, nofun⟩
  | ok first =>
    refine ⟨entries_keep hverb (hstart first rfl), fun m hm => ?_⟩
    rw [Attempt.ok_bind, Attempt.bind_eq_ok_iff] at hm
    obtain ⟨last, hrun, hlast⟩ := hm
    cases hlast
    exact run_keeps hverb (hstart first rfl) hrun

variable {perform} in
theorem compose_unbuilt (hverb : ∀ v m, (perform v m).Unbuilt) (kind name : String)
    (start : Except Fault M) (finish : M → Except Fault M) (steps : List (Step V)) :
    (compose kind name start perform finish steps).attempt.Unbuilt := by
  intro b hb
  cases start with
  | error f => cases List.mem_singleton.1 hb
  | ok m =>
    rcases List.mem_cons.1 hb with hb | hb
    · cases hb
    · exact run_unbuilt hverb steps m b hb

end Studio.Composing
