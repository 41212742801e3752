import Mathlib.Data.List.Induction
import Studio.Proofs.Composing.Library

/-! What a library's script comes to. Each call of a verb is accepted or refused, and
whether it is depends on nothing but the call and the accepted ones before it. The library
holds the entities of the accepted calls, and the script ends with the first error that
its author passes on. -/

namespace Studio

open Composing

/-! ### Calls -/

namespace LibraryVerb

/-- The word by which a verb and what it adds are called. -/
def word : LibraryVerb → String
  | .node role _ _ => role.kind
  | .phrase _ => "phrase"
  | .excerpt genre _ _ => genre.kind

def name : LibraryVerb → String
  | .node _ name _ => name
  | .phrase name => name
  | .excerpt _ name _ => name

/-- The node that a call adds to the nodes of the role. -/
def node? (role : Role) : LibraryVerb → Option Node
  | .node role' name b => if role' = role then some { name, builder := some b } else none
  | _ => none

/-- The excerpt that a call adds to the excerpts of the genre. -/
def excerpt? (genre : Genre) : LibraryVerb → Option Excerpt
  | .excerpt genre' name steps => if genre' = genre then some (.ofScript name steps) else none
  | _ => none

/-! ### Refusals -/

def unimplemented? (v : LibraryVerb) : Option Fault :=
  if v.word = "track" ∨ v.word = "phrase" then some (.notImplemented v.word) else none

/-- The failure of the nested script, if the call has one. -/
def nested? : LibraryVerb → Option Fault
  | .excerpt _ _ steps => steps.findSome? Step.thrown?
  | _ => none

def blank? (v : LibraryVerb) : Option Fault :=
  if Text.isBlank v.name then some (.blankName v.word) else none

/-- The name was accepted by the same verb before. -/
def repeated? (earlier : List LibraryVerb) (v : LibraryVerb) : Option Fault :=
  if ∃ u ∈ earlier, u.word = v.word ∧ u.name = v.name then some (.duplicate v.word v.name)
  else none

/-- Why a call is refused after the accepted ones `earlier`: the first of four reasons. -/
def refusal? (earlier : List LibraryVerb) (v : LibraryVerb) : Option Fault :=
  v.unimplemented?.or (v.nested?.or (v.blank?.or (v.repeated? earlier)))

/-- The calls among those given that are accepted. -/
def accepted (calls : List LibraryVerb) : List LibraryVerb :=
  calls.foldl (fun earlier v => if (v.refusal? earlier).isNone then earlier ++ [v] else earlier) []

theorem accepted_concat (calls : List LibraryVerb) (v : LibraryVerb) :
    accepted (calls ++ [v]) =
      if (v.refusal? (accepted calls)).isNone then accepted calls ++ [v] else accepted calls := by
  rw [accepted, List.foldl_append]
  rfl

end LibraryVerb

open LibraryVerb

/-- The library with the entities of the calls, in their order. -/
def Library.holding (name : String) (calls : List LibraryVerb) : Library where
  name
  instruments := ⟨calls.filterMap (node? .instrument)⟩
  effects := ⟨calls.filterMap (node? .effect)⟩
  snippets := ⟨calls.filterMap (excerpt? .snippet)⟩
  templates := ⟨calls.filterMap (excerpt? .template)⟩
  demos := ⟨calls.filterMap (excerpt? .demo)⟩

namespace Library

/-! ### What accepted calls leave -/

theorem nodes_holding {role : Role} (hrole : role ≠ .track) (name : String)
    (calls : List LibraryVerb) :
    (holding name calls).nodes role = ⟨calls.filterMap (node? role)⟩ := by
  cases role with
  | instrument => rfl
  | effect => rfl
  | track => exact absurd rfl hrole

theorem excerpts_holding (name : String) (genre : Genre) (calls : List LibraryVerb) :
    (holding name calls).excerpts genre = ⟨calls.filterMap (excerpt? genre)⟩ := by
  cases genre <;> rfl

/-- Where an entity tells its verb and its name, a look-up finds the calls of that verb
with that name. -/
theorem contains_filterMap {α : Type} [Named α] {entity? : LibraryVerb → Option α}
    {kind key : String} (calls : List LibraryVerb)
    (hcall : ∀ u, (∃ a, entity? u = some a ∧ Named.name a = key) ↔ u.word = kind ∧ u.name = key) :
    (Registry.mk (calls.filterMap entity?)).contains key = true ↔
      ∃ u ∈ calls, u.word = kind ∧ u.name = key := by
  rw [Registry.contains_iff]
  constructor
  · intro hkey
    obtain ⟨a, ha, hname⟩ := List.mem_map.1 hkey
    obtain ⟨u, hu, hsome⟩ := List.mem_filterMap.1 ha
    exact ⟨u, hu, (hcall u).1 ⟨a, hsome, hname⟩⟩
  · rintro ⟨u, hu, hword⟩
    obtain ⟨a, hsome, hname⟩ := (hcall u).2 hword
    exact List.mem_map.2 ⟨a, List.mem_filterMap.2 ⟨u, hu, hsome⟩, hname⟩

theorem contains_nodes_holding {role : Role} (hrole : role ≠ .track) (name key : String)
    (calls : List LibraryVerb) :
    ((holding name calls).nodes role).contains key = true ↔
      ∃ u ∈ calls, u.word = role.kind ∧ u.name = key := by
  rw [nodes_holding hrole]
  refine contains_filterMap calls fun u => ?_
  cases u with
  | node role' name b =>
    cases role' <;> cases role <;> simp [node?, word, LibraryVerb.name, Role.kind, Named.name]
  | phrase name => cases role <;> simp [node?, word, Role.kind]
  | excerpt genre name steps =>
    cases genre <;> cases role <;> simp [node?, word, Role.kind, Genre.kind]

theorem contains_excerpts_holding (name key : String) (genre : Genre)
    (calls : List LibraryVerb) :
    ((holding name calls).excerpts genre).contains key = true ↔
      ∃ u ∈ calls, u.word = genre.kind ∧ u.name = key := by
  rw [excerpts_holding]
  refine contains_filterMap calls fun u => ?_
  cases u with
  | node role name b =>
    cases role <;> cases genre <;> simp [excerpt?, word, Role.kind, Genre.kind]
  | phrase name => cases genre <;> simp [excerpt?, word, Genre.kind]
  | excerpt genre' name steps =>
    cases genre' <;> cases genre <;>
      simp [excerpt?, word, LibraryVerb.name, Genre.kind, Excerpt.ofScript, Named.name]

theorem setNodes_holding {role : Role} (hrole : role ≠ .track) (name key : String) (b : Builder)
    (calls : List LibraryVerb) :
    (holding name calls).setNodes role
        ⟨((holding name calls).nodes role).entries ++ [{ name := key, builder := some b }]⟩ =
      holding name (calls ++ [.node role key b]) := by
  cases role with
  | track => exact absurd rfl hrole
  | instrument => simp [holding, setNodes, nodes, node?, excerpt?]
  | effect => simp [holding, setNodes, nodes, node?, excerpt?]

theorem setExcerpts_holding (name key : String) (genre : Genre) (steps : List (Step ExcerptVerb))
    (calls : List LibraryVerb) :
    (holding name calls).setExcerpts genre
        ⟨((holding name calls).excerpts genre).entries ++ [.ofScript key steps]⟩ =
      holding name (calls ++ [.excerpt genre key steps]) := by
  cases genre <;> simp [holding, setExcerpts, excerpts, node?, excerpt?]

/-- The end of both kinds of verb: the name is looked at, then it is looked up. -/
theorem checked_result (earlier : List LibraryVerb) (v : LibraryVerb) {found : Bool}
    (hfound : found = true ↔ ∃ u ∈ earlier, u.word = v.word ∧ u.name = v.name) (l : Library) :
    (if Text.isBlank v.name then .error (.blankName v.word)
      else if found then .error (.duplicate v.word v.name)
      else .ok l : Except Fault Library) =
      match v.blank?.or (v.repeated? earlier) with
      | some f => .error f
      | none => .ok l := by
  unfold blank? repeated?
  by_cases hb : Text.isBlank v.name = true
  · rw [if_pos hb, if_pos hb]
    rfl
  · rw [if_neg hb, if_neg hb]
    by_cases hf : found = true
    · rw [if_pos hf, if_pos (hfound.1 hf)]
      rfl
    · rw [if_neg hf, if_neg (fun h => hf (hfound.2 h))]
      rfl

/-- A call that is refused fails for that reason, and any other adds what it is to add. -/
theorem perform_holding (name : String) (earlier : List LibraryVerb) (v : LibraryVerb) :
    (v.perform (holding name earlier)).result =
      match v.refusal? earlier with
      | some f => .error f
      | none => .ok (holding name (earlier ++ [v])) := by
  cases v with
  | phrase key => rfl
  | node role key b =>
    by_cases hrole : role = .track
    · subst hrole
      rfl
    · have hperform : (LibraryVerb.node role key b).perform (holding name earlier) =
          (holding name earlier).addNode role key b := by
        cases role <;> first | rfl | exact absurd rfl hrole
      have hrefusal : (LibraryVerb.node role key b).refusal? earlier =
          (blank? (.node role key b)).or (repeated? earlier (.node role key b)) := by
        cases role <;> first | rfl | exact absurd rfl hrole
      rw [hperform, addNode_result, setNodes_holding hrole, hrefusal]
      exact checked_result earlier (.node role key b) (contains_nodes_holding hrole ..) _
  | excerpt genre key steps =>
    have hrefusal : (LibraryVerb.excerpt genre key steps).refusal? earlier =
        (steps.findSome? Step.thrown?).or
          ((blank? (.excerpt genre key steps)).or
            (repeated? earlier (.excerpt genre key steps))) := by
      cases genre <;> rfl
    rw [LibraryVerb.perform, addExcerpt_result, setExcerpts_holding, hrefusal]
    cases steps.findSome? Step.thrown? with
    | some f => rfl
    | none =>
      exact checked_result earlier (.excerpt genre key steps) (contains_excerpts_holding ..) _

/-! ### Scripts -/

/-- The calls of verbs among the steps of a script. -/
def calls (steps : List (Step LibraryVerb)) : List LibraryVerb := steps.filterMap Step.verb?

/-- The error that the author passes on at a step, after the accepted calls `earlier`. -/
def passedOn? (earlier : List LibraryVerb) : Step LibraryVerb → Option Fault
  | .look => none
  | .fail f tolerated => if tolerated then none else some f
  | .verb v tolerated => if tolerated then none else v.refusal? earlier

/-- No error is passed on. -/
def Completes (steps : List (Step LibraryVerb)) : Prop :=
  ∀ before step after, steps = before ++ step :: after →
    passedOn? (accepted (calls before)) step = none

/-- The first error that is passed on. -/
def EndsWith (steps : List (Step LibraryVerb)) (f : Fault) : Prop :=
  ∃ before step after, steps = before ++ step :: after ∧ Completes before ∧
    passedOn? (accepted (calls before)) step = some f

theorem completes_of_tolerated {steps : List (Step LibraryVerb)}
    (h : ∀ step ∈ steps, step.tolerated = true) : Completes steps := by
  rintro before step after rfl
  have hstep := h step (List.mem_append_right _ List.mem_cons_self)
  cases step with
  | look => rfl
  | fail f tolerated =>
    obtain rfl : tolerated = true := hstep
    rfl
  | verb v tolerated =>
    obtain rfl : tolerated = true := hstep
    rfl

theorem completes_concat {steps : List (Step LibraryVerb)} {step : Step LibraryVerb} :
    Completes (steps ++ [step]) ↔
      Completes steps ∧ passedOn? (accepted (calls steps)) step = none := by
  constructor
  · intro h
    refine ⟨fun before s after hsteps => h before s (after ++ [step]) ?_, h steps step [] rfl⟩
    rw [hsteps, List.append_assoc, List.cons_append]
  · rintro ⟨h, hstep⟩ before s after hsplit
    rcases List.eq_nil_or_concat after with rfl | ⟨after, last, rfl⟩
    · obtain ⟨rfl, hs⟩ := List.append_inj' hsplit rfl
      cases hs
      exact hstep
    · rw [List.concat_eq_append, ← List.cons_append, ← List.append_assoc] at hsplit
      obtain ⟨hsteps, -⟩ := List.append_inj' hsplit rfl
      exact h before s after hsteps

theorem EndsWith.append {steps : List (Step LibraryVerb)} {f : Fault} (h : EndsWith steps f)
    (more : List (Step LibraryVerb)) : EndsWith (steps ++ more) f := by
  obtain ⟨before, step, after, rfl, hbefore, hstep⟩ := h
  refine ⟨before, step, after ++ more, ?_, hbefore, hstep⟩
  rw [List.append_assoc, List.cons_append]

theorem EndsWith.not_completes {steps : List (Step LibraryVerb)} {f : Fault}
    (h : EndsWith steps f) : ¬ Completes steps := by
  obtain ⟨before, step, after, rfl, -, hstep⟩ := h
  intro hsteps
  rw [hsteps before step after rfl] at hstep
  cases hstep

theorem completes_or_endsWith (steps : List (Step LibraryVerb)) :
    Completes steps ∨ ∃ f, EndsWith steps f := by
  induction steps using List.reverseRecOn with
  | nil => exact .inl fun before step after h => by simp at h
  | append_singleton steps step ih =>
    rcases ih with hsteps | ⟨f, hf⟩
    · cases hstep : passedOn? (accepted (calls steps)) step with
      | none => exact .inl (completes_concat.2 ⟨hsteps, hstep⟩)
      | some f => exact .inr ⟨f, steps, step, [], rfl, hsteps, hstep⟩
    · exact .inr ⟨f, hf.append [step]⟩

/-- A step ends the script with the error that it passes on. Otherwise the library holds
what was accepted up to it. -/
theorem step_holding (name : String) (before : List (Step LibraryVerb))
    (step : Step LibraryVerb) :
    step.result LibraryVerb.perform (holding name (accepted (calls before))) =
      match passedOn? (accepted (calls before)) step with
      | some f => .error f
      | none => .ok (holding name (accepted (calls (before ++ [step])))) := by
  have hcalls : calls (before ++ [step]) = calls before ++ step.verb?.toList := by
    rw [calls, List.filterMap_append]
    cases step <;> rfl
  rw [hcalls]
  cases step with
  | look =>
    dsimp only [Step.verb?, Option.toList_none]
    rw [List.append_nil]
    rfl
  | fail f tolerated =>
    dsimp only [Step.verb?, Option.toList_none]
    rw [List.append_nil]
    cases tolerated <;> rfl
  | verb v tolerated =>
    dsimp only [Step.verb?, Option.toList_some]
    rw [accepted_concat, Step.result, perform_holding, passedOn?]
    cases v.refusal? (accepted (calls before)) with
    | none => cases tolerated <;> rfl
    | some f => cases tolerated <;> rfl

theorem run_of_completes (name : String) {steps : List (Step LibraryVerb)} (h : Completes steps) :
    (run LibraryVerb.perform steps (holding name [])).result =
      .ok (holding name (accepted (calls steps))) := by
  induction steps using List.reverseRecOn with
  | nil => rfl
  | append_singleton steps step ih =>
    obtain ⟨hsteps, hstep⟩ := completes_concat.1 h
    rw [run_append_result, ih hsteps, Attempt.ok_bind, run_cons_result, step_holding, hstep]
    rfl

theorem run_of_endsWith (name : String) {steps : List (Step LibraryVerb)} {f : Fault}
    (h : EndsWith steps f) :
    (run LibraryVerb.perform steps (holding name [])).result = .error f := by
  obtain ⟨before, step, after, rfl, hbefore, hstep⟩ := h
  rw [run_append_result, run_of_completes name hbefore, Attempt.ok_bind, run_cons_result,
    step_holding, hstep]
  rfl

/-! ### Composing -/

theorem compose_eq {name : String} (named : Text.isBlank name = false)
    (steps : List (Step LibraryVerb)) :
    (Library.compose name steps).result = (run LibraryVerb.perform steps (holding name [])).result ∧
      (Library.compose name steps).entries =
        (run LibraryVerb.perform steps (holding name [])).entries := by
  have hempty : Library.empty name = .ok (holding name []) := by
    rw [Library.empty, checkName, named]
    rfl
  constructor
  · rw [Library.compose, Composing.compose_result, hempty, Attempt.ok_bind]
    cases (run LibraryVerb.perform steps (holding name [])).result <;> rfl
  · rw [Library.compose, hempty]
    rfl

/-- A library holds exactly the entities of the calls that were accepted, unless its
author passes an error on: then the first of these is the outcome. An author who goes on
after every error passes none on. Each call is accepted, or else refused for its reason
with the library left as it was, and no builder runs. -/
theorem holds_accepted_calls {name : String} (named : Text.isBlank name = false)
    (steps : List (Step LibraryVerb)) :
    ((∀ step ∈ steps, step.tolerated = true) → Completes steps) ∧
      (∀ l, (Library.compose name steps).result = .ok l ↔
        Completes steps ∧ l = holding name (accepted (calls steps))) ∧
      (∀ f, (Library.compose name steps).result = .error f ↔ EndsWith steps f) ∧
      (∀ before v tolerated after, steps = before ++ .verb v tolerated :: after →
        Completes before →
          (Library.compose name steps).entries[before.length]? = some
            (match v.refusal? (accepted (calls before)) with
              | some f => ⟨holding name (accepted (calls before)), some f⟩
              | none => ⟨holding name (accepted (calls before) ++ [v]), none⟩)) ∧
      ∀ b, .ran b ∉ (Library.compose name steps).notes := by
  obtain ⟨hresult, hentries⟩ := compose_eq named steps
  rw [hresult, hentries]
  refine ⟨completes_of_tolerated, fun l => ?_, fun f => ?_, ?_, fun b => ?_⟩
  · rcases completes_or_endsWith steps with hsteps | ⟨f, hf⟩
    · rw [run_of_completes name hsteps]
      constructor
      · intro hl
        cases hl
        exact ⟨hsteps, rfl⟩
      · rintro ⟨-, rfl⟩
        rfl
    · rw [run_of_endsWith name hf]
      exact iff_of_false nofun fun h => hf.not_completes h.1
  · rcases completes_or_endsWith steps with hsteps | ⟨f', hf⟩
    · rw [run_of_completes name hsteps]
      exact iff_of_false nofun fun h => h.not_completes hsteps
    · rw [run_of_endsWith name hf]
      constructor
      · intro he
        cases he
        exact hf
      · intro h
        rw [← run_of_endsWith name hf, run_of_endsWith name h]
  · rintro before v tolerated after rfl hbefore
    rw [run_entry _ _ _ (run_of_completes name hbefore), Step.entry, perform_holding]
    cases v.refusal? (accepted (calls before)) <;> rfl
  · exact Composing.compose_unbuilt perform_unbuilt _ _ _ _ steps b

/-- A script with a name used twice by one verb and once by another, a verb that is not
implemented, a nested script that fails and one that sets its source twice. -/
def roughScript : List (Step LibraryVerb) :=
  [.verb (.node .instrument "violin" ⟨0, none, .ok ⟨"bowed", []⟩⟩) true,
    .verb (.node .instrument "violin" ⟨1, none, .ok ⟨"plucked", []⟩⟩) true,
    .verb (.node .effect "violin" ⟨2, none, .error .noDevice⟩) true,
    .verb (.node .track "main" ⟨3, none, .error .noDevice⟩) true,
    .verb (.excerpt .snippet "riff" [.verb (.source "x") false, .fail .noDevice false]) true,
    .verb (.excerpt .snippet "riff"
      [.verb (.source "x") false, .verb (.source "y") false]) true,
    .verb (.excerpt .demo " " []) true, .look]

theorem holds_rough_calls :
    Text.isBlank "strings" = false ∧
      (Library.compose "strings" roughScript).result = .ok
        { name := "strings"
          instruments := ⟨[⟨"violin", some ⟨0, none, .ok ⟨"bowed", []⟩⟩, none⟩]⟩
          effects := ⟨[⟨"violin", some ⟨2, none, .error .noDevice⟩, none⟩]⟩
          snippets := ⟨[⟨"riff", "", "y"⟩]⟩ } := by
  have named : Text.isBlank "strings" = false := rfl
  have holds := holds_accepted_calls named roughScript
  exact ⟨named, (holds.2.1 _).2 ⟨holds.1 (by decide), rfl⟩⟩

end Library

end Studio
