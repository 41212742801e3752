import Studio.Proofs.Session.Building

/-! Which builders run. Nodes are built one after another, in the order of the roster, and
the first that cannot be built ends the work with its own fault. What is left behind is the
builders of the nodes up to there, one for each node, whether or not nodes share them. -/

namespace Studio

/-! ### What ran -/

/-- The builder that ran, if the note is of one. -/
def Note.ran? : Note → Option Builder
  | .ran b => some b
  | .said _ _ => none

namespace Attempt

variable {α β : Type}

/-- The builders that ran, in order. -/
def ran (x : Attempt α) : List Builder := x.notes.filterMap Note.ran?

theorem notes_bind (x : Attempt α) (f : α → Attempt β) :
    (x >>= f).notes = x.notes ++ match x.result with
      | .ok a => (f a).notes
      | .error _ => [] := by
  change (Attempt.bind x f).notes = _
  unfold Attempt.bind
  cases x.result with
  | ok a => rfl
  | error e => exact (List.append_nil _).symm

theorem ran_bind (x : Attempt α) (f : α → Attempt β) :
    (x >>= f).ran = x.ran ++ match x.result with
      | .ok a => (f a).ran
      | .error _ => [] := by
  rw [ran, notes_bind, List.filterMap_append]
  cases x.result <;> rfl

end Attempt

/-! ### Nodes in a row -/

/-- How a node cannot be built: it has no builder, or the builder fails. -/
inductive Node.Fails (role : Role) (node : Node) : Fault → Prop
  | builderless (missing : node.builder = none) : node.Fails role (.missing role.kind "fn")
  | broken {b : Builder} {f : Fault} (own : node.builder = some b)
      (fails : b.outcome = .error f) : node.Fails role f

/-- The nodes have these builders, one each, and all of them succeed. -/
def BuiltBy (nodes : List (Role × Node)) (run : List Builder) : Prop :=
  List.Forall₂ (fun (_, node) b => node.builder = some b ∧ b.outcome.isOk = true) nodes run

/-- The attempt builds the nodes one after another: all of them, or those before the first
that cannot be built, which ends it. -/
inductive Attempt.Builds {α : Type} (nodes : List (Role × Node)) (x : Attempt α) : Prop
  | completed {a : α} (built : BuiltBy nodes x.ran) (result : x.result = .ok a)
  | stopped {role : Role} {node : Node} {f : Fault} (before after : List (Role × Node))
      (run : List Builder) (split : nodes = before ++ (role, node) :: after)
      (built : BuiltBy before run) (fails : node.Fails role f)
      (ran : x.ran = run ++ node.builder.toList) (result : x.result = .error f)

namespace Attempt.Builds

variable {α β : Type} {nodes more : List (Role × Node)}

theorem of_ok {x : Attempt α} {a : α} (result : x.result = .ok a) (ran : x.ran = []) :
    x.Builds [] := .completed (ran ▸ List.Forall₂.nil) result

/-- Building some nodes and then, if that goes well, others is building them all. -/
theorem bind {x : Attempt α} {f : α → Attempt β} (hx : x.Builds nodes)
    (hf : ∀ a, (f a).Builds more) : (x >>= f).Builds (nodes ++ more) := by
  cases hx with
  | stopped before after run split built fails ran result =>
    refine .stopped before (after ++ more) run ?_ built fails ?_ ?_
    · rw [split, List.append_assoc, List.cons_append]
    · rw [ran_bind, result, ran, List.append_nil]
    · rw [result_bind, result, error_bind]
  | @completed a built result =>
    have hran : (x >>= f).ran = x.ran ++ (f a).ran := by rw [ran_bind, result]
    have hresult : (x >>= f).result = (f a).result := by rw [result_bind, result, ok_bind]
    cases hf a with
    | completed built' result' =>
      refine .completed ?_ (hresult.trans result')
      rw [hran]
      exact List.rel_append built built'
    | stopped before after run split built' fails ran result' =>
      have hbuilt : BuiltBy (nodes ++ before) (x.ran ++ run) := List.rel_append built built'
      refine .stopped _ after _ ?_ hbuilt fails ?_ (hresult.trans result')
      · rw [split, List.append_assoc]
      · rw [hran, ran, List.append_assoc]

/-- An attempt that succeeds has built all nodes. -/
theorem builtBy {x : Attempt α} {a : α} (h : x.Builds nodes) (result : x.result = .ok a) :
    BuiltBy nodes x.ran := by
  cases h with
  | completed built _ => exact built
  | stopped _ _ _ _ _ _ _ result' =>
    rw [result] at result'
    cases result'

end Attempt.Builds

theorem Node.instantiate_builds (role : Role) (node : Node) :
    (node.instantiate role).Builds [(role, node)] := by
  cases hb : node.builder with
  | none =>
    have failed : node.instantiate role = .fail (.missing role.kind "fn") := by
      rw [instantiate, hb]
    rw [failed]
    refine .stopped [] [] [] rfl .nil (.builderless hb) ?_ rfl
    rw [hb]
    rfl
  | some b =>
    have run : node.instantiate role = .run b := by rw [instantiate, hb]
    rw [run]
    cases ho : b.outcome with
    | error f =>
      refine .stopped [] [] [] rfl .nil (.broken hb ho) ?_ ho
      rw [hb]
      rfl
    | ok p => exact .completed (.cons ⟨hb, by rw [ho]; rfl⟩ .nil) ho

namespace Session

variable (s : Session)

theorem buildNodes_builds (role : Role) (ns : List Node) :
    (s.buildNodes role ns).Builds (ns.map (role, ·)) := by
  induction ns with
  | nil => exact .of_ok rfl rfl
  | cons node ns ih =>
    have rest (p : Processor) :
        (s.buildNodes role ns >>= fun g => pure (s.graphNode role node p :: g)).Builds
          (ns.map (role, ·) ++ []) := ih.bind fun g => .of_ok rfl rfl
    simp only [List.append_nil] at rest
    exact (node.instantiate_builds role).bind rest

/-- Warnings run no builder. -/
theorem warnings_ran : s.warnings.filterMap Note.ran? = [] := by
  refine List.filterMap_eq_nil_iff.2 fun note h => ?_
  obtain ⟨p, -, rfl⟩ := List.mem_map.1 h
  rfl

theorem graph_builds : s.graph.Builds s.roster := by
  have report (g : Graph) (text : String) :
      Attempt.Builds [] { result := Except.ok g, notes := s.warnings ++ [.said .debug text] } := by
    refine .of_ok rfl ?_
    rw [Attempt.ran, List.filterMap_append, warnings_ran]
    rfl
  have h := (s.buildNodes_builds .instrument s.instruments.entries).bind fun instruments =>
    (s.buildNodes_builds .effect s.effects.entries).bind fun effects =>
      (s.buildNodes_builds .track s.tracks.entries).bind fun tracks =>
        report (instruments ++ effects ++ tracks)
          s!"rendered {(instruments ++ effects ++ tracks).length} node(s) from '{s.name}'"
  rw [List.append_nil, ← List.append_assoc, ← roster_eq] at h
  exact h

/-- A builder that two nodes share runs for each of them, and none runs after a node that has
none. -/
example :
    let b : Builder := ⟨7, none, .ok ⟨"sine", []⟩⟩
    let s : Session :=
      { name := "duo"
        instruments := ⟨[⟨"a", some b, none⟩, ⟨"b", some b, none⟩, ⟨"c", none, none⟩]⟩
        effects := ⟨[⟨"d", some b, none⟩]⟩ }
    s.graph.ran.map (·.id) = [7, 7] := rfl

end Session

end Studio
