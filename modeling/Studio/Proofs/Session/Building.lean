import Mathlib.Data.List.Forall2
import Studio.Render

/-! When a session comes to a graph: just when every one of its nodes has a builder
that succeeds. The graph then has a node for each of them, in the order of the roster. -/

namespace Studio

/-- The node has a builder, and it succeeds. -/
def Node.builds (node : Node) : Bool :=
  match node.builder with
  | some b => b.outcome.isOk
  | none => false

theorem Node.instantiate_isOk (role : Role) (node : Node) :
    (node.instantiate role).result.isOk = node.builds := by
  unfold instantiate builds
  cases node.builder <;> rfl

theorem Node.instantiate_eq_ok {role : Role} {node : Node} {p : Processor}
    (h : (node.instantiate role).result = .ok p) :
    ∃ b, node.builder = some b ∧ b.outcome = .ok p := by
  unfold instantiate at h
  cases hb : node.builder with
  | none =>
    rw [hb] at h
    cases h
  | some b =>
    rw [hb] at h
    exact ⟨b, rfl, h⟩

theorem Attempt.isOk_bind {α β : Type} (x : Except Fault α) (f : α → Except Fault β) :
    (x >>= f).isOk = match x with
      | .ok a => (f a).isOk
      | .error _ => false := by
  cases x <;> rfl

namespace Session

variable (s : Session)

theorem buildNodes_isOk (role : Role) (nodes : List Node) :
    (s.buildNodes role nodes).result.isOk = nodes.all Node.builds := by
  induction nodes with
  | nil => rfl
  | cons node nodes ih =>
    rw [List.all_cons, ← node.instantiate_isOk role, ← ih]
    simp only [buildNodes, Attempt.result_bind, Attempt.result_pure, Attempt.isOk_bind]
    cases (node.instantiate role).result with
    | error f => rfl
    | ok p => cases (s.buildNodes role nodes).result <;> rfl

/-- The nodes in the order in which they are built. -/
def allNodes : List Node := s.instruments.entries ++ s.effects.entries ++ s.tracks.entries

theorem graph_isOk : s.graph.result.isOk = s.allNodes.all Node.builds := by
  rw [allNodes, List.all_append, List.all_append, ← s.buildNodes_isOk .instrument,
    ← s.buildNodes_isOk .effect, ← s.buildNodes_isOk .track]
  simp only [graph, Attempt.result_bind, Attempt.isOk_bind]
  cases (s.buildNodes .instrument s.instruments.entries).result with
  | error f => rfl
  | ok instruments =>
    cases (s.buildNodes .effect s.effects.entries).result with
    | error f => rfl
    | ok effects => cases (s.buildNodes .track s.tracks.entries).result <;> rfl

variable {s} in
theorem graph_of_builds (built : ∀ node ∈ s.allNodes, node.builds = true) :
    ∃ g, s.graph.result = .ok g := by
  have hok : s.graph.result.isOk = true := by
    rw [graph_isOk, List.all_eq_true]
    exact built
  cases hg : s.graph.result with
  | error f =>
    rw [hg] at hok
    cases hok
  | ok g => exact ⟨g, rfl⟩

/-- The nodes of the session with their roles, in the order in which they are built. -/
def roster : List (Role × Node) :=
  Role.all.flatMap fun role => (s.nodes role).entries.map (role, ·)

theorem roster_eq :
    s.roster = s.instruments.entries.map (.instrument, ·) ++ s.effects.entries.map (.effect, ·) ++
      s.tracks.entries.map (.track, ·) := by
  simp [roster, Role.all, nodes]

/-- The rendered node is the node's own, with what its builder made. -/
def Places (a : Role × Node) (n : GraphNode) : Prop :=
  ∃ p, (a.2.instantiate a.1).result = .ok p ∧ n = s.graphNode a.1 a.2 p

variable {s}

theorem buildNodes_places {role : Role} {nodes : List Node} {g : Graph}
    (h : (s.buildNodes role nodes).result = .ok g) :
    List.Forall₂ s.Places (nodes.map (role, ·)) g := by
  induction nodes generalizing g with
  | nil =>
    cases h
    exact .nil
  | cons node nodes ih =>
    rw [buildNodes, Attempt.result_bind, Attempt.bind_eq_ok_iff] at h
    obtain ⟨p, hp, h⟩ := h
    rw [Attempt.result_bind, Attempt.bind_eq_ok_iff] at h
    obtain ⟨rest, hrest, h⟩ := h
    cases h
    exact .cons ⟨p, hp, rfl⟩ (ih hrest)

/-- The graph has a node for each node of the session, in order. -/
theorem graph_places {g : Graph} (h : s.graph.result = .ok g) :
    List.Forall₂ s.Places s.roster g := by
  simp only [graph, Attempt.result_bind, Attempt.bind_eq_ok_iff] at h
  obtain ⟨instruments, hinstruments, effects, heffects, tracks, htracks, h⟩ := h
  cases h
  rw [roster_eq]
  exact List.rel_append (List.rel_append (buildNodes_places hinstruments)
    (buildNodes_places heffects)) (buildNodes_places htracks)

theorem exists_places_of_mem {g : Graph} (hg : s.graph.result = .ok g) {n : GraphNode}
    (hn : n ∈ g) : ∃ a ∈ s.roster, s.Places a n := by
  have placed := graph_places hg
  clear hg
  generalize s.roster = roster at placed
  induction placed with
  | nil => cases hn
  | cons ha _ ih =>
    cases hn with
    | head => exact ⟨_, List.mem_cons_self, ha⟩
    | tail _ hn =>
      obtain ⟨b, hb, hplaces⟩ := ih hn
      exact ⟨b, List.mem_cons_of_mem _ hb, hplaces⟩

end Session

theorem Score.build_isOk (libraries : List Library) (default : String) (s : Score) :
    (s.build libraries default).result.isOk =
      match (s.compose libraries default).result with
      | .ok session => session.allNodes.all Node.builds
      | .error _ => false := by
  simp only [build, Attempt.result_bind, Attempt.result_pure, Attempt.isOk_bind]
  cases (s.compose libraries default).result with
  | error f => rfl
  | ok session =>
    dsimp only
    rw [← session.graph_isOk]
    cases session.graph.result <;> rfl

end Studio
