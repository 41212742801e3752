import Mathlib.Data.List.Induction
import Studio.Proofs.Session.Builders
import Studio.Proofs.Session.Conservation

/-! How a graph is wired. Each node of the session is rendered in its place, with the patches
that flow into it as its inputs and those that flow out of it as its outputs, in the order in
which they are stored. A patch that is added goes to the end of one side of one node at each
of its ends, and no other node sees it. -/

namespace Studio

/-! ### One scan of the patches -/

/-- The connections after one more patch, which goes to the sides on which it names the node. -/
def Connections.take (e : Endpoint) (c : Connections) (p : Patch) : Connections where
  inputs := if p.target = e then c.inputs ++ [p] else c.inputs
  outputs := if p.source = e then c.outputs ++ [p] else c.outputs

theorem connections_concat (patches : List Patch) (p : Patch) (e : Endpoint) :
    connections (patches ++ [p]) e = (connections patches e).take e p := by
  rw [connections_append]
  by_cases ht : p.target = e <;> by_cases hs : p.source = e <;>
    simp [connections, Connections.take, ht, hs]

/-- One scan of the patches fills both sides. -/
theorem foldl_take (patches : List Patch) (e : Endpoint) :
    patches.foldl (Connections.take e) ⟨[], []⟩ = connections patches e := by
  induction patches using List.reverseRecOn with
  | nil => rfl
  | append_singleton patches p ih => rw [List.foldl_concat, ih, connections_concat]

/-- A node is unconnected just if no patch mentions it. -/
theorem connections_eq_nil_iff (patches : List Patch) (e : Endpoint) :
    connections patches e = ⟨[], []⟩ ↔ ∀ p ∈ patches, p.source ≠ e ∧ p.target ≠ e := by
  rw [connections, Connections.mk.injEq, List.filter_eq_nil_iff, List.filter_eq_nil_iff]
  simp only [decide_eq_true_eq]
  exact ⟨fun h p hp => ⟨h.2 p hp, h.1 p hp⟩,
    fun h => ⟨fun p hp => (h p hp).2, fun p hp => (h p hp).1⟩⟩

theorem filter_mark_eq (mark : Patch → Endpoint) (patches : List Patch) (e : Endpoint) :
    patches.filter (mark · = e) =
      patches.filter fun p => (mark p).kind = e.kind ∧ (mark p).name = e.name := by
  refine List.filter_congr fun p _ => decide_eq_decide.2 ?_
  rw [← Endpoint.mk.injEq]

/-- The first node of an endpoint is the first of those that have it. -/
theorem Graph.node?_eq (g : Graph) (e : Endpoint) :
    g.node? e = (g.filter (·.endpoint = e)).head? := by
  rw [List.head?_filter, node?]
  congr 1
  funext n
  rw [← Bool.decide_and, decide_eq_decide, GraphNode.endpoint, ← Endpoint.mk.injEq]

namespace Session

variable {s : Session}

/-! ### Nodes where they stand -/

/-- Where names differ, a node of the roster is told by its endpoint. -/
theorem eq_of_called_eq (distinct : ∀ role, (s.nodes role).names.Nodup) {a b : Role × Node}
    (ha : a ∈ s.roster) (hb : b ∈ s.roster) (h : called a = called b) : a = b :=
  List.inj_on_of_nodup_map (endpoints_eq ▸ nodup_endpoints distinct) ha hb h

/-- What a node comes to in a graph: a node of its kind and name, with what its builder made
and the patches that name it on either side. -/
structure Renders (s : Session) (a : Role × Node) (n : GraphNode) : Prop where
  kind : n.kind = a.1.kind
  name : n.name = a.2.name
  processor : ∃ b, a.2.builder = some b ∧ b.outcome = .ok n.processor
  inputs : n.inputs = s.patches.filter fun p =>
    p.target.kind = a.1.kind ∧ p.target.name = a.2.name
  outputs : n.outputs = s.patches.filter fun p =>
    p.source.kind = a.1.kind ∧ p.source.name = a.2.name
  connections : s.connectionsOf (called a) = ⟨n.inputs, n.outputs⟩

theorem Places.renders {a : Role × Node} {n : GraphNode} (h : s.Places a n) : s.Renders a n := by
  obtain ⟨p, hp, rfl⟩ := h
  exact
    { kind := rfl
      name := rfl
      processor := Node.instantiate_eq_ok hp
      inputs := filter_mark_eq Patch.target s.patches (called a)
      outputs := filter_mark_eq Patch.source s.patches (called a)
      connections := rfl }

/-- Where names differ, the node of the graph that is found by the endpoint of a node of the
session is what that node comes to, and the only one of that endpoint. -/
theorem node?_of_mem_roster (distinct : ∀ role, (s.nodes role).names.Nodup) {g : Graph}
    (hg : s.graph.result = .ok g) {a : Role × Node} (ha : a ∈ s.roster) :
    ∃ n, g.node? (called a) = some n ∧ g.filter (·.endpoint = called a) = [n] ∧ s.Renders a n := by
  have hnamed := (graph_wired hg).1
  have hmem : called a ∈ g.map GraphNode.endpoint := by
    rw [hnamed, endpoints_eq]
    exact List.mem_map_of_mem ha
  obtain ⟨n, hn⟩ := Graph.exists_filter_eq_singleton (hnamed ▸ nodup_endpoints distinct) hmem
  obtain ⟨hng, hcalled⟩ := List.mem_filter.1 (hn ▸ List.mem_singleton_self n)
  obtain ⟨b, hb, placed⟩ := exists_places_of_mem hg hng
  have hba : b = a :=
    eq_of_called_eq distinct hb ha (placed.endpoint.symm.trans (of_decide_eq_true hcalled))
  exact ⟨n, by rw [Graph.node?_eq, hn, List.head?_singleton], hn, hba ▸ placed.renders⟩

theorem node?_of_not_mem {g : Graph} (hg : s.graph.result = .ok g) {e : Endpoint}
    (he : e ∉ s.endpoints) : g.node? e = none := by
  rw [Graph.node?_eq, List.head?_eq_none_iff, List.filter_eq_nil_iff]
  intro n hn hcalled
  rw [← (graph_wired hg).1] at he
  exact he (of_decide_eq_true hcalled ▸ List.mem_map_of_mem hn)

/-! ### One patch more -/

/-- A patch that is added goes to the end of what its source sends and of what its target
receives. -/
theorem connectionsOf_addPatch (s : Session) (p : Patch) :
    ∃ s', (s.addPatch p).result = .ok s' ∧ s'.roster = s.roster ∧
      ∀ e, s'.connectionsOf e = (s.connectionsOf e).take e p :=
  ⟨{ s with patches := s.patches ++ [p] }, rfl, rfl, connections_concat s.patches p⟩

/-- Rendering wires a session as its patches say. The connections of a node are the patches
that name it, sorted by their side in one scan, and there are none if no patch does. Where all
nodes build, each comes to a node of the graph in its place, which is found by kind and name
where names differ. And a patch added between two of the nodes goes to the outputs of the one
and the inputs of the other, and to nothing else. -/
theorem graph_wires_as_patched (s : Session) :
    (∀ e, s.connectionsOf e = connections s.patches e ∧
        connections s.patches e = s.patches.foldl (Connections.take e) ⟨[], []⟩ ∧
        (connections s.patches e).inputs =
          (s.patches.filter fun p => p.target.kind = e.kind ∧ p.target.name = e.name) ∧
        (connections s.patches e).outputs =
          (s.patches.filter fun p => p.source.kind = e.kind ∧ p.source.name = e.name) ∧
        ((∀ p ∈ s.patches, p.source ≠ e ∧ p.target ≠ e) → connections s.patches e = ⟨[], []⟩)) ∧
      ((∀ node ∈ s.allNodes, node.builds = true) →
        ∃ g, s.graph.result = .ok g ∧ List.Forall₂ s.Renders s.roster g ∧
          ((∀ role, (s.nodes role).names.Nodup) →
            (∀ a ∈ s.roster, ∃ n, g.node? (called a) = some n ∧
              g.filter (·.endpoint = called a) = [n] ∧ s.Renders a n) ∧
            ∀ e ∉ s.endpoints, g.node? e = none)) ∧
      ((∀ role, (s.nodes role).names.Nodup) → ∀ a ∈ s.roster, ∀ b ∈ s.roster,
        let p := Patch.connect (called a) (called b)
        ∃ s', (s.addPatch p).result = .ok s' ∧ s'.roster = s.roster ∧
          (s'.connectionsOf (called a)).outputs = (s.connectionsOf (called a)).outputs ++ [p] ∧
          (s'.connectionsOf (called b)).inputs = (s.connectionsOf (called b)).inputs ++ [p] ∧
          ∀ c ∈ s.roster,
            (c ≠ a → (s'.connectionsOf (called c)).outputs =
              (s.connectionsOf (called c)).outputs) ∧
            (c ≠ b → (s'.connectionsOf (called c)).inputs =
              (s.connectionsOf (called c)).inputs)) := by
  refine ⟨fun e => ?_, fun built => ?_, fun distinct a ha b hb => ?_⟩
  · exact ⟨rfl, (foldl_take s.patches e).symm, filter_mark_eq Patch.target s.patches e,
      filter_mark_eq Patch.source s.patches e, (connections_eq_nil_iff s.patches e).2⟩
  · obtain ⟨g, hg⟩ := graph_of_builds built
    refine ⟨g, hg, (graph_places hg).imp fun _ _ => Places.renders, fun distinct => ⟨?_, ?_⟩⟩
    · exact fun a ha => node?_of_mem_roster distinct hg ha
    · exact fun e he => node?_of_not_mem hg he
  · obtain ⟨s', hs', hroster, hconnections⟩ :=
      connectionsOf_addPatch s (Patch.connect (called a) (called b))
    refine ⟨s', hs', hroster, ?_, ?_, fun c hc => ⟨fun hne => ?_, fun hne => ?_⟩⟩
    · rw [hconnections]
      exact if_pos rfl
    · rw [hconnections]
      exact if_pos rfl
    · rw [hconnections]
      exact if_neg fun h => hne (eq_of_called_eq distinct hc ha h.symm)
    · rw [hconnections]
      exact if_neg fun h => hne (eq_of_called_eq distinct hc hb h.symm)

/-- The effect hears what is patched to it, twice where that is stored twice, and itself. A
patch more from it to the track is one output more of the effect and leaves the instrument,
of the same name, alone. -/
theorem crowded_session_wired :
    ∃ g n, crowdedSession.graph.result = .ok g ∧ g.node? ⟨"effect", "x"⟩ = some n ∧
      n.processor = ⟨"delay", []⟩ ∧
      n.inputs.map (·.source.kind) = ["instrument", "effect", "instrument"] ∧
      n.outputs = [⟨⟨"effect", "x"⟩, ⟨"effect", "x"⟩⟩] ∧
      ∃ s', (crowdedSession.addPatch ⟨⟨"effect", "x"⟩, ⟨"track", "x"⟩⟩).result = .ok s' ∧
        (s'.connectionsOf ⟨"effect", "x"⟩).outputs.length = 2 ∧
        (s'.connectionsOf ⟨"instrument", "x"⟩).outputs.length = 2 := by
  let saw : Role × Node :=
    (.instrument, ⟨"x", some ⟨0, none, .ok ⟨"saw", []⟩⟩, some "echoes"⟩)
  let delay : Role × Node := (.effect, ⟨"x", some ⟨1, none, .ok ⟨"delay", []⟩⟩, some "echoes"⟩)
  let bus : Role × Node := (.track, ⟨"x", some ⟨2, none, .ok ⟨"bus", []⟩⟩, some "echoes"⟩)
  have hroster : crowdedSession.roster = [saw, delay, bus] := rfl
  have hdelay : delay ∈ crowdedSession.roster := by simp [hroster]
  have hsaw : saw ∈ crowdedSession.roster := by simp [hroster]
  have hbus : bus ∈ crowdedSession.roster := by simp [hroster]
  obtain ⟨-, rendered, patched⟩ := graph_wires_as_patched crowdedSession
  obtain ⟨g, hg, -, found⟩ := rendered builds_crowdedSession
  obtain ⟨n, hn, -, renders⟩ := (found nodup_names_crowdedSession).1 delay hdelay
  obtain ⟨s', hs', -, sent, -, others⟩ :=
    patched nodup_names_crowdedSession delay hdelay bus hbus
  refine ⟨g, n, hg, hn, ?_, ?_, renders.outputs, s', hs', ?_, ?_⟩
  · obtain ⟨b, hb, hmade⟩ := renders.processor
    cases hb
    exact (Except.ok.inj hmade).symm
  · rw [renders.inputs]
    rfl
  · exact congrArg List.length sent
  · exact congrArg List.length ((others saw hsaw).1 (by simp [saw, delay]))

end Session

end Studio
