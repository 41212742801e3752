import Mathlib.Algebra.GroupWithZero.Nat
import Mathlib.Data.List.Nodup
import Studio.Proofs.Session.Building

/-! What rendering makes of patches. Each rendered node carries the patches that name it,
on the side on which they name it. Nodes have different endpoints, even where an instrument,
an effect and a track share a name, so no patch is doubled, and a patch is lost just where
no node is meant. -/

namespace Studio

theorem Role.ofKind?_eq_some_iff {kind : String} {role : Role} :
    Role.ofKind? kind = some role ↔ role.kind = kind := by
  constructor
  · intro h
    simpa using List.find?_some h
  · rintro rfl
    exact ofKind?_kind role

theorem Role.kind_injective : Function.Injective Role.kind := by
  intro role other h
  exact Option.some.inj ((ofKind?_kind role).symm.trans (h ▸ ofKind?_kind other))

/-- What patches call the node. -/
def GraphNode.endpoint (n : GraphNode) : Endpoint := ⟨n.kind, n.name⟩

/-- The node carries the patches that name it, each on its side. -/
def GraphNode.Wired (patches : List Patch) (n : GraphNode) : Prop :=
  ⟨n.inputs, n.outputs⟩ = connections patches n.endpoint

namespace Session

variable {s : Session}

/-! ### Endpoints -/

/-- What patches call the nodes of the session. -/
def endpoints (s : Session) : List Endpoint :=
  Role.all.flatMap fun role => (s.nodes role).entries.map (Node.endpoint role)

theorem mem_endpoints_iff {e : Endpoint} :
    e ∈ s.endpoints ↔ ∃ role, ∃ node ∈ (s.nodes role).entries, node.endpoint role = e := by
  have hall (role : Role) : role ∈ Role.all := by cases role <;> decide
  simp [endpoints, hall]

/-- The match on kinds finds just the nodes of the session. -/
theorem hasNode_iff (e : Endpoint) : s.hasNode e = true ↔ e ∈ s.endpoints := by
  rw [mem_endpoints_iff, hasNode]
  constructor
  · intro h
    cases hkind : Role.ofKind? e.kind with
    | none =>
      rw [hkind] at h
      cases h
    | some role =>
      rw [hkind] at h
      obtain ⟨node, hnode, hname⟩ := List.mem_map.1 ((Registry.contains_iff _ _).1 h)
      have hendpoint : node.endpoint role = ⟨e.kind, e.name⟩ :=
        congrArg₂ Endpoint.mk (Role.ofKind?_eq_some_iff.1 hkind) hname
      exact ⟨role, node, hnode, hendpoint⟩
  · rintro ⟨role, node, hnode, rfl⟩
    rw [Node.endpoint, Role.ofKind?_kind]
    exact (Registry.contains_iff _ _).2 (List.mem_map_of_mem hnode)

/-- Nodes that differ in their names or their roles differ in their endpoints. -/
theorem nodup_endpoints (distinct : ∀ role, (s.nodes role).names.Nodup) : s.endpoints.Nodup := by
  refine List.nodup_flatMap.2 ⟨fun role _ => ?_, ?_⟩
  · have hnames : ((s.nodes role).entries.map (Node.endpoint role)).map Endpoint.name =
        (s.nodes role).names := by
      rw [List.map_map]
      rfl
    exact .of_map _ (hnames ▸ distinct role)
  -- Across roles the kinds differ, whatever the names are.
  · have hroles : Role.all.Pairwise (· ≠ ·) := by decide
    refine hroles.imp fun {role other} hne => ?_
    intro e hrole hother
    obtain ⟨node, -, rfl⟩ := List.mem_map.1 hrole
    obtain ⟨twin, -, htwin⟩ := List.mem_map.1 hother
    exact hne (Role.kind_injective (congrArg Endpoint.kind htwin)).symm

/-- What patches call a node of the roster. -/
def called : Role × Node → Endpoint
  | (role, node) => node.endpoint role

theorem endpoints_eq : s.endpoints = s.roster.map called := by
  simp only [endpoints, roster, Role.all, List.flatMap_cons, List.flatMap_nil, List.map_append,
    List.map_map, List.map_nil]
  rfl

/-! ### Rendered nodes -/

theorem Places.endpoint {a : Role × Node} {n : GraphNode} (h : s.Places a n) :
    n.endpoint = called a := by
  obtain ⟨p, -, rfl⟩ := h
  rfl

theorem Places.wired {a : Role × Node} {n : GraphNode} (h : s.Places a n) :
    n.Wired s.patches := by
  obtain ⟨p, -, rfl⟩ := h
  rfl

/-- The graph has a node for each node of the session, in order, wired to its patches. -/
theorem graph_wired {g : Graph} (h : s.graph.result = .ok g) :
    g.map GraphNode.endpoint = s.endpoints ∧ ∀ n ∈ g, n.Wired s.patches := by
  constructor
  · have named : List.Forall₂ (fun a n => called a = n.endpoint) s.roster g :=
      (graph_places h).imp fun _ _ placed => placed.endpoint.symm
    rw [endpoints_eq, eq_comm, ← List.forall₂_eq_eq_eq]
    exact List.forall₂_map_left_iff.2 (List.forall₂_map_right_iff.2 named)
  · intro n hn
    obtain ⟨a, -, placed⟩ := exists_places_of_mem h hn
    exact placed.wired

end Session

/-! ### Counting -/

namespace Graph

variable {patches : List Patch}

/-- An end of patches is shown on a side of the nodes: each has, on that side, the patches
of which it is that end. -/
def Shows (patches : List Patch) (mark : Patch → Endpoint) (side : GraphNode → List Patch)
    (g : Graph) : Prop :=
  ∀ n ∈ g, side n = patches.filter (mark · = n.endpoint)

variable {mark : Patch → Endpoint} {side : GraphNode → List Patch} {g : Graph}

theorem count_filter_mark (mark : Patch → Endpoint) (p : Patch) (e : Endpoint) :
    (patches.filter (mark · = e)).count p = if mark p = e then patches.count p else 0 := by
  by_cases h : mark p = e
  · rw [if_pos h]
    exact List.count_filter (by simpa using h)
  · rw [if_neg h, List.count_eq_zero, List.mem_filter]
    exact fun hp => h (of_decide_eq_true hp.2)

/-- Over nodes with different endpoints each patch is counted once, or not at all if no node
is its end. -/
theorem Shows.sum_count (h : g.Shows patches mark side)
    (distinct : (g.map GraphNode.endpoint).Nodup) (p : Patch) :
    (g.map fun n => (side n).count p).sum =
      if mark p ∈ g.map GraphNode.endpoint then patches.count p else 0 := by
  induction g with
  | nil => rfl
  | cons n g ih =>
    obtain ⟨hn, hrest⟩ := List.forall_mem_cons.1 h
    obtain ⟨hfresh, hdistinct⟩ := List.nodup_cons.1 distinct
    rw [List.map_cons, List.sum_cons, hn, count_filter_mark, ih hrest hdistinct]
    by_cases hmark : mark p = n.endpoint
    · rw [if_pos hmark, if_neg (hmark ▸ hfresh), if_pos (by simp [hmark]), Nat.add_zero]
    · rw [if_neg hmark, Nat.zero_add]
      simp [hmark]

/-- A stored patch is on that side of some node just if some node is its end. -/
theorem Shows.exists_iff (h : g.Shows patches mark side) {p : Patch} (hp : p ∈ patches) :
    (∃ n ∈ g, p ∈ side n) ↔ mark p ∈ g.map GraphNode.endpoint := by
  rw [List.mem_map]
  refine exists_congr fun n => and_congr_right fun hn => ?_
  rw [h n hn, List.mem_filter]
  exact ⟨fun hside => (of_decide_eq_true hside.2).symm, fun hmark =>
    ⟨hp, decide_eq_true hmark.symm⟩⟩

theorem Shows.mark_eq (h : g.Shows patches mark side) {n : GraphNode} (hn : n ∈ g) {p : Patch}
    (hp : p ∈ side n) : n.endpoint = mark p := by
  rw [h n hn, List.mem_filter] at hp
  exact (of_decide_eq_true hp.2).symm

/-- Where endpoints differ, one node alone has the endpoint. -/
theorem exists_filter_eq_singleton (distinct : (g.map GraphNode.endpoint).Nodup) {e : Endpoint}
    (he : e ∈ g.map GraphNode.endpoint) : ∃ n, g.filter (·.endpoint = e) = [n] := by
  induction g with
  | nil => cases he
  | cons n g ih =>
    obtain ⟨hfresh, hdistinct⟩ := List.nodup_cons.1 distinct
    by_cases hn : n.endpoint = e
    · have hnone : g.filter (·.endpoint = e) = [] := by
        refine List.filter_eq_nil_iff.2 fun other hother hsame => hfresh ?_
        exact List.mem_map.2 ⟨other, hother, (of_decide_eq_true hsame).trans hn.symm⟩
      exact ⟨n, by rw [List.filter_cons_of_pos (by simpa using hn), hnone]⟩
    · obtain ⟨only, honly⟩ := ih hdistinct (List.mem_of_ne_of_mem (Ne.symm hn) he)
      exact ⟨only, by rw [List.filter_cons_of_neg (by simpa using hn), honly]⟩

end Graph

namespace Session

variable {s : Session}

/-- Rendering conserves patches: where names differ and all nodes build, each patch is among
the outputs of the one node that is its source as often as it is stored, and among the
inputs of the one that is its target. So the dangling patches are those that are not on
both sides of the graph. -/
theorem graph_conserves_patches (distinct : ∀ role, (s.nodes role).names.Nodup)
    (built : ∀ node ∈ s.allNodes, node.builds = true) :
    ∃ g, s.graph.result = .ok g ∧
      (∀ e ∈ s.endpoints, ∃ n, g.filter (·.endpoint = e) = [n]) ∧
      (∀ p : Patch,
        (g.map (·.outputs.count p)).sum =
            (if p.source ∈ s.endpoints then s.patches.count p else 0) ∧
          (g.map (·.inputs.count p)).sum =
            if p.target ∈ s.endpoints then s.patches.count p else 0) ∧
      (∀ n ∈ g, (∀ p ∈ n.outputs, n.endpoint = p.source) ∧ ∀ p ∈ n.inputs, n.endpoint = p.target) ∧
      s.danglingPatches =
        s.patches.filter fun p => ¬((∃ n ∈ g, p ∈ n.outputs) ∧ ∃ n ∈ g, p ∈ n.inputs) := by
  obtain ⟨g, hg⟩ := graph_of_builds built
  obtain ⟨named, wired⟩ := graph_wired hg
  have unique : (g.map GraphNode.endpoint).Nodup := named ▸ nodup_endpoints distinct
  have outputs : g.Shows s.patches Patch.source (·.outputs) := fun n hn =>
    congrArg Connections.outputs (wired n hn)
  have inputs : g.Shows s.patches Patch.target (·.inputs) := fun n hn =>
    congrArg Connections.inputs (wired n hn)
  refine ⟨g, hg, fun e he => ?_, fun p => ⟨?_, ?_⟩, fun n hn => ⟨?_, ?_⟩, ?_⟩
  · exact Graph.exists_filter_eq_singleton unique (named ▸ he)
  · rw [outputs.sum_count unique, named]
  · rw [inputs.sum_count unique, named]
  · exact fun p hp => outputs.mark_eq hn hp
  · exact fun p hp => inputs.mark_eq hn hp
  · refine List.filter_congr fun p hp => ?_
    have shown : ((∃ n ∈ g, p ∈ n.outputs) ∧ ∃ n ∈ g, p ∈ n.inputs) ↔
        s.hasNode p.source = true ∧ s.hasNode p.target = true := by
      rw [outputs.exists_iff hp, inputs.exists_iff hp, named, hasNode_iff, hasNode_iff]
    simp [shown]

/-- An instrument, an effect and a track of one name, with a patch stored twice, a patch from
the effect into itself, one whose source is of no known kind and one from a missing node. -/
def crowdedSession : Session where
  name := "echoes"
  instruments := ⟨[⟨"x", some ⟨0, none, .ok ⟨"saw", []⟩⟩, some "echoes"⟩]⟩
  effects := ⟨[⟨"x", some ⟨1, none, .ok ⟨"delay", []⟩⟩, some "echoes"⟩]⟩
  tracks := ⟨[⟨"x", some ⟨2, none, .ok ⟨"bus", []⟩⟩, some "echoes"⟩]⟩
  patches :=
    [⟨⟨"instrument", "x"⟩, ⟨"effect", "x"⟩⟩, ⟨⟨"effect", "x"⟩, ⟨"effect", "x"⟩⟩,
      ⟨⟨"bus", "x"⟩, ⟨"track", "x"⟩⟩, ⟨⟨"instrument", "x"⟩, ⟨"effect", "x"⟩⟩,
      ⟨⟨"instrument", "y"⟩, ⟨"track", "x"⟩⟩]

theorem nodup_names_crowdedSession : ∀ role, (crowdedSession.nodes role).names.Nodup := by
  intro role
  cases role <;> decide

theorem builds_crowdedSession : ∀ node ∈ crowdedSession.allNodes, node.builds = true := by
  simp [allNodes, crowdedSession, Node.builds, Except.isOk, Except.toBool]

theorem crowded_session_conserves_patches :
    (∀ role, (crowdedSession.nodes role).names.Nodup) ∧
      (∀ node ∈ crowdedSession.allNodes, node.builds = true) ∧
      ∃ g, crowdedSession.graph.result = .ok g ∧
        (g.map (·.outputs.count ⟨⟨"instrument", "x"⟩, ⟨"effect", "x"⟩⟩)).sum = 2 ∧
        (g.map (·.inputs.count ⟨⟨"effect", "x"⟩, ⟨"effect", "x"⟩⟩)).sum = 1 ∧
        (g.map (·.outputs.count ⟨⟨"bus", "x"⟩, ⟨"track", "x"⟩⟩)).sum = 0 ∧
        crowdedSession.danglingPatches =
          [⟨⟨"bus", "x"⟩, ⟨"track", "x"⟩⟩, ⟨⟨"instrument", "y"⟩, ⟨"track", "x"⟩⟩] := by
  obtain ⟨g, hg, -, counted, -, -⟩ :=
    graph_conserves_patches nodup_names_crowdedSession builds_crowdedSession
  exact ⟨nodup_names_crowdedSession, builds_crowdedSession, g, hg, (counted _).1, (counted _).2,
    (counted _).1, by decide⟩

end Session

end Studio
