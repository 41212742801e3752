import Studio.Proofs.Composing.Library
import Studio.Proofs.Json.RoundTrip

/-! What a library keeps of itself in its exported text: all but the builders of its
nodes. Import recovers that much of every library that was composed or imported, since
the nodes of these belong to no session. -/

namespace Studio

open Json

/-! ### Nodes -/

/-- The node without its builder. -/
def Node.bare (node : Node) : Node := { node with builder := none }

def Registry.bare (r : Registry Node) : Registry Node := ⟨r.entries.map Node.bare⟩

/-- What is written of the node. -/
def Node.written (node : Node) : Node := { name := node.name }

def Registry.written (r : Registry Node) : Registry Node := ⟨r.entries.map Node.written⟩

/-- The nodes belong to no session. -/
def Registry.Loose (r : Registry Node) : Prop := ∀ node ∈ r.entries, node.session = none

theorem Node.readsBack (role : Role) (node : Node) :
    ReadsBack 1 (Node.schema role).reader node.toValue :=
  .record role.title (by decide) (.member (.text node.name) rfl .nil)

theorem Registry.readsBack_nodes (role : Role) (r : Registry Node) :
    ReadsBack 2 (Schema.list (Node.schema role)).reader r.ofNodes :=
  .list_map fun node _ => node.readsBack role

theorem Registry.nodes_loose (v : Value) : (Registry.nodes v).Loose := by
  intro node hnode
  obtain ⟨_, -, rfl⟩ := List.mem_map.1 hnode
  rfl

theorem Registry.nodes_ofNodes (r : Registry Node) : Registry.nodes r.ofNodes = r.written := by
  simp only [Registry.nodes, ofNodes, Value.items, written, List.map_map]
  rfl

/-- Builders are not written. -/
theorem Registry.ofNodes_bare (r : Registry Node) : r.bare.ofNodes = r.ofNodes := by
  simp only [ofNodes, bare, List.map_map]
  rfl

theorem Registry.written_of_loose {r : Registry Node} (h : r.Loose) : r.written = r.bare := by
  have hnode : ∀ node ∈ r.entries, node.written = node.bare := by
    intro node hm
    have hsession := h node hm
    obtain ⟨name, builder, session⟩ := node
    subst hsession
    rfl
  exact congrArg Registry.mk (List.map_congr_left hnode)

/-! ### Excerpts -/

theorem Excerpt.readsBack (genre : Genre) (e : Excerpt) :
    ReadsBack 1 (Excerpt.schema genre).reader e.toValue :=
  .record genre.title (by decide)
    (.member (.text e.name) rfl (.member (.text e.description) rfl
      (.member (.text e.source) rfl .nil)))

theorem Registry.readsBack_excerpts (genre : Genre) (r : Registry Excerpt) :
    ReadsBack 2 (Schema.list (Excerpt.schema genre)).reader r.ofExcerpts :=
  .list_map fun e _ => e.readsBack genre

theorem Registry.excerpts_ofExcerpts (r : Registry Excerpt) :
    Registry.excerpts r.ofExcerpts = r := by
  have he : Excerpt.ofValue ∘ Excerpt.toValue = id := rfl
  simp only [Registry.excerpts, ofExcerpts, Value.items, List.map_map, he, List.map_id]

/-! ### Libraries -/

namespace Library

/-- The library without the builders of its nodes. -/
def bare (l : Library) : Library :=
  { l with instruments := l.instruments.bare, effects := l.effects.bare }

/-- What is written of the library. -/
def written (l : Library) : Library :=
  { l with instruments := l.instruments.written, effects := l.effects.written }

/-- The nodes of the library belong to no session. -/
structure Loose (l : Library) : Prop where
  instruments : l.instruments.Loose
  effects : l.effects.Loose

/-- The ways in which libraries come about. -/
inductive Obtained : Library → Prop
  | composed {name : String} {steps : List (Composing.Step LibraryVerb)} {l : Library}
      (h : (Library.compose name steps).result = .ok l) : Obtained l
  | imported {text : String} {l : Library} (h : ofText text = .ok l) : Obtained l

theorem readsBack (l : Library) :
    ReadsBack 3 (Persisted.schema Library).reader (Persisted.toValue l) :=
  .record "LibraryModel" (by decide)
    (.member ((ReadsBack.text l.name).mono (Nat.zero_le 2)) rfl
      (.member (l.instruments.readsBack_nodes .instrument) rfl
        (.member (l.effects.readsBack_nodes .effect) rfl
          (.member (l.snippets.readsBack_excerpts .snippet) rfl
            (.member (l.templates.readsBack_excerpts .template) rfl
              (.member (l.demos.readsBack_excerpts .demo) rfl .nil))))))

/-- Import takes back what was written of a library, whatever its nodes are. -/
theorem ofText_eq_written (l : Library) : ofText l.exportText = .ok l.written := by
  have hread : (Json.read l.exportText : Except ReadError Library) =
      .ok (Persisted.ofValue (Persisted.toValue l)) :=
    read_write .indented l.readsBack (by decide)
  have hwritten : (Persisted.ofValue (Persisted.toValue l) : Library) = l.written := by
    show Library.mk l.name (.nodes l.instruments.ofNodes) (.nodes l.effects.ofNodes)
      (.excerpts l.snippets.ofExcerpts) (.excerpts l.templates.ofExcerpts)
      (.excerpts l.demos.ofExcerpts) = l.written
    simp only [Registry.nodes_ofNodes, Registry.excerpts_ofExcerpts, written]
  rw [ofText, hread, hwritten]
  rfl

theorem ofText_exportText {l : Library} (h : l.Loose) : ofText l.exportText = .ok l.bare := by
  rw [ofText_eq_written, written, Registry.written_of_loose h.instruments,
    Registry.written_of_loose h.effects, bare]

/-- Builders leave no trace in the text. -/
theorem exportText_bare (l : Library) : l.bare.exportText = l.exportText := by
  have hvalue : Persisted.toValue l.bare = Persisted.toValue l := by
    simp only [Persisted.toValue, bare, Registry.ofNodes_bare]
  rw [exportText, exportText, Json.write, Json.write, hvalue]

end Library

/-! ### How libraries come about -/

theorem Registry.Loose.concat {r : Registry Node} (h : r.Loose) {node : Node}
    (hnode : node.session = none) : Registry.Loose ⟨r.entries ++ [node]⟩ :=
  List.forall_mem_append.2 ⟨h, List.forall_mem_singleton.2 hnode⟩

namespace Library

theorem Loose.grow {l l' : Library} (h : l.Loose) (hgrown : l.Grown l') : l'.Loose := by
  have hnodes (role : Role) (hrole : (l.nodes role).Loose) : (l'.nodes role).Loose := by
    rcases hgrown.nodes_eq role with hr | ⟨node, -, -, hloose, hr⟩
    · rw [hr]
      exact hrole
    · rw [hr]
      exact hrole.concat hloose
  exact ⟨hnodes .instrument h.instruments, hnodes .effect h.effects⟩

theorem loose_empty {name : String} {l : Library} (h : Library.empty name = .ok l) :
    l.Loose := by
  rw [eq_of_empty h]
  exact ⟨List.forall_mem_nil _, List.forall_mem_nil _⟩

/-- The library of an accepted text is the one that the text describes. -/
theorem read_of_ofText {text : String} {l : Library} (h : ofText text = .ok l) :
    ∃ v, (Persisted.schema Library).read text = .ok v ∧ l = Persisted.ofValue v := by
  rwa [ofText, mapError_eq_ok_iff, read_eq_ok_iff] at h

theorem Obtained.loose {l : Library} (h : Obtained l) : l.Loose := by
  cases h with
  | @composed name steps _ h => exact (compose_of_grown Loose.grow (fun _ => loose_empty) steps).2 l h
  | imported h =>
    obtain ⟨v, -, rfl⟩ := read_of_ofText h
    exact ⟨Registry.nodes_loose _, Registry.nodes_loose _⟩

/-! ### Export and import -/

/-- Import takes back the export of a library, all but its builders. So what was
imported is exported as the same text, and libraries of one text differ in nothing but
builders. -/
theorem recovered_from_export {l : Library} (h : Obtained l) :
    ofText l.exportText = .ok l.bare ∧ l.bare.exportText = l.exportText ∧
      ∀ l', Obtained l' → l'.exportText = l.exportText → l'.bare = l.bare := by
  refine ⟨ofText_exportText h.loose, exportText_bare l, fun l' h' htext => ?_⟩
  have hread : ofText l'.exportText = .ok l.bare := by
    rw [htext, ofText_exportText h.loose]
  rw [ofText_exportText h'.loose] at hread
  exact Except.ok.inj hread

/-- A library whose texts want escaping: quotes, a backslash, a line break, a control
character, and characters beyond ASCII. -/
def quotedScript : List (Composing.Step LibraryVerb) :=
  [.verb (.node .instrument "the \"piano\"" ⟨0, none, .ok ⟨"sampler", []⟩⟩) false,
    .verb (.excerpt .template "größe\\𝄞"
      [.verb (.description "\x01") false, .verb (.source "\x7b\n\x7d") false]) false]

def quotedLibrary : Library where
  name := "\"core\"\t"
  instruments := ⟨[⟨"the \"piano\"", some ⟨0, none, .ok ⟨"sampler", []⟩⟩, none⟩]⟩
  templates := ⟨[⟨"größe\\𝄞", "\x01", "\x7b\n\x7d"⟩]⟩

theorem recovered_quoted_library :
    (Library.compose "\"core\"\t" quotedScript).result = .ok quotedLibrary ∧
      ofText quotedLibrary.exportText = .ok quotedLibrary.bare :=
  have composed : (Library.compose "\"core\"\t" quotedScript).result = .ok quotedLibrary := rfl
  ⟨composed, (recovered_from_export (.composed composed)).1⟩

end Library

end Studio
