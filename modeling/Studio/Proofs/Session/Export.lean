import Studio.Proofs.Composing.Session
import Studio.Proofs.Library.Export
import Studio.Score

/-! What a session keeps of itself in its exported text. The text has neither builders
nor the owner of a node; import makes the session the owner of all its nodes again. Since
a session owns its nodes however it came about, it loses nothing but the builders. -/

namespace Studio

open Json

/-! ### Owners -/

/-- The nodes belong to the session of that name. -/
def Registry.OwnedBy (session : String) (r : Registry Node) : Prop :=
  ∀ node ∈ r.entries, node.session = some session

/-- The nodes, made to belong to the session of that name. -/
def Registry.under (session : String) (r : Registry Node) : Registry Node :=
  ⟨r.entries.map fun node => { node with session := some session }⟩

/-- Owned nodes are written without their owner, who takes them back as they were. -/
theorem Registry.under_nodes_ofNodes {r : Registry Node} {session : String}
    (h : r.OwnedBy session) : (Registry.nodes r.ofNodes).under session = r.bare := by
  have hnode : ∀ node ∈ r.entries,
      { Node.ofValue node.toValue with session := some session } = node.bare := by
    intro node hm
    have hsession := h node hm
    obtain ⟨name, builder, owner⟩ := node
    subst hsession
    rfl
  simp only [Registry.nodes, ofNodes, Value.items, under, bare, List.map_map]
  exact congrArg Registry.mk (List.map_congr_left hnode)

/-! ### Patches -/

theorem Patch.readsBack (p : Patch) :
    ReadsBack 1 (Persisted.schema Patch).reader (Persisted.toValue p) :=
  .record "Patch" (by decide)
    (.member (.text p.source.kind) rfl (.member (.text p.source.name) rfl
      (.member (.text p.target.kind) rfl (.member (.text p.target.name) rfl .nil))))

theorem Patch.readsBack_list (patches : List Patch) :
    ReadsBack 2 (Schema.list (Persisted.schema Patch)).reader
      (.arr (patches.map Persisted.toValue)) :=
  .list_map fun p _ => p.readsBack

namespace Session

/-! ### How sessions come about -/

/-- The ways in which sessions come about. -/
inductive Obtained : Session → Prop
  | composed {name : String} {steps : List (Composing.Step SessionVerb)} {s : Session}
      (h : (Session.compose name steps).result = .ok s) : Obtained s
  | scored {libraries : List Library} {default : String} {score : Score} {s : Session}
      (h : (score.compose libraries default).result = .ok s) : Obtained s
  | imported {text : String} {s : Session} (h : ofText text = .ok s) : Obtained s

/-- Every node belongs to the session. -/
def Owned (s : Session) : Prop := ∀ role, (s.nodes role).OwnedBy s.name

theorem owned_empty {name : String} {s : Session} (h : Session.empty name = .ok s) :
    s.Owned := by
  rw [eq_of_empty h]
  intro role
  cases role <;> exact List.forall_mem_nil _

theorem Owned.grow {s s' : Session} (h : s.Owned) (hgrown : s.Grown s') : s'.Owned := by
  intro role
  rw [hgrown.name_eq]
  rcases hgrown.nodes_eq role with hr | ⟨node, -, -, howned, hr⟩
  · rw [hr]
    exact h role
  · rw [hr]
    exact List.forall_mem_append.2 ⟨h role, List.forall_mem_singleton.2 howned⟩

theorem nodes_adoptNodes (s : Session) (role : Role) :
    s.adoptNodes.nodes role = (s.nodes role).under s.name := by
  cases role <;> rfl

/-- The session of an accepted text has the nodes that the text lists, as their owner. -/
theorem read_of_ofText {text : String} {s : Session} (h : ofText text = .ok s) :
    ∃ v, (Persisted.schema Session).read text = .ok v ∧
      s = (Persisted.ofValue v : Session).adoptNodes := by
  rw [ofText, mapError_eq_ok_iff, map_eq_ok_iff] at h
  obtain ⟨read, hread, rfl⟩ := h
  obtain ⟨v, hv, rfl⟩ := read_eq_ok_iff.1 hread
  exact ⟨v, hv, rfl⟩

/-- The session of an accepted text owns its nodes, and none has a builder. -/
theorem nodes_of_ofText {text : String} {s : Session} (h : ofText text = .ok s) (role : Role) :
    ∀ node ∈ (s.nodes role).entries, node.builder = none ∧ node.session = some s.name := by
  obtain ⟨v, -, rfl⟩ := read_of_ofText h
  intro node hnode
  rw [nodes_adoptNodes] at hnode
  obtain ⟨read, hread, rfl⟩ := List.mem_map.1 hnode
  have hbuilder : read.builder = none := by
    cases role <;> obtain ⟨_, -, rfl⟩ := List.mem_map.1 hread <;> rfl
  exact ⟨hbuilder, rfl⟩

theorem owned_of_compose {name : String} {steps : List (Composing.Step SessionVerb)} {s : Session}
    (h : (Session.compose name steps).result = .ok s) : s.Owned :=
  (compose_of_grown Owned.grow (fun _ => owned_empty) steps).2 s h

theorem Obtained.owned {s : Session} (h : Obtained s) : s.Owned := by
  cases h with
  | composed h => exact owned_of_compose h
  -- A score is composed as a session, by the steps that it stands for.
  | scored h => exact owned_of_compose h
  | imported h => exact fun role node hnode => (nodes_of_ofText h role node hnode).2

/-! ### Export and import -/

/-- The session without the builders of its nodes. -/
def bare (s : Session) : Session :=
  { s with instruments := s.instruments.bare, effects := s.effects.bare, tracks := s.tracks.bare }

theorem readsBack (s : Session) :
    ReadsBack 3 (Persisted.schema Session).reader (Persisted.toValue s) :=
  .record "SessionModel" (by decide)
    (.member ((ReadsBack.text s.name).mono (Nat.zero_le 2)) rfl
      (.member (s.instruments.readsBack_nodes .instrument) rfl
        (.member (s.effects.readsBack_nodes .effect) rfl
          (.member (s.tracks.readsBack_nodes .track) rfl
            (.member (Patch.readsBack_list s.patches) rfl .nil)))))

theorem ofText_exportText {s : Session} (h : s.Owned) : ofText s.exportText = .ok s.bare := by
  have hread : (Json.read s.exportText : Except ReadError Session) =
      .ok (Persisted.ofValue (Persisted.toValue s)) :=
    read_write .indented s.readsBack (by decide)
  have hbare : (Persisted.ofValue (Persisted.toValue s) : Session).adoptNodes = s.bare := by
    show Session.mk s.name ((Registry.nodes s.instruments.ofNodes).under s.name)
      ((Registry.nodes s.effects.ofNodes).under s.name)
      ((Registry.nodes s.tracks.ofNodes).under s.name)
      ((s.patches.map Persisted.toValue).map Persisted.ofValue) = s.bare
    have hinstruments : s.instruments.OwnedBy s.name := h .instrument
    have heffects : s.effects.OwnedBy s.name := h .effect
    have htracks : s.tracks.OwnedBy s.name := h .track
    rw [Registry.under_nodes_ofNodes hinstruments, Registry.under_nodes_ofNodes heffects,
      Registry.under_nodes_ofNodes htracks, map_ofValue_toValue fun _ : Patch => rfl]
    rfl
  rw [ofText, hread]
  exact congrArg Except.ok hbare

/-- Builders leave no trace in the text. -/
theorem exportText_bare (s : Session) : s.bare.exportText = s.exportText := by
  have hvalue : Persisted.toValue s.bare = Persisted.toValue s := by
    simp only [Persisted.toValue, bare, Registry.ofNodes_bare]
  rw [exportText, exportText, Json.write, Json.write, hvalue]

/-- Import makes a session the owner of nodes without builders. It takes back the export
of a session, all but its builders, so that each node has the connections that it had, and
what was imported is exported as the same text. -/
theorem restored_from_export :
    (∀ text s, ofText text = .ok s → ∀ role, ∀ node ∈ (s.nodes role).entries,
        node.builder = none ∧ node.session = some s.name) ∧
      ∀ s, Obtained s →
        ofText s.exportText = .ok s.bare ∧ s.bare.exportText = s.exportText ∧
          ∀ e, s.bare.connectionsOf e = s.connectionsOf e := by
  refine ⟨fun text s h role => nodes_of_ofText h role, fun s h => ?_⟩
  exact ⟨ofText_exportText h.owned, exportText_bare s, fun e => rfl⟩

/-- A session whose texts want escaping, with a patch between its nodes. -/
def quotedScript : List (Composing.Step SessionVerb) :=
  [.verb (.node .instrument "the \"piano\"" ⟨0, none, .ok ⟨"sampler", []⟩⟩) false,
    .verb (.node .effect "größe\\𝄞" ⟨1, none, .error .noDevice⟩) false,
    .verb (.patch ⟨⟨"instrument", "the \"piano\""⟩, ⟨"effect", "größe\\𝄞"⟩⟩) false]

def quotedSession : Session where
  name := "\x01\t"
  instruments := ⟨[⟨"the \"piano\"", some ⟨0, none, .ok ⟨"sampler", []⟩⟩, some "\x01\t"⟩]⟩
  effects := ⟨[⟨"größe\\𝄞", some ⟨1, none, .error .noDevice⟩, some "\x01\t"⟩]⟩
  patches := [⟨⟨"instrument", "the \"piano\""⟩, ⟨"effect", "größe\\𝄞"⟩⟩]

/-- The text of a session with a track, which no verb makes. -/
def trackText : String := "\x7b\"name\": \"song\", \"tracks\": [\x7b\"name\": \"main\"\x7d]\x7d"

theorem accepted_trackText : ∃ s, ofText trackText = .ok s ∧ s.tracks.names = ["main"] := by
  have named : (ofText trackText).toOption.map (·.tracks.names) = some ["main"] := by
    decide +kernel
  exact eq_ok_of_map_toOption named

theorem restored_quoted_session :
    ((Session.compose "\x01\t" quotedScript).result = .ok quotedSession ∧
        ofText quotedSession.exportText = .ok quotedSession.bare) ∧
      ∃ s, ofText trackText = .ok s ∧ s.tracks.names = ["main"] ∧
        ∀ node ∈ s.tracks.entries, node.builder = none ∧ node.session = some s.name := by
  have composed : (Session.compose "\x01\t" quotedScript).result = .ok quotedSession := rfl
  obtain ⟨s, accepted, named⟩ := accepted_trackText
  exact ⟨⟨composed, (restored_from_export.2 _ (.composed composed)).1⟩,
    s, accepted, named, restored_from_export.1 _ s accepted .track⟩

end Session

end Studio
