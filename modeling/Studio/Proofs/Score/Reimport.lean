import Studio.Proofs.Conductor.Afresh
import Studio.Proofs.Score.Composition
import Studio.Proofs.Session.Building
import Studio.Proofs.Session.Export

/-! Scores over libraries that were exported and imported again. Such libraries have the
names of their nodes and no builders. Composing copies a builder and never looks at it, so
all that a score comes to is the same but for builders; rendering runs them, and fails at
the first node. -/

namespace Studio

open Composing

/-! ### What leaving out builders commutes with -/

theorem Registry.get?_written (r : Registry Node) (key : String) :
    r.written.get? key = (r.get? key).map Node.written := by
  rw [get?, written, List.find?_map]
  rfl

theorem Registry.names_bare (r : Registry Node) : r.bare.names = r.names := by
  rw [names, names, bare, List.map_map]
  rfl

theorem Library.nodes_written (l : Library) (role : Role) :
    l.written.nodes role = (l.nodes role).written := by
  cases role <;> rfl

namespace Session

theorem nodes_bare (s : Session) (role : Role) : s.bare.nodes role = (s.nodes role).bare := by
  cases role <;> rfl

theorem bare_setNodes (s : Session) (role : Role) (r : Registry Node) :
    (s.setNodes role r).bare = s.bare.setNodes role r.bare := by
  cases role <;> rfl

end Session

namespace Score

variable {libraries : List Library} {default : String}

/-! ### Composing -/

theorem origin_written (e : ScoreEntry) :
    origin (libraries.map Library.written) default e =
      (origin libraries default e).map Library.written := by
  rw [origin, origin, List.find?_map]
  rfl

theorem original_written (role : Role) (e : ScoreEntry) :
    original (libraries.map Library.written) default role e =
      (original libraries default role e).map Node.written := by
  rw [original, original, origin_written]
  cases origin libraries default e with
  | none => rfl
  | some l =>
    rw [Option.map_some, Option.bind_some, Option.bind_some, Library.nodes_written,
      Registry.get?_written]

/-- What is wrong with an entry is wrong with it over the imported libraries. -/
theorem EntryFault.written {role : Role} {used : List String} {e : ScoreEntry} {f : Fault}
    (h : EntryFault libraries default role used e f) :
    EntryFault (libraries.map Library.written) default role used e f := by
  have found {node : Node} (h : original libraries default role e = some node) :
      original (libraries.map Library.written) default role e = some node.written := by
    rw [original_written, h, Option.map_some]
  cases h with
  | noLibrary missing => exact .noLibrary (by rw [origin_written, missing, Option.map_none])
  | @noNode l hl missing =>
    refine EntryFault.noNode (l := l.written) ?_ ?_
    · rw [origin_written, hl, Option.map_some]
    · rw [Library.nodes_written, Registry.get?_written, missing, Option.map_none]
  | blank hnode blank => exact .blank (found hnode) blank
  | repeated hnode named earlier => exact .repeated (found hnode) named earlier

/-- An entry over the imported libraries does to a session without builders what it does
over the libraries to the session. -/
theorem useStep_written (role : Role) (e : ScoreEntry) (s : Session) :
    (useStep (libraries.map Library.written) default role e).result SessionVerb.perform s.bare =
      ((useStep libraries default role e).result SessionVerb.perform s).map Session.bare := by
  have names : (s.bare.nodes role).names = (s.nodes role).names := by
    rw [Session.nodes_bare, Registry.names_bare]
  rcases @usable_or_fault libraries default role (s.nodes role).names e with
    ⟨⟨source, found⟩, named, fresh⟩ | ⟨f, fault⟩
  · have found' : original (libraries.map Library.written) default role e =
        some source.written := by
      rw [original_written, found, Option.map_some]
    rw [useStep_ok found named fresh, useStep_ok found' named (names ▸ fresh), Except.map,
      Session.bare_setNodes, Session.nodes_bare, Registry.bare, Registry.bare, List.map_append]
    rfl
  · rw [useStep_error fault, useStep_error (names ▸ fault.written)]
    rfl

/-- A score composes over the imported libraries to the session without builders, and fails
as it does over the libraries. -/
theorem compose_written (s : Score) :
    (s.compose (libraries.map Library.written) default).result =
      (s.compose libraries default).result.map Session.bare := by
  rw [compose_result, compose_result]
  cases Text.isBlank s.session with
  | true => rfl
  | false =>
    have entries (role : Role) (es : List ScoreEntry) (session : Session) :=
      run_map (@useStep_written libraries default role) es session
    rw [if_neg Bool.false_ne_true, if_neg Bool.false_ne_true]
    change (run SessionVerb.perform _ (Session.bare { name := s.session })).result >>= _ = _
    rw [entries]
    refine Attempt.map_bind fun session => ?_
    rw [entries]
    refine Attempt.map_bind fun session => ?_
    -- Tracks and phrases are refused whatever the session is by then.
    split
    · rfl
    · split <;> rfl

end Score

/-! ### Rendering -/

namespace Session

theorem buildNodes_of_builderless (s : Session) (role : Role) {nodes : List Node}
    (h : ∀ node ∈ nodes, node.builder = none) :
    (s.buildNodes role nodes).result =
      if nodes = [] then .ok [] else .error (.missing role.kind "fn") := by
  cases nodes with
  | nil => rfl
  | cons node nodes =>
    have hnode := h node (List.mem_cons_self ..)
    rw [buildNodes, Node.instantiate, hnode, if_neg (List.cons_ne_nil _ _)]
    rfl

/-- Without builders the first node of all ends the work, in the order of the roles. -/
theorem graph_of_builderless {s : Session} (h : ∀ node ∈ s.allNodes, node.builder = none)
    (tracks : s.tracks.entries = []) :
    s.graph.result =
      if s.allNodes = [] then .ok []
      else
        .error (.missing (if s.instruments.entries ≠ [] then "instrument" else "effect") "fn") := by
  rw [allNodes, tracks, List.append_nil] at h ⊢
  obtain ⟨instruments, effects⟩ := List.forall_mem_append.1 h
  simp only [graph, Attempt.result_bind, buildNodes_of_builderless s _ instruments,
    buildNodes_of_builderless s _ effects, tracks]
  by_cases hi : s.instruments.entries = []
  · by_cases he : s.effects.entries = []
    · rw [hi, he]
      rfl
    · rw [hi, if_pos rfl, if_neg he, if_neg (not_not_intro rfl), if_neg (by simpa using he)]
      rfl
  · rw [if_neg hi, if_pos hi, if_neg (List.append_ne_nil_of_left_ne_nil hi _)]
    rfl

end Session

namespace Score

variable {libraries : List Library} {default : String}

/-- A session that a score composes has its tracks empty, whatever the libraries. -/
theorem tracks_of_compose {s : Score} {session : Session}
    (h : (s.compose libraries default).result = .ok session) : session.tracks.entries = [] :=
  (composable_of_ok h).2.tracks

/-- Over imported libraries no node has a builder. -/
theorem builderless_of_compose_written {s : Score} {session : Session}
    (h : (s.compose (libraries.map Library.written) default).result = .ok session) :
    ∀ node ∈ session.allNodes, node.builder = none := by
  rw [compose_written] at h
  cases hc : (s.compose libraries default).result with
  | error f =>
    rw [hc] at h
    cases h
  | ok whole =>
    rw [hc] at h
    cases h
    have bare (r : Registry Node) : ∀ node ∈ r.bare.entries, node.builder = none := by
      intro node hnode
      obtain ⟨_, -, rfl⟩ := List.mem_map.1 hnode
      rfl
    exact List.forall_mem_append.2
      ⟨List.forall_mem_append.2 ⟨bare whole.instruments, bare whole.effects⟩, bare whole.tracks⟩

theorem build_of_compose {s : Score} {session : Session}
    (h : (s.compose libraries default).result = .ok session) :
    (s.build libraries default).result = session.graph.result.map (⟨session, ·⟩) := by
  rw [build, Attempt.result_bind, h, Attempt.ok_bind, Attempt.result_bind]
  cases session.graph.result <;> rfl

/-- Libraries that are exported and imported again compose every score as they did, but for
the builders, and fail where they failed. Over them a score with nodes is not rendered: its
first instrument, or else its first effect, lacks its builder, and the device is not
touched. -/
theorem reimported_composes_and_fails_to_render (libraries : List Library) :
    ∃ imported, libraries.map (fun l => Library.ofText l.exportText) = imported.map .ok ∧
      ∀ (default : String) (score : Score),
        (score.compose imported default).result =
            (score.compose libraries default).result.map Session.bare ∧
          ∀ session, (score.compose imported default).result = .ok session →
            ∀ d : SilentDevice, d.hasBuffer = true →
              (session.allNodes = [] →
                (score.render imported default d).1.result = .ok ⟨session, []⟩ ∧
                  (score.render imported default d).2 = { d with graph := [] }) ∧
              (session.allNodes ≠ [] →
                (score.render imported default d).1.result =
                    .error (.missing
                      (if session.instruments.entries ≠ [] then "instrument" else "effect") "fn") ∧
                  (score.render imported default d).2 = d) := by
  refine ⟨libraries.map Library.written, ?_, fun default score =>
    ⟨compose_written score, fun session hsession d hd => ?_⟩⟩
  · rw [List.map_map]
    exact List.map_congr_left fun l _ => l.ofText_eq_written
  · have hbuild := build_of_compose hsession
    rw [Session.graph_of_builderless (builderless_of_compose_written hsession)
      (tracks_of_compose hsession)] at hbuild
    refine ⟨fun hnone => ?_, fun hsome => ?_⟩
    · rw [if_pos hnone] at hbuild
      rw [render_ok hd hbuild]
      exact ⟨hbuild, rfl⟩
    · rw [if_neg hsome] at hbuild
      rw [render_error d hbuild]
      exact ⟨hbuild, rfl⟩

/-- Two libraries of one name, of which only the first is looked in. -/
def roomLibraries : List Library :=
  [{ name := "rooms", effects := ⟨[⟨"hall", some ⟨0, none, .ok ⟨"reverb", []⟩⟩, none⟩]⟩ },
    { name := "rooms", instruments := ⟨[⟨"organ", some ⟨1, none, .ok ⟨"pipes", []⟩⟩, none⟩]⟩ }]

def lentDevice : SilentDevice := { hasBuffer := true }

/-- A score with an effect of the first library. -/
def hallScore : Score where
  session := "church"
  effects := [⟨"nave", "hall", none⟩]

/-- A score without nodes. -/
def silentScore : Score where
  session := "church"

theorem reimported_rooms_fail_to_render :
    ∃ imported, roomLibraries.map (fun l => Library.ofText l.exportText) = imported.map .ok ∧
      (∃ session, (hallScore.compose imported "rooms").result = .ok session ∧
        (hallScore.render imported "rooms" lentDevice).1.result =
          .error (.missing "effect" "fn")) ∧
      ∃ session, (silentScore.compose imported "rooms").result = .ok session ∧
        (silentScore.render imported "rooms" lentDevice).1.result =
          .ok ⟨session, []⟩ := by
  obtain ⟨imported, himported, same⟩ := reimported_composes_and_fails_to_render roomLibraries
  obtain ⟨hall, renderHall⟩ := same "rooms" hallScore
  obtain ⟨silent, renderSilent⟩ := same "rooms" silentScore
  refine ⟨imported, himported, ⟨_, hall, ?_⟩, _, silent, ?_⟩
  · exact ((renderHall _ hall lentDevice rfl).2 nofun).1
  · exact ((renderSilent _ silent lentDevice rfl).1 rfl).1

end Score

end Studio
