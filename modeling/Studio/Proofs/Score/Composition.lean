import Mathlib.Data.List.Forall2
import Mathlib.Data.List.Induction
import Mathlib.Data.List.Nodup
import Studio.Proofs.Composing.Script
import Studio.Score

/-! What a score composes to. The entries of a role are used one after another, each
under a name that the earlier ones have left free. The first that cannot be used ends
the composition with its own fault, and the faults of one entry are looked for in an
order of their own: its library, its node, its name, and the names before it. -/

namespace Studio.Score

open Composing

section Entries

variable (libraries : List Library) (default : String) (role : Role)

/-- The library that the entry draws from: the first one of the name that it gives, or
else of the default name. -/
def origin (e : ScoreEntry) : Option Library :=
  libraries.find? (·.name = e.library.getD default)

/-- The library node that the entry stands for. -/
def original (e : ScoreEntry) : Option Node :=
  (origin libraries default e).bind fun l => (l.nodes role).get? e.key

/-- How the entry fails after entries with the names `used`. -/
inductive EntryFault (used : List String) (e : ScoreEntry) : Fault → Prop
  | noLibrary (missing : origin libraries default e = none) :
      EntryFault used e (.notLoaded e.name (e.library.getD default))
  | noNode {l : Library} (found : origin libraries default e = some l)
      (missing : (l.nodes role).get? e.key = none) :
      EntryFault used e (.notInLibrary l.name role.kind e.key)
  | blank {node : Node} (found : original libraries default role e = some node)
      (blank : Text.isBlank e.name = true) :
      EntryFault used e (.blankName role.kind)
  | repeated {node : Node} (found : original libraries default role e = some node)
      (named : Text.isBlank e.name = false) (earlier : e.name ∈ used) :
      EntryFault used e (.duplicate role.kind e.name)

/-- Every entry stands for a library node and has a name of its own. -/
structure Usable (entries : List ScoreEntry) : Prop where
  found : ∀ e ∈ entries, ∃ node, original libraries default role e = some node
  named : ∀ e ∈ entries, Text.isBlank e.name = false
  distinct : (entries.map (·.name)).Nodup

/-- The fault of the first entry that cannot be used. -/
def FirstFault (entries : List ScoreEntry) (f : Fault) : Prop :=
  ∃ before e after, entries = before ++ e :: after ∧ Usable libraries default role before ∧
    EntryFault libraries default role (before.map (·.name)) e f

/-- The node in the session: the library's under the entry's name. -/
def Stands (session : String) (e : ScoreEntry) (node : Node) : Prop :=
  ∃ source, original libraries default role e = some source ∧
    node = { name := e.name, builder := source.builder, session := some session }

variable {libraries default role}

theorem usable_nil : Usable libraries default role [] := ⟨nofun, nofun, .nil⟩

theorem usable_concat {entries : List ScoreEntry} {e : ScoreEntry} :
    Usable libraries default role (entries ++ [e]) ↔
      Usable libraries default role entries ∧
        (∃ node, original libraries default role e = some node) ∧
        Text.isBlank e.name = false ∧ e.name ∉ entries.map (·.name) := by
  have hd : ((entries ++ [e]).map (·.name)).Nodup ↔
      e.name ∉ entries.map (·.name) ∧ (entries.map (·.name)).Nodup := by
    rw [List.map_append, List.map_singleton, ← List.concat_eq_append, List.nodup_concat]
  constructor
  · intro h
    have he : e ∈ entries ++ [e] := List.mem_append_right _ (List.mem_singleton_self e)
    obtain ⟨hnew, hdistinct⟩ := hd.1 h.distinct
    exact ⟨⟨fun x hx => h.found x (List.mem_append_left _ hx),
      fun x hx => h.named x (List.mem_append_left _ hx), hdistinct⟩,
      h.found e he, h.named e he, hnew⟩
  · rintro ⟨h, hfound, hnamed, hnew⟩
    refine ⟨?_, ?_, hd.2 ⟨hnew, h.distinct⟩⟩
    · intro x hx
      rcases List.mem_append.1 hx with hx | hx
      · exact h.found x hx
      · rw [List.mem_singleton.1 hx]
        exact hfound
    · intro x hx
      rcases List.mem_append.1 hx with hx | hx
      · exact h.named x hx
      · rw [List.mem_singleton.1 hx]
        exact hnamed

/-- An entry can be used after others, or else it is at fault. -/
theorem usable_or_fault (used : List String) (e : ScoreEntry) :
    ((∃ node, original libraries default role e = some node) ∧
        Text.isBlank e.name = false ∧ e.name ∉ used) ∨
      ∃ f, EntryFault libraries default role used e f := by
  cases ho : origin libraries default e with
  | none => exact .inr ⟨_, .noLibrary ho⟩
  | some l =>
    have hnode : original libraries default role e = (l.nodes role).get? e.key := by
      rw [original, ho, Option.bind_some]
    cases hn : (l.nodes role).get? e.key with
    | none => exact .inr ⟨_, .noNode ho hn⟩
    | some node =>
      have hfound := hnode.trans hn
      cases hb : Text.isBlank e.name with
      | true => exact .inr ⟨_, .blank hfound hb⟩
      | false =>
        by_cases hu : e.name ∈ used
        · exact .inr ⟨_, .repeated hfound hb hu⟩
        · exact .inl ⟨⟨node, hfound⟩, rfl, hu⟩

theorem FirstFault.append {entries : List ScoreEntry} {f : Fault}
    (h : FirstFault libraries default role entries f) (more : List ScoreEntry) :
    FirstFault libraries default role (entries ++ more) f := by
  obtain ⟨before, e, after, rfl, husable, hfault⟩ := h
  refine ⟨before, e, after ++ more, ?_, husable, hfault⟩
  rw [List.append_assoc, List.cons_append]

variable (libraries default role) in
/-- The entries can all be used, or there is a first fault. -/
theorem usable_or_firstFault (entries : List ScoreEntry) :
    Usable libraries default role entries ∨
      ∃ f, FirstFault libraries default role entries f := by
  induction entries using List.reverseRecOn with
  | nil => exact .inl usable_nil
  | append_singleton entries e ih =>
    rcases ih with husable | ⟨f, hfault⟩
    · rcases usable_or_fault (entries.map (·.name)) e with he | ⟨f, hf⟩
      · exact .inl (usable_concat.2 ⟨husable, he⟩)
      · exact .inr ⟨f, entries, e, [], rfl, husable, hf⟩
    · exact .inr ⟨f, hfault.append [e]⟩

theorem names_of_stands {session : String} {entries : List ScoreEntry} {nodes : List Node}
    (h : List.Forall₂ (Stands libraries default role session) entries nodes) :
    nodes.map (·.name) = entries.map (·.name) := by
  induction h with
  | nil => rfl
  | cons hs _ ih =>
    obtain ⟨source, -, rfl⟩ := hs
    rw [List.map_cons, List.map_cons, ih]

/-! ### Using the entries -/

theorem useStep_of_noLibrary {e : ScoreEntry} (missing : origin libraries default e = none) :
    useStep libraries default role e =
      .fail (.notLoaded e.name (e.library.getD default)) false := by
  unfold origin at missing
  simp only [useStep, findLibrary, missing]

theorem useStep_of_origin {e : ScoreEntry} {l : Library}
    (found : origin libraries default e = some l) :
    useStep libraries default role e = .verb (.use role l e.key e.name) false := by
  unfold origin at found
  simp only [useStep, findLibrary, found]

/-- A library node is added under the entry's name, if that is one and free. -/
theorem useStep_result {e : ScoreEntry} {source : Node} (s : Session)
    (found : original libraries default role e = some source) :
    (useStep libraries default role e).result SessionVerb.perform s =
      if Text.isBlank e.name then .error (.blankName role.kind)
      else if (s.nodes role).contains e.name then .error (.duplicate role.kind e.name)
      else .ok (s.setNodes role ⟨(s.nodes role).entries ++
        [{ name := e.name, builder := source.builder, session := some s.name }]⟩) := by
  obtain ⟨l, hl, hn⟩ := Option.bind_eq_some_iff.1 found
  rw [useStep_of_origin hl, Step.result_verb, SessionVerb.perform, Session.useNode, hn]
  dsimp only
  rw [Attempt.result_bind, Attempt.result_ofExcept, Node.rename_eq]
  split
  · rfl
  · exact Session.addNode_result role { name := e.name, builder := source.builder } s

theorem useStep_ok {e : ScoreEntry} {source : Node} {s : Session}
    (found : original libraries default role e = some source)
    (named : Text.isBlank e.name = false) (fresh : e.name ∉ (s.nodes role).names) :
    (useStep libraries default role e).result SessionVerb.perform s =
      .ok (s.setNodes role ⟨(s.nodes role).entries ++
        [{ name := e.name, builder := source.builder, session := some s.name }]⟩) := by
  rw [← Registry.contains_iff] at fresh
  rw [useStep_result s found, named, if_neg Bool.false_ne_true, if_neg fresh]

theorem useStep_error {e : ScoreEntry} {f : Fault} {s : Session}
    (h : EntryFault libraries default role (s.nodes role).names e f) :
    (useStep libraries default role e).result SessionVerb.perform s = .error f := by
  cases h with
  | noLibrary missing =>
    rw [useStep_of_noLibrary missing, Step.result_fail]
  | noNode found missing =>
    rw [useStep_of_origin found, Step.result_verb, SessionVerb.perform, Session.useNode, missing]
    rfl
  | blank found blank => rw [useStep_result s found, if_pos blank]
  | repeated found named earlier =>
    rw [← Registry.contains_iff] at earlier
    rw [useStep_result s found, named, if_neg Bool.false_ne_true, if_pos earlier]

/-- Usable entries fill the role that was empty. -/
theorem run_uses_ok {entries : List ScoreEntry} (h : Usable libraries default role entries)
    {s : Session} (empty : s.nodes role = {}) :
    ∃ nodes, List.Forall₂ (Stands libraries default role s.name) entries nodes ∧
      (run SessionVerb.perform (entries.map (useStep libraries default role)) s).result =
        .ok (s.setNodes role ⟨nodes⟩) := by
  -- The last entry meets the names of all others, so entries are taken off at that end.
  induction entries using List.reverseRecOn with
  | nil =>
    refine ⟨[], .nil, ?_⟩
    have hs : s.setNodes role {} = s := by rw [← empty, Session.setNodes_nodes]
    exact congrArg Except.ok hs.symm
  | append_singleton entries e ih =>
    obtain ⟨husable, ⟨source, hfound⟩, hnamed, hnew⟩ := usable_concat.1 h
    obtain ⟨nodes, hstand, hrun⟩ := ih husable
    have hfresh : e.name ∉ ((s.setNodes role ⟨nodes⟩).nodes role).names := by
      rw [Session.nodes_setNodes]
      change e.name ∉ nodes.map (·.name)
      rw [names_of_stands hstand]
      exact hnew
    refine ⟨nodes ++ [{ name := e.name, builder := source.builder, session := some s.name }],
      List.rel_append hstand (.cons ⟨source, hfound, rfl⟩ .nil), ?_⟩
    rw [List.map_append, run_append_result, hrun, Attempt.ok_bind, List.map_singleton,
      run_cons_result, useStep_ok hfound hnamed hfresh]
    simp only [Session.nodes_setNodes, Session.setNodes_setNodes, Session.setNodes_name]
    rfl

/-- The first fault ends the use of the entries. -/
theorem run_uses_error {entries : List ScoreEntry} {f : Fault}
    (h : FirstFault libraries default role entries f) {s : Session} (empty : s.nodes role = {}) :
    (run SessionVerb.perform (entries.map (useStep libraries default role)) s).result =
      .error f := by
  obtain ⟨before, e, after, rfl, husable, hfault⟩ := h
  obtain ⟨nodes, hstand, hrun⟩ := run_uses_ok husable empty
  have hnames : ((s.setNodes role ⟨nodes⟩).nodes role).names = before.map (·.name) := by
    rw [Session.nodes_setNodes]
    exact names_of_stands hstand
  rw [List.map_append, run_append_result, hrun, Attempt.ok_bind, List.map_cons, run_cons_result,
    useStep_error (hnames ▸ hfault), Attempt.error_bind]

end Entries

/-! ### Whole scores -/

variable (libraries : List Library) (default : String)

/-- What a score must be to be composed. -/
structure Composable (s : Score) : Prop where
  named : Text.isBlank s.session = false
  instruments : Usable libraries default .instrument s.instruments
  effects : Usable libraries default .effect s.effects
  tracks : s.tracks = []
  phrases : s.phrases = []

/-- What is wrong with a score that cannot be composed. -/
inductive FirstOffence (s : Score) : Fault → Prop
  | session (blank : Text.isBlank s.session = true) : FirstOffence s (.blankName "session")
  | instrument {f : Fault} (named : Text.isBlank s.session = false)
      (fault : FirstFault libraries default .instrument s.instruments f) : FirstOffence s f
  | effect {f : Fault} (named : Text.isBlank s.session = false)
      (instruments : Usable libraries default .instrument s.instruments)
      (fault : FirstFault libraries default .effect s.effects f) : FirstOffence s f
  | track (named : Text.isBlank s.session = false)
      (instruments : Usable libraries default .instrument s.instruments)
      (effects : Usable libraries default .effect s.effects)
      (written : s.tracks ≠ []) : FirstOffence s (.notImplemented "track")
  | phrase (named : Text.isBlank s.session = false)
      (instruments : Usable libraries default .instrument s.instruments)
      (effects : Usable libraries default .effect s.effects)
      (tracks : s.tracks = []) (written : s.phrases ≠ []) :
      FirstOffence s (.notImplemented "phrase")

/-- The session that a score describes. -/
structure Describes (s : Score) (session : Session) : Prop where
  name : session.name = s.session
  instruments : List.Forall₂ (Stands libraries default .instrument s.session) s.instruments
    session.instruments.entries
  effects : List.Forall₂ (Stands libraries default .effect s.session) s.effects
    session.effects.entries
  tracks : session.tracks.entries = []
  patches : session.patches = s.patches

variable {libraries default}

theorem run_patches_result (ps : List Patch) (s : Session) :
    (run SessionVerb.perform (ps.map fun p => .verb (.patch p) false) s).result =
      .ok { s with patches := s.patches ++ ps } := by
  induction ps generalizing s with
  | nil =>
    rw [List.append_nil]
    rfl
  | cons p ps ih =>
    rw [List.map_cons, run_cons_result, Step.result_verb]
    have hp : (SessionVerb.perform (.patch p) s).result =
        .ok { s with patches := s.patches ++ [p] } := rfl
    rw [hp, Attempt.ok_bind, ih, List.append_assoc, List.singleton_append]

/-- Tracks fail before phrases do, and without either the session stays as it is. -/
theorem run_unsupported_result (tracks phrases : List Json.Value) (session : Session) :
    (run SessionVerb.perform
        ((tracks.take 1).map (fun v => .verb (.node .track (nameOf v) trackBuilder) false) ++
          (phrases.take 1).map (fun v => .verb (.phrase (nameOf v)) false)) session).result =
      if tracks ≠ [] then .error (.notImplemented "track")
      else if phrases ≠ [] then .error (.notImplemented "phrase")
      else .ok session := by
  cases tracks with
  | cons track tracks => rfl
  | nil =>
    cases phrases with
    | cons phrase phrases => rfl
    | nil => rfl

/-- Composing names the session, uses the instruments, uses the effects, and then adds
the patches unless there are tracks or phrases. -/
theorem compose_result (s : Score) :
    (s.compose libraries default).result =
      if Text.isBlank s.session then .error (.blankName "session")
      else
        (run SessionVerb.perform (s.instruments.map (useStep libraries default .instrument))
          { name := s.session }).result >>= fun session =>
        (run SessionVerb.perform (s.effects.map (useStep libraries default .effect))
          session).result >>= fun session =>
        if s.tracks ≠ [] then .error (.notImplemented "track")
        else if s.phrases ≠ [] then .error (.notImplemented "phrase")
        else .ok { session with patches := session.patches ++ s.patches } := by
  have hcompose : (s.compose libraries default).result =
      Session.empty s.session >>= fun m =>
        (run SessionVerb.perform (s.steps libraries default) m).result >>= .ok :=
    Composing.compose_result _ "session" s.session _ _ _
  rw [hcompose, Session.empty, checkName]
  split
  · rfl
  · change (run SessionVerb.perform (s.steps libraries default) _).result >>= pure = _
    rw [bind_pure, steps, List.append_assoc, List.append_assoc, List.append_assoc,
      run_append_result]
    congr 1
    funext session
    rw [run_append_result]
    congr 1
    funext session
    rw [run_append_result, run_patches_result]
    exact run_unsupported_result ..

/-- With usable entries only tracks and phrases can stand in the way. -/
theorem compose_of_usable {s : Score} (named : Text.isBlank s.session = false)
    (instruments : Usable libraries default .instrument s.instruments)
    (effects : Usable libraries default .effect s.effects) :
    ∃ session, Describes libraries default s session ∧
      (s.compose libraries default).result =
        if s.tracks ≠ [] then .error (.notImplemented "track")
        else if s.phrases ≠ [] then .error (.notImplemented "phrase")
        else .ok session := by
  obtain ⟨nodes, hinstruments, hi⟩ := run_uses_ok instruments (s := { name := s.session }) rfl
  obtain ⟨nodes', heffects, he⟩ :=
    run_uses_ok effects (s := { name := s.session, instruments := ⟨nodes⟩ }) rfl
  refine ⟨{ name := s.session, instruments := ⟨nodes⟩, effects := ⟨nodes'⟩, patches := s.patches },
    ⟨rfl, hinstruments, heffects, rfl, rfl⟩, ?_⟩
  rw [compose_result, named, if_neg Bool.false_ne_true, hi, Attempt.ok_bind, Session.setNodes, he]
  rfl

theorem compose_of_composable {s : Score} (h : Composable libraries default s) :
    ∃ session, (s.compose libraries default).result = .ok session ∧
      Describes libraries default s session := by
  obtain ⟨session, hd, hr⟩ := compose_of_usable h.named h.instruments h.effects
  refine ⟨session, ?_, hd⟩
  rw [hr, h.tracks, h.phrases]
  rfl

theorem compose_of_firstOffence {s : Score} {f : Fault} (h : FirstOffence libraries default s f) :
    (s.compose libraries default).result = .error f := by
  cases h with
  | session blank => rw [compose_result, if_pos blank]
  | instrument named fault =>
    rw [compose_result, named, if_neg Bool.false_ne_true, run_uses_error fault rfl,
      Attempt.error_bind]
  | effect named instruments fault =>
    obtain ⟨nodes, -, hi⟩ := run_uses_ok instruments (s := { name := s.session }) rfl
    rw [compose_result, named, if_neg Bool.false_ne_true, hi, Attempt.ok_bind,
      run_uses_error fault rfl, Attempt.error_bind]
  | track named instruments effects written =>
    obtain ⟨session, -, hr⟩ := compose_of_usable named instruments effects
    rw [hr, if_pos written]
  | phrase named instruments effects tracks written =>
    obtain ⟨session, -, hr⟩ := compose_of_usable named instruments effects
    rw [hr, if_neg (not_not_intro tracks), if_pos written]

variable (libraries default) in
theorem composable_or_firstOffence (s : Score) :
    Composable libraries default s ∨ ∃ f, FirstOffence libraries default s f := by
  cases named : Text.isBlank s.session with
  | true => exact .inr ⟨_, .session named⟩
  | false =>
    rcases usable_or_firstFault libraries default .instrument s.instruments with
      instruments | ⟨f, fault⟩
    · rcases usable_or_firstFault libraries default .effect s.effects with
        effects | ⟨f, fault⟩
      · by_cases tracks : s.tracks = []
        · by_cases phrases : s.phrases = []
          · exact .inl ⟨named, instruments, effects, tracks, phrases⟩
          · exact .inr ⟨_, .phrase named instruments effects tracks phrases⟩
        · exact .inr ⟨_, .track named instruments effects tracks⟩
      · exact .inr ⟨f, .effect named instruments fault⟩
    · exact .inr ⟨f, .instrument named fault⟩

theorem composable_of_ok {s : Score} {session : Session}
    (h : (s.compose libraries default).result = .ok session) :
    Composable libraries default s ∧ Describes libraries default s session := by
  rcases composable_or_firstOffence libraries default s with hc | ⟨f, hf⟩
  · obtain ⟨session', hok, hd⟩ := compose_of_composable hc
    rw [hok] at h
    cases h
    exact ⟨hc, hd⟩
  · rw [compose_of_firstOffence hf] at h
    cases h

theorem firstOffence_of_error {s : Score} {f : Fault}
    (h : (s.compose libraries default).result = .error f) :
    FirstOffence libraries default s f := by
  rcases composable_or_firstOffence libraries default s with hc | ⟨f', hf⟩
  · obtain ⟨session, hok, -⟩ := compose_of_composable hc
    rw [hok] at h
    cases h
  · rw [compose_of_firstOffence hf] at h
    cases h
    exact hf

/-- A score composes just when it is composable, to the session that it describes, and
otherwise it fails with its first offence. -/
theorem compose_ok_iff_and_error_iff (libraries : List Library) (default : String) (s : Score) :
    ((∃ session, (s.compose libraries default).result = .ok session) ↔
        Composable libraries default s) ∧
      (∀ session, (s.compose libraries default).result = .ok session →
        Describes libraries default s session) ∧
      ∀ f, (s.compose libraries default).result = .error f ↔
        FirstOffence libraries default s f := by
  refine ⟨⟨?_, ?_⟩, ?_, ?_⟩
  · rintro ⟨session, hok⟩
    exact (composable_of_ok hok).1
  · intro h
    obtain ⟨session, hok, -⟩ := compose_of_composable h
    exact ⟨session, hok⟩
  · intro session hok
    exact (composable_of_ok hok).2
  · intro f
    exact ⟨firstOffence_of_error, compose_of_firstOffence⟩

/-- Of everything that is wrong here, the library comes first. -/
example :
    let s : Score := { session := "s", instruments := [⟨"", "sine", none⟩], tracks := [.null] }
    (s.compose [] "core").result = .error (.notLoaded "" "core") := rfl

end Studio.Score
