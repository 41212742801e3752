import Studio.Proofs.Registry.Naming

/-! The order of calls that have nothing to do with each other. A call that adds a node
looks at the nodes of its own role and at the session's name, and changes no more than
those nodes; a patch looks at nothing. So of a script whose failures are all tolerated, the
nodes of a role and the replies to its calls are those of these calls alone, and the
patches are those that were passed. -/

namespace Studio

open Composing

/-- The role in which a call would add a node. -/
def SessionVerb.role? : SessionVerb → Option Role
  | .node role .. => some role
  | .use role .. => some role
  | _ => none

def SessionVerb.patch? : SessionVerb → Option Patch
  | .patch p => some p
  | _ => none

/-- The step is a call that would add a node in the role. -/
def Composing.Step.addsTo (role : Role) (step : Step SessionVerb) : Bool :=
  step.verb?.bind SessionVerb.role? = some role

namespace Session

/-- The calls of a script that would add a node in the role. -/
def calls (role : Role) (steps : List (Step SessionVerb)) : List SessionVerb :=
  (steps.filterMap Step.verb?).filter (·.role? = some role)

/-- The patches that a script passes. -/
def patched (steps : List (Step SessionVerb)) : List Patch :=
  (steps.filterMap Step.verb?).filterMap SessionVerb.patch?

/-- What the author gets from a call that adds to the role: its failure, or the node that
was added. -/
def reply (role : Role) (entry : Entry Session) : Except Fault (Option Node) :=
  match entry.failure with
  | some f => .error f
  | none => .ok (entry.model.nodes role).entries.getLast?

/-- The replies to the calls that add to the role. -/
def replies (role : Role) (steps : List (Step SessionVerb)) (entries : List (Entry Session)) :
    List (Except Fault (Option Node)) :=
  ((steps.zip entries).filter (·.1.addsTo role)).map fun told => reply role told.2

theorem replies_cons (role : Role) (step : Step SessionVerb) (steps : List (Step SessionVerb))
    (entry : Entry Session) (entries : List (Entry Session)) :
    replies role (step :: steps) (entry :: entries) =
      if step.addsTo role then reply role entry :: replies role steps entries
      else replies role steps entries := by
  cases h : step.addsTo role <;> simp [replies, h]

/-! ### One call -/

/-- What comes of the call depends on the name of the session and the nodes of the role
alone, and these nodes are all that it changes. -/
def Within (role : Role) (call : Session → Attempt Session) : Prop :=
  ∃ answer : String → Registry Node → Except Fault (Registry Node), ∀ s : Session,
    (call s).result = (answer s.name (s.nodes role)).map (s.setNodes role)

theorem within_of_error {role : Role} {call : Session → Attempt Session} {f : Fault}
    (h : ∀ s, (call s).result = .error f) : Within role call :=
  ⟨fun _ _ => .error f, h⟩

theorem within_addNode (role : Role) (node : Node) : Within role (addNode role node) := by
  refine ⟨fun owner r => if r.contains node.name then .error (.duplicate role.kind node.name)
    else .ok ⟨r.entries ++ [{ node with session := some owner }]⟩, fun s => ?_⟩
  rw [addNode_result]
  by_cases h : (s.nodes role).contains node.name = true
  · simp only [if_pos h, Except.map]
  · simp only [if_neg h, Except.map]

/-- A node that is made or copied first is added only if that succeeds. -/
theorem within_addNode_of (role : Role) (made : Except Fault Node) :
    Within role fun s => Attempt.ofExcept made >>= fun node => s.addNode role node := by
  cases made with
  | error f => exact within_of_error fun s => rfl
  | ok node =>
    obtain ⟨answer, h⟩ := within_addNode role node
    refine ⟨answer, fun s => ?_⟩
    rw [← h, Attempt.result_bind]
    rfl

theorem within_perform {v : SessionVerb} {role : Role} (h : v.role? = some role) :
    Within role v.perform := by
  cases v with
  | phrase name => cases h
  | patch p => cases h
  | node called name b =>
    cases h
    cases role with
    | track => exact within_of_error fun s => rfl
    | instrument => exact within_addNode_of .instrument (Node.create .instrument name b)
    | effect => exact within_addNode_of .effect (Node.create .effect name b)
  | use called library key name =>
    cases h
    cases hget : (library.nodes role).get? key with
    | none =>
      refine within_of_error (f := .notInLibrary library.name role.kind key) fun s => ?_
      rw [SessionVerb.perform, useNode, hget]
      rfl
    | some entry =>
      obtain ⟨answer, hanswer⟩ := within_addNode_of role (entry.rename role name)
      refine ⟨answer, fun s => ?_⟩
      rw [← hanswer, SessionVerb.perform, useNode, hget]

/-- A call for one role leaves everything else alone. -/
theorem Within.keeps {role : Role} {call : Session → Attempt Session} (h : Within role call)
    {s s' : Session} (hdone : (call s).result = .ok s') :
    s'.patches = s.patches ∧ ∀ other, other ≠ role → s'.nodes other = s.nodes other := by
  obtain ⟨answer, hanswer⟩ := h
  rw [hanswer] at hdone
  cases ha : answer s.name (s.nodes role) with
  | error f =>
    rw [ha] at hdone
    cases hdone
  | ok r =>
    rw [ha] at hdone
    cases hdone
    exact ⟨by cases role <;> rfl, fun other hne => nodes_setNodes_of_ne hne r⟩

/-- No call adds a track, and a call adds the patch that it passes. -/
theorem tracks_patches_of_perform {v : SessionVerb} {s s' : Session}
    (h : (v.perform s).result = .ok s') :
    s'.tracks = s.tracks ∧ s'.patches = s.patches ++ v.patch?.toList := by
  have added {role : Role} (hrole : v.role? = some role) (hne : Role.track ≠ role)
      (hpatch : v.patch? = none) :
      s'.tracks = s.tracks ∧ s'.patches = s.patches ++ v.patch?.toList := by
    obtain ⟨hpatches, hnodes⟩ := (within_perform hrole).keeps h
    exact ⟨hnodes .track hne, by simpa [hpatch] using hpatches⟩
  cases v with
  | node role name b =>
    cases role with
    | track => cases h
    | instrument => exact added rfl nofun rfl
    | effect => exact added rfl nofun rfl
  | phrase name => cases h
  | use role library key name =>
    cases role with
    -- A library holds no tracks, so there is none to take.
    | track => cases h
    | instrument => exact added rfl nofun rfl
    | effect => exact added rfl nofun rfl
  | patch p =>
    cases h
    exact ⟨rfl, rfl⟩

/-! ### The calls for one role -/

/-- The calls for the role do not tell the sessions apart. -/
structure Alike (role : Role) (s t : Session) : Prop where
  name : s.name = t.name
  nodes : s.nodes role = t.nodes role

theorem Alike.entry {role : Role} {s t : Session} (h : Alike role s t) {v : SessionVerb}
    (hv : v.role? = some role) (tolerated tolerated' : Bool) :
    Alike role ((Step.verb v tolerated).entry SessionVerb.perform s).model
        ((Step.verb v tolerated').entry SessionVerb.perform t).model ∧
      reply role ((Step.verb v tolerated).entry SessionVerb.perform s) =
        reply role ((Step.verb v tolerated').entry SessionVerb.perform t) := by
  obtain ⟨answer, hanswer⟩ := within_perform hv
  simp only [Step.entry, hanswer, h.name, h.nodes]
  cases answer t.name (t.nodes role) with
  | error f => exact ⟨h, rfl⟩
  | ok r =>
    have hname : (s.setNodes role r).name = (t.setNodes role r).name := by
      rw [setNodes_name, setNodes_name, h.name]
    have hnodes : (s.setNodes role r).nodes role = (t.setNodes role r).nodes role := by
      rw [nodes_setNodes, nodes_setNodes]
    exact ⟨⟨hname, hnodes⟩, by simp only [reply, Except.map, hnodes]⟩

/-- A step that is no call for the role is lost on it. -/
theorem alike_entry_of_not_addsTo {role : Role} {step : Step SessionVerb}
    (h : step.addsTo role = false) (s : Session) :
    Alike role (step.entry SessionVerb.perform s).model s := by
  rcases step.entry_cases SessionVerb.perform s with
    ⟨v, next, hcalled, hdone, hentry⟩ | ⟨hsame, -⟩
  · rw [hentry]
    refine ⟨(grown_perform hdone).name_eq, ?_⟩
    cases hv : v.role? with
    | some other =>
      have hne : role ≠ other := by
        rintro rfl
        exact of_decide_eq_false h (by rw [hcalled]; exact hv)
      exact ((within_perform hv).keeps hdone).2 role hne
    | none =>
      cases v with
      | node => cases hv
      | use => cases hv
      | phrase name => cases hdone
      | patch p =>
        cases hdone
        cases role <;> rfl
  · rw [hsame]
    exact ⟨rfl, rfl⟩

/-- The calls for the role, made by themselves. -/
def alone (role : Role) (steps : List (Step SessionVerb)) : List (Step SessionVerb) :=
  (calls role steps).map fun v => .verb v true

theorem alone_cons_of_addsTo {role : Role} {step : Step SessionVerb} (h : step.addsTo role = true)
    (steps : List (Step SessionVerb)) :
    ∃ v tolerated, step = .verb v tolerated ∧ v.role? = some role ∧
      alone role (step :: steps) = .verb v true :: alone role steps := by
  cases step with
  | look => cases h
  | fail f tolerated => cases h
  | verb v tolerated =>
    have hv : v.role? = some role := of_decide_eq_true h
    exact ⟨v, tolerated, rfl, hv, by simp [alone, calls, Step.verb?, hv]⟩

theorem alone_cons_of_not_addsTo {role : Role} {step : Step SessionVerb}
    (h : step.addsTo role = false) (steps : List (Step SessionVerb)) :
    alone role (step :: steps) = alone role steps := by
  cases step with
  | look => rfl
  | fail f tolerated => rfl
  | verb v tolerated =>
    have hv : v.role? ≠ some role := of_decide_eq_false h
    simp [alone, calls, Step.verb?, hv]

/-- To the calls for a role it is all the same whether they are made by themselves. -/
theorem run_alone {role : Role} {steps : List (Step SessionVerb)}
    (htolerated : ∀ step ∈ steps, step.tolerated = true) {s t : Session} (h : Alike role s t) :
    ∃ s' t', (run SessionVerb.perform steps s).result = .ok s' ∧
      (run SessionVerb.perform (alone role steps) t).result = .ok t' ∧ Alike role s' t' ∧
      replies role steps (run SessionVerb.perform steps s).entries =
        replies role (alone role steps) (run SessionVerb.perform (alone role steps) t).entries := by
  induction steps generalizing s t with
  | nil => exact ⟨s, t, rfl, rfl, h, rfl⟩
  | cons step steps ih =>
    obtain ⟨hstep, hsteps⟩ := List.forall_mem_cons.1 htolerated
    cases hadds : step.addsTo role with
    -- Only the first run takes the step, and the calls for the role do not see it.
    | false =>
      have hs := alike_entry_of_not_addsTo hadds s
      obtain ⟨s', t', hs', ht', halike, hreplies⟩ :=
        ih hsteps ⟨hs.name.trans h.name, hs.nodes.trans h.nodes⟩
      rw [alone_cons_of_not_addsTo hadds, run_cons_result, run_cons_entries,
        step.result_of_tolerated _ hstep, replies_cons, hadds]
      exact ⟨s', t', hs', ht', halike, hreplies⟩
    -- Both runs take the step, and to the same effect on the role.
    | true =>
      obtain ⟨v, tolerated, rfl, hv, halone⟩ := alone_cons_of_addsTo hadds steps
      have htrue : (Step.verb v true).addsTo role = true := decide_eq_true hv
      obtain ⟨hnext, hreply⟩ := h.entry hv tolerated true
      have hone : (Step.verb v true).result SessionVerb.perform t =
          .ok ((Step.verb v true).entry SessionVerb.perform t).model :=
        Step.result_of_tolerated _ rfl t
      obtain ⟨s', t', hs', ht', halike, hreplies⟩ := ih hsteps hnext
      rw [halone, run_cons_result, run_cons_entries, Step.result_of_tolerated _ hstep,
        run_cons_result, run_cons_entries, hone, replies_cons, replies_cons, hadds, htrue, hreply]
      refine ⟨s', t', hs', ht', halike, ?_⟩
      exact congrArg (_ :: ·) hreplies

/-! ### Patches and tracks -/

theorem patched_cons (step : Step SessionVerb) (steps : List (Step SessionVerb)) :
    patched (step :: steps) = (step.verb?.bind SessionVerb.patch?).toList ++ patched steps := by
  cases step with
  | look => rfl
  | fail f tolerated => rfl
  | verb v tolerated => cases h : v.patch? <;> simp [patched, Step.verb?, h]

theorem tracks_patches_of_step {step : Step SessionVerb} {s s' : Session}
    (h : step.result SessionVerb.perform s = .ok s') :
    s'.tracks = s.tracks ∧
      s'.patches = s.patches ++ (step.verb?.bind SessionVerb.patch?).toList := by
  have hs' := Step.entry_model h
  rcases step.entry_cases SessionVerb.perform s with
    ⟨v, next, hv, hdone, hentry⟩ | ⟨hsame, hfails⟩
  · rw [hentry] at hs'
    cases hs'
    rw [hv]
    exact tracks_patches_of_perform hdone
  · have hpatch : step.verb?.bind SessionVerb.patch? = none := by
      cases hv : step.verb? with
      | none => rfl
      | some v =>
        obtain ⟨f, hf⟩ := hfails v hv
        cases v with
        -- A patch cannot fail.
        | patch p => cases hf
        | node | phrase | use => rfl
    rw [hpatch, ← hs', hsame]
    exact ⟨rfl, (List.append_nil _).symm⟩

/-- A script leaves the tracks and adds the patches that it passes. -/
theorem tracks_patches_of_run {steps : List (Step SessionVerb)} {s s' : Session}
    (h : (run SessionVerb.perform steps s).result = .ok s') :
    s'.tracks = s.tracks ∧ s'.patches = s.patches ++ patched steps := by
  induction steps generalizing s with
  | nil =>
    cases h
    exact ⟨rfl, (List.append_nil _).symm⟩
  | cons step steps ih =>
    rw [run_cons_result, Attempt.bind_eq_ok_iff] at h
    obtain ⟨next, hstep, hrest⟩ := h
    obtain ⟨htracks, hpatches⟩ := tracks_patches_of_step hstep
    obtain ⟨htracks', hpatches'⟩ := ih hrest
    refine ⟨htracks'.trans htracks, ?_⟩
    rw [hpatches', hpatches, patched_cons, List.append_assoc]

/-! ### Composed sessions -/

theorem compose_of_blank {name : String} (h : Text.isBlank name = true)
    (steps : List (Step SessionVerb)) :
    (Session.compose name steps).result = .error (.blankName "session") ∧
      (Session.compose name steps).entries = [] := by
  rw [Session.compose, compose_result, compose_entries, empty_eq, if_pos h]
  exact ⟨rfl, rfl⟩

theorem compose_of_named {name : String} (h : Text.isBlank name = false)
    (steps : List (Step SessionVerb)) :
    (Session.compose name steps).result = (run SessionVerb.perform steps { name }).result ∧
      (Session.compose name steps).entries =
        (run SessionVerb.perform steps { name }).entries := by
  rw [Session.compose, compose_result, compose_entries, empty_eq, if_neg (by simp [h])]
  refine ⟨?_, rfl⟩
  rw [Attempt.ok_bind]
  cases (run SessionVerb.perform steps { name }).result <;> rfl

section

variable {name : String} {steps steps' : List (Step SessionVerb)}

/-- Two scripts with the same calls for a role do the same for it. -/
theorem run_alike {role : Role} (htolerated : ∀ step ∈ steps, step.tolerated = true)
    (htolerated' : ∀ step ∈ steps', step.tolerated = true)
    (hcalls : calls role steps = calls role steps') :
    ∃ s s', (run SessionVerb.perform steps { name }).result = .ok s ∧
      (run SessionVerb.perform steps' { name }).result = .ok s' ∧ Alike role s s' ∧
      replies role steps (run SessionVerb.perform steps { name }).entries =
        replies role steps' (run SessionVerb.perform steps' { name }).entries := by
  have same : Alike role { name } { name } := ⟨rfl, rfl⟩
  have halone : alone role steps = alone role steps' := by rw [alone, alone, hcalls]
  obtain ⟨s, t, hs, ht, halike, hreplies⟩ := run_alone htolerated same
  obtain ⟨s', t', hs', ht', halike', hreplies'⟩ := run_alone htolerated' same
  rw [halone] at ht hreplies
  cases ht.symm.trans ht'
  exact ⟨s, s', hs, hs', ⟨halike.name.trans halike'.name.symm,
    halike.nodes.trans halike'.nodes.symm⟩, hreplies.trans hreplies'.symm⟩

/-- Two scripts with the same calls for instruments, the same for effects and the same
patches end in the same session. -/
theorem run_eq_of_calls (htolerated : ∀ step ∈ steps, step.tolerated = true)
    (htolerated' : ∀ step ∈ steps', step.tolerated = true)
    (hinstruments : calls .instrument steps = calls .instrument steps')
    (heffects : calls .effect steps = calls .effect steps')
    (hpatches : patched steps = patched steps') :
    ∃ s, (run SessionVerb.perform steps { name }).result = .ok s ∧
      (run SessionVerb.perform steps' { name }).result = .ok s := by
  obtain ⟨s, s', hs, hs', instruments, -⟩ := run_alike htolerated htolerated' hinstruments
  obtain ⟨t, t', ht, ht', effects, -⟩ := run_alike htolerated htolerated' heffects
  cases hs.symm.trans ht
  cases hs'.symm.trans ht'
  obtain ⟨tracks, patches⟩ := tracks_patches_of_run hs
  obtain ⟨tracks', patches'⟩ := tracks_patches_of_run hs'
  have heq : s = s' := by
    cases s
    cases s'
    cases instruments.name
    cases instruments.nodes
    cases effects.nodes
    cases tracks.trans tracks'.symm
    cases patches.trans (hpatches ▸ patches'.symm)
    rfl
  exact ⟨s, hs, heq ▸ hs'⟩

end

/-- Each entry of a course tells of the step in its place, taken on the session before. -/
theorem entry_of_compose {name : String} {steps : List (Step SessionVerb)} {i : Nat}
    {entry : Entry Session} (h : (Session.compose name steps).entries[i]? = some entry) :
    ∃ step before, steps[i]? = some step ∧
      ({ name } :: (Session.compose name steps).entries.map (·.model))[i]? = some before ∧
      entry = step.entry SessionVerb.perform before := by
  cases hname : Text.isBlank name with
  | true =>
    rw [(compose_of_blank hname steps).2] at h
    cases h
  | false =>
    rw [(compose_of_named hname steps).2] at h ⊢
    exact entry_of_run h

/-- What a composed session is made of. -/
theorem composed_session {name : String} {steps : List (Step SessionVerb)} {s : Session}
    (h : (Session.compose name steps).result = .ok s) :
    s.name = name ∧ s.Sound ∧ s.Owned ∧ s.tracks.entries = [] ∧ s.patches = patched steps := by
  have hkept : s.name = name ∧ s.Sound :=
    (compose_of_grown (P := fun s => s.name = name ∧ s.Sound)
      (fun kept hgrown => ⟨hgrown.name_eq.trans kept.1, kept.2.grow hgrown⟩)
      (fun _ hempty => ⟨congrArg Session.name (eq_of_empty hempty), sound_empty hempty⟩)
      steps).2 s h
  refine ⟨hkept.1, hkept.2, owned_of_compose h, ?_⟩
  cases hname : Text.isBlank name with
  | true =>
    rw [(compose_of_blank hname steps).1] at h
    cases h
  | false =>
    rw [(compose_of_named hname steps).1] at h
    obtain ⟨tracks, patches⟩ := tracks_patches_of_run h
    exact ⟨congrArg Registry.entries tracks, patches⟩

/-- A session is composed alike however the calls for instruments, the calls for effects and
the patches are interleaved, as long as failures are tolerated, and to every call the reply
is the same. What fails leaves the session as it was; patches are stored as they are passed,
and tracks are never made. -/
theorem interleaving_immaterial (name : String) :
    (∀ steps steps' : List (Step SessionVerb), (∀ step ∈ steps, step.tolerated = true) →
      (∀ step ∈ steps', step.tolerated = true) →
      (∀ role, calls role steps = calls role steps' →
        replies role steps (Session.compose name steps).entries =
          replies role steps' (Session.compose name steps').entries) ∧
      (calls .instrument steps = calls .instrument steps' →
        calls .effect steps = calls .effect steps' → patched steps = patched steps' →
        (Session.compose name steps).result = (Session.compose name steps').result) ∧
      (Text.isBlank name = false →
        (∃ s, (Session.compose name steps).result = .ok s) ∧
          (Session.compose name steps).entries.length = steps.length)) ∧
    ∀ steps : List (Step SessionVerb),
      (∀ (i : Nat) (entry : Entry Session),
        (Session.compose name steps).entries[i]? = some entry →
        (entry.failure ≠ none →
          ({ name } :: (Session.compose name steps).entries.map (·.model))[i]? =
            some entry.model) ∧
        (∀ p tolerated, steps[i]? = some (.verb (.patch p) tolerated) → entry.failure = none) ∧
        ∀ phrase tolerated, steps[i]? = some (.verb (.phrase phrase) tolerated) →
          entry.failure = some (.notImplemented "phrase")) ∧
      ∀ s, (Session.compose name steps).result = .ok s →
        s.name = name ∧ s.Sound ∧ s.Owned ∧ s.tracks.entries = [] ∧ s.patches = patched steps := by
  refine ⟨fun steps steps' htolerated htolerated' => ?_, fun steps =>
    ⟨fun i entry hentry => ?_, fun s hs => composed_session hs⟩⟩
  · cases hname : Text.isBlank name with
    | true =>
      obtain ⟨hresult, hentries⟩ := compose_of_blank hname steps
      obtain ⟨hresult', hentries'⟩ := compose_of_blank hname steps'
      rw [hresult, hentries, hresult', hentries']
      refine ⟨fun role _ => ?_, fun _ _ _ => rfl, nofun⟩
      rw [replies, replies, List.zip_nil_right, List.zip_nil_right]
    | false =>
      obtain ⟨hresult, hentries⟩ := compose_of_named hname steps
      obtain ⟨hresult', hentries'⟩ := compose_of_named hname steps'
      rw [hresult, hentries, hresult', hentries']
      refine ⟨fun role hcalls => ?_, fun hinstruments heffects hpatches => ?_, fun _ => ?_⟩
      · obtain ⟨_, _, -, -, -, hreplies⟩ := run_alike htolerated htolerated' hcalls
        exact hreplies
      · obtain ⟨s, hs, hs'⟩ :=
          run_eq_of_calls htolerated htolerated' hinstruments heffects hpatches
        rw [hs, hs']
      · obtain ⟨s, hs, -⟩ := run_eq_of_calls htolerated htolerated rfl rfl rfl
        exact ⟨⟨s, hs⟩, run_length_of_tolerated _ htolerated _⟩
  · obtain ⟨step, before, hstep, hbefore, rfl⟩ := entry_of_compose hentry
    refine ⟨fun hfailed => ?_, fun p tolerated hpatch => ?_, fun phrase tolerated hphrase => ?_⟩
    · rw [Step.entry_of_failure hfailed, hbefore]
    · cases hstep.symm.trans hpatch
      rfl
    · cases hstep.symm.trans hphrase
      rfl

def violinLibrary : Library where
  name := "strings"
  instruments := ⟨[⟨"violin", some ⟨0, none, .ok ⟨"bowed", []⟩⟩, none⟩]⟩

/-- A solo taken from a library, then its double under the same name, an effect, one that
the library lacks, and two patches, of which one leads nowhere. -/
def soloScript : List (Step SessionVerb) :=
  [.verb (.use .instrument violinLibrary "violin" "solo") true,
    .verb (.node .instrument "solo" ⟨1, none, .error .noDevice⟩) true,
    .verb (.node .effect "hall" ⟨2, none, .ok ⟨"hall", []⟩⟩) true,
    .verb (.use .effect violinLibrary "echo" "echo") true,
    .verb (.patch ⟨⟨"instrument", "solo"⟩, ⟨"effect", "hall"⟩⟩) true,
    .verb (.patch ⟨⟨"instrument", "solo"⟩, ⟨"effect", "echo"⟩⟩) true]

/-- The same with the patches first, and with a track and a phrase besides. -/
def patchesFirstScript : List (Step SessionVerb) :=
  [.verb (.patch ⟨⟨"instrument", "solo"⟩, ⟨"effect", "hall"⟩⟩) true,
    .verb (.node .effect "hall" ⟨2, none, .ok ⟨"hall", []⟩⟩) true,
    .verb (.node .track "main" ⟨3, none, .error .noDevice⟩) true,
    .verb (.patch ⟨⟨"instrument", "solo"⟩, ⟨"effect", "echo"⟩⟩) true,
    .verb (.use .instrument violinLibrary "violin" "solo") true,
    .verb (.use .effect violinLibrary "echo" "echo") true, .look, .verb (.phrase "verse") true,
    .verb (.node .instrument "solo" ⟨1, none, .error .noDevice⟩) true]

theorem solo_scripts_compose_alike :
    (∃ s, (Session.compose "duo" soloScript).result = .ok s ∧
        (Session.compose "duo" patchesFirstScript).result = .ok s ∧ s.Sound ∧
        s.patches = [⟨⟨"instrument", "solo"⟩, ⟨"effect", "hall"⟩⟩,
          ⟨⟨"instrument", "solo"⟩, ⟨"effect", "echo"⟩⟩]) ∧
      replies .instrument soloScript (Session.compose "duo" soloScript).entries =
        replies .instrument patchesFirstScript (Session.compose "duo" patchesFirstScript).entries ∧
      ∃ entry, (Session.compose "duo" soloScript).entries[1]? = some entry ∧
        entry.failure = some (.duplicate "instrument" "solo") ∧
        ({ name := "duo" } :: (Session.compose "duo" soloScript).entries.map (·.model))[1]? =
          some entry.model := by
  obtain ⟨two, one⟩ := interleaving_immaterial "duo"
  obtain ⟨hreplies, hsame, hdone⟩ := two soloScript patchesFirstScript (by decide) (by decide)
  obtain ⟨⟨s, hs⟩, -⟩ := hdone rfl
  have heq := hsame rfl rfl rfl
  obtain ⟨-, hsound, -, -, hpatches⟩ := (one soloScript).2 s hs
  refine ⟨⟨s, hs, heq ▸ hs, hsound, hpatches⟩, hreplies .instrument rfl, ?_⟩
  exact ⟨_, rfl, rfl, ((one soloScript).1 1 _ rfl).1 nofun⟩

end Session

end Studio
