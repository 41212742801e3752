import Studio.Proofs.Composing.Session
import Studio.Proofs.Conductor.Afresh
import Studio.Proofs.Session.Builders

/-! Rendering takes effect whole or not at all. The session is composed first, which runs no
builder; then its nodes are built; the device gets the graph last of all. So whatever fails,
it fails before the device is changed, and the builders that have run by then are those of
the nodes up to the one at fault. -/

namespace Studio

theorem Attempt.Unbuilt.ran_eq_nil {α : Type} {x : Attempt α} (h : x.Unbuilt) : x.ran = [] := by
  refine List.filterMap_eq_nil_iff.2 fun note hn => ?_
  cases note with
  | said level text => rfl
  | ran b => exact absurd hn (h b)

namespace Score

section Parts

variable {libraries : List Library} {default : String} {s : Score} {session : Session}

/-! ### Building -/

variable (libraries default s) in
theorem compose_unbuilt : (s.compose libraries default).Unbuilt :=
  Session.compose_unbuilt s.session _

theorem build_of_fault {f : Fault} (h : (s.compose libraries default).result = .error f) :
    s.build libraries default = ⟨.error f, (s.compose libraries default).notes⟩ := by
  change Attempt.bind _ _ = _
  rw [Attempt.bind, h]

/-- A session that is composed is built next, and nothing comes after that. -/
theorem build_of_session (h : (s.compose libraries default).result = .ok session) :
    s.build libraries default =
      ⟨session.graph.result.map (⟨session, ·⟩),
        (s.compose libraries default).notes ++ session.graph.notes⟩ := by
  have hgraph : (session.graph >>= fun g => pure (⟨session, g⟩ : Rendering)) =
      ⟨session.graph.result.map (⟨session, ·⟩), session.graph.notes⟩ := by
    change Attempt.bind _ _ = _
    unfold Attempt.bind
    cases session.graph.result with
    | error f => rfl
    | ok g => exact congrArg (Attempt.mk _) (List.append_nil _)
  change Attempt.bind _ _ = _
  rw [Attempt.bind, h]
  dsimp only
  rw [hgraph]

/-! ### Loading -/

/-- The device is the last to learn of a rendering, and may refuse it still. -/
theorem render_cases (libraries : List Library) (default : String) (s : Score)
    (d : SilentDevice) :
    let built := s.build libraries default
    (∃ f, built.result = .error f ∧ s.render libraries default d = (built, d)) ∨
      ∃ r, built.result = .ok r ∧
        (d.hasBuffer = true ∧
            s.render libraries default d = (built, { d with graph := r.graph }) ∨
          d.hasBuffer = false ∧
            s.render libraries default d = ({ built with result := .error .noBuffer }, d)) := by
  intro built
  cases h : built.result with
  | error f => exact .inl ⟨f, rfl, render_error d h⟩
  | ok r =>
    refine .inr ⟨r, rfl, ?_⟩
    cases hd : d.hasBuffer with
    | true => exact .inl ⟨rfl, hd ▸ render_ok hd h⟩
    | false =>
      have hl : AudioDevice.load r.graph d = (.error .noBuffer, d) :=
        if_neg (Bool.eq_false_iff.1 hd)
      refine .inr ⟨rfl, ?_⟩
      simp only [render, built, h, hl]

variable (d : SilentDevice)

theorem render_notes :
    (s.render libraries default d).1.notes = (s.build libraries default).notes := by
  rcases render_cases libraries default s d with
    ⟨f, -, he⟩ | ⟨r, -, ⟨-, he⟩ | ⟨-, he⟩⟩ <;> rw [he]

theorem render_result :
    (s.render libraries default d).1.result =
      (s.build libraries default).result >>= fun r =>
        if d.hasBuffer then .ok r else .error .noBuffer := by
  rcases render_cases libraries default s d with
    ⟨f, h, he⟩ | ⟨r, h, ⟨hd, he⟩ | ⟨hd, he⟩⟩
  · rw [he, h]
    rfl
  · rw [he, h, hd]
    rfl
  · rw [he, h, hd]
    rfl

/-- A score that does not compose is not rendered, with no more notes than that. -/
theorem render_of_fault {f : Fault} (h : (s.compose libraries default).result = .error f) :
    (s.render libraries default d).1 = ⟨.error f, (s.compose libraries default).notes⟩ := by
  have hbuild := build_of_fault h
  rw [render_error d (congrArg Attempt.result hbuild), hbuild]

variable (libraries default s) in
/-- The device keeps all it has when rendering fails, and all but its graph when it does not. -/
theorem render_device :
    (∀ f, (s.render libraries default d).1.result = .error f →
        (s.render libraries default d).2 = d) ∧
      ∀ r, (s.render libraries default d).1.result = .ok r →
        (s.build libraries default).result = .ok r ∧
          (s.render libraries default d).2 = { d with graph := r.graph } := by
  rcases render_cases libraries default s d with
    ⟨f, hf, he⟩ | ⟨r, hr, ⟨-, he⟩ | ⟨-, he⟩⟩
  · rw [he]
    refine ⟨fun _ _ => rfl, fun r hr => ?_⟩
    rw [hf] at hr
    cases hr
  · rw [he]
    refine ⟨fun f hf => ?_, fun r' hr' => ?_⟩
    · rw [hr] at hf
      cases hf
    · rw [hr] at hr'
      cases hr'
      exact ⟨hr, rfl⟩
  · rw [he]
    exact ⟨fun _ _ => rfl, nofun⟩

/-- The builders that run in a rendering are those that run for the session's graph. -/
theorem render_of_session (h : (s.compose libraries default).result = .ok session) :
    (s.render libraries default d).1.notes =
        (s.compose libraries default).notes ++ session.graph.notes ∧
      (s.render libraries default d).1.ran = session.graph.ran ∧
      (s.render libraries default d).1.result = session.graph.result >>= fun g =>
        if d.hasBuffer then .ok ⟨session, g⟩ else .error .noBuffer := by
  have hbuild := build_of_session h
  have hnotes : (s.render libraries default d).1.notes =
      (s.compose libraries default).notes ++ session.graph.notes := by
    rw [render_notes, hbuild]
  refine ⟨hnotes, ?_, ?_⟩
  · have hran : (s.render libraries default d).1.ran =
        (s.compose libraries default).ran ++ session.graph.ran := by
      rw [Attempt.ran, hnotes, List.filterMap_append]
      rfl
    rw [hran, (compose_unbuilt libraries default s).ran_eq_nil, List.nil_append]
  · rw [render_result, hbuild]
    cases session.graph.result <;> rfl

end Parts

/-- Rendering a text or a score changes nothing of the device when it fails, for whatever
reason, and nothing but its graph when it succeeds. Builders run only once the whole session
is composed; they run in the order of its nodes, each at most once, up to the first node
that has none or whose builder fails, and that fault is the one returned. When all goes well
every node's builder has run once, shared or not. -/
theorem render_whole_or_not_at_all (libraries : List Library) (default : String)
    (d : SilentDevice) :
    (∀ code : String,
      let made := renderText libraries default code d
      (∀ f, made.1.result = .error f → made.2 = d) ∧
        (∀ r, made.1.result = .ok r → made.2 = { d with graph := r.graph }) ∧
        (∀ f, ofText code = .error f → made.1.result = .error f ∧ made.1.ran = []) ∧
        ∀ score, ofText code = .ok score → made = score.render libraries default d) ∧
      (∀ score : Score,
        let made := score.render libraries default d
        let composed := score.compose libraries default
        (∀ f, made.1.result = .error f → made.2 = d) ∧
          (∀ r, made.1.result = .ok r →
            made.2 = { d with graph := r.graph } ∧ composed.result = .ok r.session ∧
              BuiltBy r.session.roster made.1.ran) ∧
          composed.Unbuilt ∧
          (∀ f, composed.result = .error f → made.1.result = .error f ∧ made.1.ran = []) ∧
          ∀ session, composed.result = .ok session →
            made.1.notes = composed.notes ++ session.graph.notes ∧
              made.1.ran = session.graph.ran ∧
              made.1.result = session.graph.result >>= fun g =>
                if d.hasBuffer then .ok ⟨session, g⟩ else .error .noBuffer) ∧
      ∀ session : Session, session.graph.Builds session.roster := by
  refine ⟨fun code => ?_, fun score => ?_, fun session => session.graph_builds⟩
  · unfold renderText
    cases ht : ofText code with
    | error f =>
      refine ⟨fun _ _ => rfl, nofun, fun f' hf => ?_, nofun⟩
      cases hf
      exact ⟨rfl, rfl⟩
    | ok score =>
      obtain ⟨failed, done⟩ := render_device libraries default score d
      refine ⟨failed, fun r hr => (done r hr).2, nofun, fun s hs => ?_⟩
      cases hs
      rfl
  · obtain ⟨failed, done⟩ := render_device libraries default score d
    have unbuilt := compose_unbuilt libraries default score
    refine ⟨failed, fun r hr => ?_, unbuilt, fun f hf => ?_,
      fun session hs => render_of_session d hs⟩
    · obtain ⟨hbuild, hdevice⟩ := done r hr
      obtain ⟨hsession, hgraph⟩ := build_eq_ok hbuild
      obtain ⟨-, hran, -⟩ := render_of_session d hsession
      exact ⟨hdevice, hsession, hran ▸ r.session.graph_builds.builtBy hgraph⟩
    · rw [render_of_fault d hf]
      exact ⟨rfl, unbuilt.ran_eq_nil⟩

end Score

end Studio
