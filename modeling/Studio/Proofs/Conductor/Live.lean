import Studio.Proofs.Conductor.Effect

/-! The live rendering. After any run from a fresh device, a rendering is live just
when its source is known and just when the device lends a buffer for it; every buffer
but that one has been given back; the device holds the rendering's graph; and session
and graph are what the last render begun made of its source, with the default library
that was set at that moment. -/

namespace Studio

/-- The parts of a performance move together. -/
structure Performance.Coherent (p : Performance) : Prop where
  source : p.source.isSome = p.rendering.isSome
  buffer : p.hasBuffer = p.rendering.isSome
  count : p.started = p.released + if p.hasBuffer then 1 else 0
  observer : p.observer.isSome = true → p.rendering.isSome = true
  graph : ∀ r, p.rendering = some r → p.graph = r.graph

namespace Performance

/-- Giving up settles the count of buffers. -/
theorem Coherent.giveUp_count {p : Performance} (h : p.Coherent) :
    p.giveUp.released = p.started := by
  have hc := h.count
  unfold giveUp
  split at hc <;> simp_all

theorem Coherent.giveUp {p : Performance} (h : p.Coherent) : p.giveUp.Coherent where
  source := rfl
  buffer := rfl
  count := h.giveUp_count.symm
  observer hs := by cases hs
  graph r hr := by cases hr

theorem Coherent.fail {p : Performance} (h : p.Coherent) : p.fail.Coherent where
  source := rfl
  buffer := rfl
  count := by
    have hc := h.giveUp_count
    change p.started + 1 = p.giveUp.released + 1 + 0
    omega
  observer hs := by cases hs
  graph r hr := by cases hr

theorem Coherent.install {p : Performance} (h : p.Coherent) (r : Rendering) (source : String)
    (observer : Option Nat) : (p.install r source observer).Coherent where
  source := rfl
  buffer := rfl
  count := by
    have hc := h.giveUp_count
    change p.started + 1 = p.giveUp.released + 1
    omega
  observer _ := rfl
  graph r' hr := by cases hr; rfl

/-- The transport has no part in it. -/
theorem Coherent.move {p : Performance} (h : p.Coherent) (stage : Stage)
    (transport : TransportState) : { p with stage, transport }.Coherent :=
  ⟨h.source, h.buffer, h.count, h.observer, h.graph⟩

end Performance

namespace Conductor

variable {W : Type}

theorem coherent_launch (settings : Settings) (libraries : List Library) (random : Random)
    (store : W) : (launch settings libraries random store).performance.Coherent where
  source := rfl
  buffer := rfl
  count := rfl
  observer hs := by cases hs
  graph r hr := by cases hr

/-- Only a render that is begun replaces the live rendering. -/
theorem Rest.rendering_eq {a : Action} {c : Conductor SilentDevice W} {p : Performance}
    (h : Rest c a p) : p.rendering = c.rendering ∧ p.source = c.source := by
  cases h <;> exact ⟨rfl, rfl⟩

/-- What is live after a render was begun came of the source it was begun for. -/
theorem Outcome.realize_of_live {a : Action} {c : Conductor SilentDevice W} {p : Performance}
    {source : String} {r : Rendering} (h : Outcome c source a p) (live : p.rendering = some r) :
    p.source = some source ∧
      Score.realize c.libraries c.settings.defaultLibrary source = .ok r := by
  cases h with
  | refused => cases live
  | failed => cases live
  | rendered _ _ made =>
    cases live
    exact ⟨rfl, made⟩
  | started _ _ made =>
    cases live
    exact ⟨rfl, made⟩

variable [FileStore W]

theorem Effect.coherent {a : Action} {c : Conductor SilentDevice W} {p : Performance}
    (he : Effect c a p) (h : c.performance.Coherent) : p.Coherent := by
  cases he with
  | begun _ outcome =>
    cases outcome with
    | refused => exact h.giveUp
    | failed => exact h.fail
    | rendered observer => exact h.install _ _ observer
    | started observer => exact (h.install _ _ observer).move _ _
  | none _ rest =>
    cases rest with
    | resumed => exact h.move _ _
    | paused => exact h.move _ _
    | stopped => exact h.move _ _
    | kept => exact h

theorem coherent_run (actions : List Action) {c : Conductor SilentDevice W}
    (h : c.performance.Coherent) : (run actions c).performance.Coherent :=
  run_keeps (P := fun c => c.performance.Coherent) (fun a c hc => (effect a c).coherent hc)
    actions h

theorem Effect.libraries_eq {a : Action} {c : Conductor SilentDevice W} {p : Performance}
    (he : Effect c a p) : p.libraries = c.libraries := by
  cases he with
  | begun _ outcome => cases outcome <;> rfl
  | none _ rest => cases rest <;> rfl

theorem run_libraries (actions : List Action) (c : Conductor SilentDevice W) :
    (run actions c).libraries = c.libraries :=
  run_keeps (P := fun d => d.libraries = c.libraries)
    (fun a d hd => (effect a d).libraries_eq.trans hd) actions rfl

theorem NoneBegun.rendering_eq {as : List Action} {c : Conductor SilentDevice W}
    (h : NoneBegun as c) :
    (run as c).rendering = c.rendering ∧ (run as c).source = c.source := by
  refine h.keeps (P := fun d => d.rendering = c.rendering ∧ d.source = c.source) ?_ ⟨rfl, rfl⟩
  intro a d ha hd
  obtain ⟨hr, hs⟩ := ((effect a d).rest ha).rendering_eq
  exact ⟨hr.trans hd.1, hs.trans hd.2⟩

/-- A live rendering is what the last render begun made of its source. -/
theorem exists_lastBegun_of_live {actions : List Action} {c : Conductor SilentDevice W}
    {r : Rendering} (h : c.rendering = none) (live : (run actions c).rendering = some r) :
    ∃ before a after source, LastBegun c actions before a after source ∧
      (run actions c).source = some source ∧
      Score.realize c.libraries (run before c).settings.defaultLibrary source = .ok r := by
  rcases noneBegun_or_lastBegun actions c with hn | ⟨before, a, after, source, hl⟩
  · rw [hn.rendering_eq.1, h] at live
    cases live
  · have hk := hl.none_later.rendering_eq
    rw [← hl.run_eq] at hk
    have hp : (a.perform (run before c)).rendering = some r := hk.1.symm.trans live
    obtain ⟨hs, hr⟩ := ((effect a (run before c)).outcome hl.begun).realize_of_live hp
    rw [run_libraries] at hr
    exact ⟨before, a, after, source, hl, hk.2.trans hs, hr⟩

/-- The live rendering, its source, the buffer and the graph stand and fall together
in every run, and closing the conductor gives the last buffer back. -/
theorem live_rendering_coherent (settings : Settings) (libraries : List Library)
    (random : Random) (store : W) (actions : List Action) :
    let start := launch settings libraries random store
    let c := run actions start
    (c.rendering.isSome = true ↔ c.source.isSome = true) ∧
      (c.source.isSome = true ↔ c.device.hasBuffer = true) ∧
      (c.device.started = c.device.released + if c.device.hasBuffer then 1 else 0) ∧
      (c.observer.isSome = true → c.rendering.isSome = true) ∧
      (∀ r, c.rendering = some r →
        c.device.graph = r.graph ∧
          ∃ before a after source score,
            LastBegun start actions before a after source ∧
            c.source = some source ∧
            Score.ofText source = .ok score ∧
            (score.compose libraries (run before start).settings.defaultLibrary).result =
              .ok r.session ∧
            r.session.graph.result = .ok r.graph) ∧
      c.close.device.started = c.close.device.released := by
  intro start c
  have hc : c.performance.Coherent :=
    coherent_run actions (coherent_launch settings libraries random store)
  have hsource : c.source.isSome = c.rendering.isSome := hc.source
  have hbuffer : c.device.hasBuffer = c.rendering.isSome := hc.buffer
  refine ⟨by rw [hsource], by rw [hsource, hbuffer], hc.count, hc.observer, ?_, ?_⟩
  · intro r live
    obtain ⟨before, a, after, source, hl, hs, hr⟩ := exists_lastBegun_of_live rfl live
    obtain ⟨score, ht, hcompose, hgraph⟩ := Score.realize_eq_ok hr
    exact ⟨hc.graph r live, before, a, after, source, score, hl, hs, ht, hcompose, hgraph⟩
  · have hd : c.close.device = c.device.release := rfl
    rw [hd, SilentDevice.release_eq]
    exact hc.giveUp_count.symm

/-- Two instruments out of one library node. -/
example :
    let c := run [.addFile, .setSource "[\"duet\",[[\"a\",\"sine\"],[\"b\",\"sine\"]]]", .render]
      novice
    c.device.graph.map (·.name) = ["a", "b"] ∧ c.device.started = 1 ∧ c.device.released = 0 := by
  decide +kernel

end Conductor

end Studio
