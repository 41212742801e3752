import Studio.Proofs.Conductor.Emission
import Studio.Proofs.Conductor.Files
import Studio.Proofs.Conductor.Rendering
import Studio.Service

/-! The topics that each action reports on. Files are spoken of by the file actions
alone, and composing by the two actions that render. -/

namespace Studio.Conductor

variable {D W : Type}

namespace Reports

variable {topics : List Topic}

theorem withStore (store : W) : Reports topics (D := D) (W := W) fun c => { c with store } :=
  silent fun _ => ⟨rfl, rfl, rfl, rfl⟩

theorem withDevice (device : D) : Reports topics (D := D) (W := W) fun c => { c with device } :=
  silent fun _ => ⟨rfl, rfl, rfl, rfl⟩

/-! ### File actions -/

section Files

variable [FileStore W]

theorem selectFile (uid : Nat) (he : .error ∈ topics) (hf : .file ∈ topics) :
    Reports topics (D := D) (W := W) fun c => c.selectFile uid := by
  refine chosen fun c => ?_
  cases h : FileStore.file? uid c.store with
  | none => exact ⟨_, report _ _ he, fun _ _ => selectFile_absent h⟩
  | some file =>
    have hs : Reports topics (D := D) (W := W) fun c =>
        let name := file.name
        { c.say .info s!"selected file '{name}'" with selected := some uid } :=
      silent fun _ => ⟨rfl, rfl, rfl, rfl⟩
    exact ⟨_, hs.comp (emit (.fileSelected file) hf), fun _ _ => selectFile_present h⟩

theorem addFile (he : .error ∈ topics) (hf : .file ∈ topics) :
    Reports topics (D := D) (W := W) fun c => c.addFile := by
  refine chosen fun c => ?_
  cases ht : c.template with
  | error f => exact ⟨_, report _ _ he, fun _ _ => addFile_noTemplate ht⟩
  | ok t =>
    have hu (store : W) : Reports topics (D := D) (W := W) fun d =>
        { d with random := (FileName.make c.random).2, store } :=
      silent fun _ => ⟨rfl, rfl, rfl, rfl⟩
    cases h : FileStore.create (FileName.make c.random).1 t.source c.store with
    | mk result store =>
      cases result with
      | error f =>
        exact ⟨_, (hu store).comp (report _ _ he), fun _ _ => addFile_refused ht h⟩
      | ok file =>
        exact ⟨_, (((hu store).comp (say _ _)).comp (emit (.fileCreated file) hf)).comp
          (selectFile file.uid he hf), fun _ _ => addFile_created ht h⟩

theorem selectFirst (he : .error ∈ topics) (hf : .file ∈ topics) :
    Reports topics (D := D) (W := W) fun c => c.selectFirst := by
  refine chosen fun c => ?_
  have hu : Reports topics (D := D) (W := W) fun c => { c with selected := none } :=
    silent fun _ => ⟨rfl, rfl, rfl, rfl⟩
  cases h : FileStore.first? c.store with
  | none => exact ⟨_, hu, fun _ _ => selectFirst_none h⟩
  | some file =>
    exact ⟨_, hu.comp (selectFile file.uid he hf), fun _ _ => selectFirst_some h⟩

theorem destroyFile (uid : Nat) (he : .error ∈ topics) (hf : .file ∈ topics) :
    Reports topics (D := D) (W := W) fun c => c.destroyFile uid := by
  refine chosen fun c => ?_
  cases h : FileStore.destroy uid c.store with
  | mk result store =>
    cases result with
    | error f =>
      exact ⟨_, (withStore store).comp (report _ _ he), fun _ _ => destroyFile_refused h⟩
    | ok file =>
      by_cases ha : c.selected = some uid
      · exact ⟨_, (((withStore store).comp (say _ _)).comp (selectFirst he hf)).comp
          (emit (.fileDestroyed file) hf), fun _ _ => destroyFile_active h ha⟩
      · exact ⟨_, ((withStore store).comp (say _ _)).comp (emit (.fileDestroyed file) hf),
          fun _ _ => destroyFile_other h ha⟩

theorem save (he : .error ∈ topics) : Reports topics (D := D) (W := W) fun c => c.save := by
  refine chosen fun c => ?_
  cases h : FileStore.save c.store with
  | mk result store =>
    cases result with
    | error f => exact ⟨_, (withStore store).comp (report _ _ he), fun _ _ => save_refused h⟩
    | ok u => exact ⟨_, withStore store, fun _ _ => save_done h⟩

theorem setSource (source : String) (he : .error ∈ topics) (hf : .file ∈ topics)
    (hc : .changed ∈ topics) :
    Reports topics (D := D) (W := W) fun c => c.setSource source := by
  refine chosen fun c => ?_
  rcases Option.eq_none_or_eq_some c.selected with hs | ⟨uid, hs⟩
  · exact ⟨_, report _ _ he, fun _ _ => setSource_unselected hs⟩
  · cases h : FileStore.update uid source c.store with
    | mk result store =>
      cases result with
      | error f =>
        exact ⟨_, (withStore store).comp (report _ _ he), fun _ _ => setSource_refused hs h⟩
      | ok file =>
        let updated : Conductor D W := { c with store }
        exact ⟨_, ((withStore store).comp (emit (.fileUpdated file) hf)).comp
          (emit (.changed updated.changed) hc), fun _ _ => setSource_updated hs h⟩

end Files

/-! ### Rendering -/

section Rendering

variable [AudioDevice D]

theorem release : Reports topics (D := D) (W := W) fun c => c.release := by
  refine chosen fun c => ?_
  let device := c.release.device
  refine ⟨fun c => { c with rendering := none, source := none, observer := none, device },
    silent fun _ => ⟨rfl, rfl, rfl, rfl⟩,
    fun _ _ => rfl⟩

omit [AudioDevice D] in
theorem announce (hc : .composer ∈ topics) :
    Reports topics (D := D) (W := W) fun c => c.announce :=
  (((((setStage .parsing).comp (emit .parsing hc)).comp (setStage .parsed)).comp
    (emit .parsed hc)).comp (setStage .rendering)).comp (emit .rendering hc)

theorem observe : Reports topics (D := D) (W := W) fun c => c.observe := by
  refine chosen fun c => ?_
  by_cases h : c.settings.reportPositions = true
  · let observed := AudioDevice.observe c.device
    exact ⟨fun c => { c with device := observed.2, observer := some observed.1 },
      silent fun _ => ⟨rfl, rfl, rfl, rfl⟩,
      fun _ _ => if_pos h⟩
  · exact ⟨fun c => c, silent fun _ => ⟨rfl, rfl, rfl, rfl⟩, fun _ _ => if_neg h⟩

theorem keep (r : Rendering) (source : String) (hc : .composer ∈ topics) (hd : .changed ∈ topics) :
    Reports topics (D := D) (W := W) fun c => c.keep r source := by
  have hu : Reports topics (D := D) (W := W) fun c =>
      { c with rendering := some r, source := some source } := silent fun _ => ⟨rfl, rfl, rfl, rfl⟩
  exact (((hu.comp observe).comp (setStage .rendered)).comp (emit .rendered hc)).comp
    (emit (.changed false) hd)

theorem composeAndLoad (source : String) (hc : .composer ∈ topics) :
    Yields topics (D := D) (W := W) (Conductor.composeAndLoad source) := by
  refine .chosen fun c => ?_
  cases h : Score.ofText source with
  | error f =>
    exact ⟨_, _, (setStage .parsing).comp (emit .parsing hc),
      fun _ _ => composeAndLoad_unreadable _ h⟩
  | ok score =>
    let made := score.render c.libraries c.settings.defaultLibrary c.device
    have hu : Reports topics (D := D) (W := W) fun c =>
        { c with device := made.2 }.addNotes made.1.notes := silent fun _ => ⟨rfl, rfl, rfl, rfl⟩
    exact ⟨made.1.result, _, (announce hc).comp hu, fun _ _ => composeAndLoad_eq h _⟩

theorem renderAfresh (source : String) (hc : .composer ∈ topics) (hd : .changed ∈ topics) :
    Yields topics (D := D) (W := W) (Conductor.renderAfresh source) := by
  refine .chosen fun c => ?_
  cases h : AudioDevice.start c.release.device with
  | mk result device =>
    have hstart : Reports topics (D := D) (W := W) fun c => { c.release with device } :=
      release.comp (withDevice device)
    cases result with
    | error f => exact ⟨_, _, hstart, fun _ _ => renderAfresh_noBuffer h⟩
    | ok u =>
      have hm := composeAndLoad (D := D) (W := W) source hc
      have hr := hm.result { c.release with device }
      have hcompose := hstart.comp hm.reports
      cases hresult : ({ c.release with device }.composeAndLoad source).1 with
      | error f =>
        exact ⟨_, _, (hcompose.comp release).comp (setStage .idle),
          fun bus out => renderAfresh_failed h ((hr bus out).trans hresult)⟩
      | ok r =>
        exact ⟨_, _, hcompose.comp (keep r source hc hd),
          fun bus out => renderAfresh_done h ((hr bus out).trans hresult)⟩

variable [FileStore W]

theorem ensureRendered (hc : .composer ∈ topics) (hd : .changed ∈ topics) :
    Yields topics (D := D) (W := W) Conductor.ensureRendered := by
  refine .chosen fun c => ?_
  cases h : c.due? with
  | some source =>
    have hr := renderAfresh (D := D) (W := W) source hc hd
    refine ⟨(c.renderAfresh source).1, _, hr.reports, fun bus out => ?_⟩
    rw [ensureRendered_due (c := { c with bus, out }) h]
    exact Prod.ext (hr.result c bus out) rfl
  | none =>
    cases hf : c.activeFile with
    | none =>
      have hi : Reports topics (D := D) (W := W) fun c => c := silent fun _ => ⟨rfl, rfl, rfl, rfl⟩
      exact ⟨_, _, hi, fun _ _ => ensureRendered_unselected hf⟩
    | some file => exact ⟨_, _, say _ _, fun _ _ => ensureRendered_live hf h⟩

theorem render (he : .error ∈ topics) (hc : .composer ∈ topics) (hd : .changed ∈ topics) :
    Reports topics (D := D) (W := W) fun c => c.render := by
  have hensure := ensureRendered (D := D) (W := W) hc hd
  refine chosen fun c => ?_
  have hr := hensure.result c
  cases h : c.ensureRendered.1 with
  | error f =>
    exact ⟨_, hensure.reports.comp (report _ _ he),
      fun bus out => render_failed ((hr bus out).trans h)⟩
  | ok u => exact ⟨_, hensure.reports, fun bus out => render_done ((hr bus out).trans h)⟩

theorem play (he : .error ∈ topics) (hc : .composer ∈ topics) (hd : .changed ∈ topics) :
    Reports topics (D := D) (W := W) fun c => c.play := by
  have hensure := ensureRendered (D := D) (W := W) hc hd
  refine chosen fun c => ?_
  have hr := hensure.result c
  cases h : c.ensureRendered.1 with
  | error f =>
    exact ⟨_, hensure.reports.comp (report _ _ he),
      fun bus out => play_failed ((hr bus out).trans h)⟩
  | ok u =>
    have hdevice (bus : Bus) (out : Outbox) :
        { c with bus, out }.ensureRendered.2.device = c.ensureRendered.2.device := by
      have hs := congrArg Conductor.device (hensure.reports.same c bus out)
      exact hs
    cases hp : AudioDevice.play c.ensureRendered.2.device with
    | mk result device =>
      have hplay := hensure.reports.comp (withDevice device)
      cases result with
      | error f =>
        refine ⟨_, hplay.comp (report "Unable to play this file." f he), fun bus out => ?_⟩
        exact play_refused ((hr bus out).trans h) (by rw [hdevice, hp])
      | ok u =>
        refine ⟨_, hplay.comp (setStage .playing), fun bus out => ?_⟩
        exact play_started ((hr bus out).trans h) (by rw [hdevice, hp])

omit [FileStore W]

theorem pause (he : .error ∈ topics) : Reports topics (D := D) (W := W) fun c => c.pause := by
  refine chosen fun c => ?_
  cases h : AudioDevice.pause c.device with
  | mk result device =>
    cases result with
    | error f => exact ⟨_, (withDevice device).comp (report _ _ he), fun _ _ => pause_refused h⟩
    | ok u => exact ⟨_, (withDevice device).comp (advanceStage _ _), fun _ _ => pause_done h⟩

theorem stop (he : .error ∈ topics) (hp : .position ∈ topics) :
    Reports topics (D := D) (W := W) fun c => c.stop := by
  refine chosen fun c => ?_
  cases h : AudioDevice.stop c.device with
  | mk result device =>
    cases result with
    | error f => exact ⟨_, (withDevice device).comp (report _ _ he), fun _ _ => stop_refused h⟩
    | ok u =>
      exact ⟨_, ((withDevice device).comp (advanceStage _ _)).comp (emit (.position .zero) hp),
        fun _ _ => stop_done h⟩

theorem dispatch (ht : .transport ∈ topics) (hp : .position ∈ topics) :
    Reports topics (D := D) (W := W) fun c => c.dispatch := by
  refine chosen fun c => ?_
  let taken := AudioDevice.takeEvents c.device
  let unseen := c.unseen
  have hevents : Reports topics (D := D) (W := W) fun c =>
      (taken.1.map Event.transport).foldl (fun c e => c.emit e) c :=
    foldl_emit _ fun e he => by
      obtain ⟨t, -, rfl⟩ := List.mem_map.1 he
      exact ht
  have hpositions : Reports topics (D := D) (W := W) fun c =>
      (unseen.1.map Event.position).foldl (fun c e => c.emit e) c :=
    foldl_emit _ fun e he => by
      obtain ⟨p, -, rfl⟩ := List.mem_map.1 he
      exact hp
  exact ⟨_, (((withDevice taken.2).comp hevents).comp (withDevice unseen.2)).comp hpositions,
    fun _ _ => dispatch_eq _⟩

end Rendering

/-- What an input does is reported; positions are spoken of by a stop alone. -/
theorem perform [AudioDevice D] [FileStore W] (i : Input) :
    Reports [.error, .changed, .position, .file, .composer] (D := D) (W := W) i.perform := by
  cases i with
  | addFile => exact addFile (by decide) (by decide)
  | destroyFile uid => exact destroyFile uid (by decide) (by decide)
  | pause => exact pause (by decide)
  | play => exact play (by decide) (by decide) (by decide)
  | render => exact render (by decide) (by decide) (by decide)
  | save => exact save (by decide)
  | selectFile uid => exact selectFile uid (by decide) (by decide)
  | quit => exact silent fun _ => ⟨rfl, rfl, rfl, rfl⟩
  | setSource source => exact setSource source (by decide) (by decide) (by decide)
  | stop => exact stop (by decide) (by decide)

end Reports

end Studio.Conductor
