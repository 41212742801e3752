import Studio.Proofs.Conductor.Topics
import Studio.Proofs.Store.Workspace

/-! What each deed does to the files. A deed is an action that a conductor offers, over
any device, or a change of its settings or its device from outside. `Filing` lists what
a deed can make of workspace and selection, with the events about files that it emits
then; what holds of files throughout is read off these cases. -/

namespace Studio

inductive Deed (D : Type)
  | input (i : Input)
  | dispatch
  /-- Any change of the settings. -/
  | configure (change : Settings → Settings)
  /-- Anything that happens to the device. -/
  | touch (happen : D → D)

namespace Deed

variable {D W : Type} [AudioDevice D] [FileStore W]

def perform : Deed D → Conductor D W → Conductor D W
  | input i, c => i.perform c
  | dispatch, c => c.dispatch
  | configure change, c => { c with settings := change c.settings }
  | touch happen, c => { c with device := happen c.device }

theorem reports (d : Deed D) : Conductor.Reports Topic.all (W := W) d.perform := by
  cases d with
  | input i => exact (Conductor.Reports.perform i).mono (by decide)
  | dispatch => exact .dispatch (by decide) (by decide)
  | configure change => exact .silent fun _ => ⟨rfl, rfl, rfl, rfl⟩
  | touch happen => exact .silent fun _ => ⟨rfl, rfl, rfl, rfl⟩

end Deed

namespace Conductor

variable {D W : Type}

/-! ### Deeds that leave the files alone -/

/-- The files and the selection. -/
def desk (c : Conductor D W) : W × Option Nat := (c.store, c.selected)

theorem activeFile_of_desk [FileStore W] {c d : Conductor D W} (h : d.desk = c.desk) :
    d.activeFile = c.activeFile := by
  obtain ⟨hstore, hselected⟩ := Prod.mk.inj h
  rw [activeFile, activeFile, hstore, hselected]

theorem desk_of_quiet {c d : Conductor D W} (h : c.quiet = d.quiet) : c.desk = d.desk :=
  eq_of_quiet (fun _ => rfl) h

@[simp] theorem desk_emit (e : Event) (c : Conductor D W) : (c.emit e).desk = c.desk :=
  desk_of_quiet (quiet_emit e c)

theorem emit_store (e : Event) (c : Conductor D W) : (c.emit e).store = c.store :=
  congrArg Prod.fst (desk_emit e c)

@[simp] theorem desk_report (message : String) (cause : Fault) (c : Conductor D W) :
    (c.report message cause).desk = c.desk := desk_of_quiet (quiet_report message cause c)

@[simp] theorem desk_setStage (stage : Stage) (c : Conductor D W) :
    (c.setStage stage).desk = c.desk :=
  desk_of_quiet (d := { c with stage }) (quiet_setStage stage c)

@[simp] theorem desk_advanceStage (sources : List Stage) (stage : Stage) (c : Conductor D W) :
    (c.advanceStage sources stage).desk = c.desk := by
  unfold advanceStage
  split
  · exact desk_setStage stage c
  · rfl

theorem desk_announce (c : Conductor D W) : c.announce.desk = c.desk :=
  desk_of_quiet (d := { c with stage := .rendering }) (quiet_announce c)

section Device

variable [AudioDevice D]

theorem desk_release (c : Conductor D W) : c.release.desk = c.desk := rfl

theorem desk_observe (c : Conductor D W) : c.observe.desk = c.desk := by
  unfold observe
  split <;> rfl

theorem desk_keep (r : Rendering) (source : String) (c : Conductor D W) :
    (c.keep r source).desk = c.desk := by
  rw [keep, desk_emit, desk_emit, desk_setStage, desk_observe]
  rfl

theorem desk_composeAndLoad (source : String) (c : Conductor D W) :
    (c.composeAndLoad source).2.desk = c.desk := by
  cases h : Score.ofText source with
  | error f => rw [composeAndLoad_unreadable c h, desk_emit, desk_setStage]
  | ok score =>
    have hd (c : Conductor D W) (device : D) (notes : List Note) :
        ({ c with device }.addNotes notes).desk = c.desk := rfl
    rw [composeAndLoad_eq h c]
    dsimp only
    rw [hd, desk_announce]

theorem desk_renderAfresh (source : String) (c : Conductor D W) :
    (c.renderAfresh source).2.desk = c.desk := by
  cases h : AudioDevice.start c.release.device with
  | mk result device =>
    cases result with
    | error f =>
      rw [renderAfresh_noBuffer h]
      rfl
    | ok u =>
      have hm := desk_composeAndLoad source { c.release with device }
      cases hr : ({ c.release with device }.composeAndLoad source).1 with
      | error f =>
        rw [renderAfresh_failed h hr, desk_setStage, desk_release, hm]
        rfl
      | ok r =>
        rw [renderAfresh_done h hr, desk_keep, hm]
        rfl

theorem desk_pause (c : Conductor D W) : c.pause.desk = c.desk := by
  cases h : AudioDevice.pause c.device with
  | mk result device =>
    cases result with
    | error f => rw [pause_refused h, desk_report]; rfl
    | ok u => rw [pause_done h, desk_advanceStage]; rfl

theorem desk_stop (c : Conductor D W) : c.stop.desk = c.desk := by
  cases h : AudioDevice.stop c.device with
  | mk result device =>
    cases result with
    | error f => rw [stop_refused h, desk_report]; rfl
    | ok u => rw [stop_done h, desk_emit, desk_advanceStage]; rfl

theorem desk_dispatch (c : Conductor D W) : c.dispatch.desk = c.desk := by
  have hr : c.relayed.desk = c.desk :=
    desk_of_quiet (d := { c with device := (AudioDevice.takeEvents c.device).2 }) (quiet_relayed c)
  rw [dispatch_eq, desk_of_quiet (quiet_foldl_emit _ _)]
  exact hr

variable [FileStore W]

theorem desk_ensureRendered (c : Conductor D W) : c.ensureRendered.2.desk = c.desk := by
  cases h : c.due? with
  | some source => rw [ensureRendered_due h, desk_renderAfresh]
  | none => rcases ensureRendered_not_due h with ⟨-, he⟩ | ⟨-, he⟩ <;> rw [he]; rfl

theorem desk_render (c : Conductor D W) : c.render.desk = c.desk := by
  cases h : c.ensureRendered.1 with
  | error f => rw [render_failed h, desk_report, desk_ensureRendered]
  | ok u => rw [render_done h, desk_ensureRendered]

theorem desk_play (c : Conductor D W) : c.play.desk = c.desk := by
  cases h : c.ensureRendered.1 with
  | error f => rw [play_failed h, desk_report, desk_ensureRendered]
  | ok u =>
    have hd := desk_ensureRendered c
    cases hp : AudioDevice.play c.ensureRendered.2.device with
    | mk result device =>
      cases result with
      | error f => rw [play_refused h hp, desk_report]; exact hd
      | ok u => rw [play_started h hp, desk_setStage]; exact hd

end Device

/-! ### What the file actions emit -/

section Emitted

variable {f : Conductor D W → Conductor D W} {c d : Conductor D W}

theorem emitted_of_emit {e : Event} (h : f c.alone = d.emit e) (hd : d.bus = .full) :
    emitted f c = d.out.events ++ [e] := by
  rw [emitted, h, emit_events (hd ▸ Bus.full_complete)]

theorem emitted_of_report {message : String} {cause : Fault}
    (h : f c.alone = d.report message cause) (hd : d.bus = .full) :
    emitted f c = d.out.events ++ [.error message cause] :=
  emitted_of_emit (d := d.say .error _) h hd

end Emitted

section Files

variable [FileStore W] {c : Conductor D W} {file : ScoreFile} {f : Fault} {store : W} {uid : Nat}

theorem emitted_selectFile_absent (h : FileStore.file? uid c.store = none) :
    emitted (fun c => c.selectFile uid) c = [.error "Unable to select file." (.noSuchFile uid)] :=
  emitted_of_report (selectFile_absent (c := c.alone) h) rfl

theorem emitted_selectFile_present (h : FileStore.file? uid c.store = some file) :
    emitted (fun c => c.selectFile uid) c = [.fileSelected file] :=
  emitted_of_emit (selectFile_present (c := c.alone) h) rfl

theorem selectFile_emit {e : Event} (h : FileStore.file? uid c.store = some file) :
    (c.emit e).selectFile uid =
      (let name := file.name
      { (c.emit e).say .info s!"selected file '{name}'" with selected := some uid }).emit
        (.fileSelected file) :=
  selectFile_present (by rw [emit_store]; exact h)

theorem emitted_selectFirst_none (h : FileStore.first? c.store = none) :
    emitted selectFirst c = [] := by
  rw [emitted, selectFirst_none (c := c.alone) h]
  rfl

theorem emitted_selectFirst_some {next : ScoreFile} (h : FileStore.first? c.store = some next)
    (hf : FileStore.file? next.uid c.store = some file) :
    emitted selectFirst c = [.fileSelected file] := by
  have hp : FileStore.file? next.uid { c.alone with selected := none }.store = some file := hf
  exact emitted_of_emit ((selectFirst_some (c := c.alone) h).trans (selectFile_present hp)) rfl

theorem emitted_addFile_noTemplate (h : c.template = .error f) :
    emitted addFile c = [.error "Unable to add a new file." f] :=
  emitted_of_report (addFile_noTemplate (c := c.alone) h) rfl

theorem emitted_addFile_created {t : Excerpt} {found : ScoreFile} (ht : c.template = .ok t)
    (h : FileStore.create (FileName.make c.random).1 t.source c.store = (.ok file, store))
    (hf : FileStore.file? file.uid store = some found) :
    emitted addFile c = [.fileCreated file, .fileSelected found] := by
  have ha := addFile_created (c := c.alone) ht h
  rw [selectFile_emit hf] at ha
  rw [emitted_of_emit ha (emit_bus _ _)]
  exact congrArg (· ++ [Event.fileSelected found]) (emit_events Bus.full_complete)

theorem emitted_destroyFile_refused (h : FileStore.destroy uid c.store = (.error f, store)) :
    emitted (fun c => c.destroyFile uid) c = [.error "Unable to delete file." f] :=
  emitted_of_report (destroyFile_refused (c := c.alone) h) rfl

theorem emitted_destroyFile_other (h : FileStore.destroy uid c.store = (.ok file, store))
    (ha : c.selected ≠ some uid) :
    emitted (fun c => c.destroyFile uid) c = [.fileDestroyed file] :=
  emitted_of_emit (destroyFile_other (c := c.alone) h ha) rfl

theorem emitted_destroyFile_active (h : FileStore.destroy uid c.store = (.ok file, store))
    (ha : c.selected = some uid) :
    emitted (fun c => c.destroyFile uid) c =
      emitted selectFirst { c with store } ++ [.fileDestroyed file] := by
  have hr : Reports [.error, .file] (D := D) (W := W) fun c => c.selectFirst :=
    .selectFirst (by decide) (by decide)
  rw [emitted_of_emit (destroyFile_active (c := c.alone) h ha) (hr.bus _)]
  exact congrArg (· ++ [Event.fileDestroyed file]) (hr.events _ Bus.full_complete)

theorem emitted_setSource_unselected {source : String} (h : c.selected = none) :
    emitted (fun c => c.setSource source) c = [.error "Unable to update file." .nothingSelected] :=
  emitted_of_report (setSource_unselected (c := c.alone) h) rfl

theorem emitted_setSource_refused {source : String} (hs : c.selected = some uid)
    (h : FileStore.update uid source c.store = (.error f, store)) :
    emitted (fun c => c.setSource source) c = [.error "Unable to update file." f] :=
  emitted_of_report (setSource_refused (c := c.alone) hs h) rfl

theorem emitted_setSource_updated {source : String} (hs : c.selected = some uid)
    (h : FileStore.update uid source c.store = (.ok file, store)) :
    emitted (fun c => c.setSource source) c =
      [.fileUpdated file, .changed { c with store }.changed] := by
  rw [emitted_of_emit (setSource_updated (c := c.alone) hs h) (emit_bus _ _)]
  exact congrArg (· ++ [_]) (emit_events Bus.full_complete)

end Files

end Conductor

/-! ### What becomes of the files -/

/-- What can become of a workspace and the selection in it, with the events about files
that go with it. -/
inductive Filing (w : Workspace) (selected : Option Nat) :
    List Event → Workspace → Option Nat → Prop
  | kept : Filing w selected [] w selected
  | saved : Filing w selected [] w.save selected
  | created (name source : String) :
      Filing w selected
        [.fileCreated (w.create name source).1, .fileSelected (w.create name source).1]
        (w.create name source).2 (some w.mint.next)
  | selected {file : ScoreFile} (found : w.file? file.uid = some file) :
      Filing w selected [.fileSelected file] w (some file.uid)
  | updated {file : ScoreFile} (source : String) (found : w.file? file.uid = some file) :
      Filing w selected [.fileUpdated { file with source }]
        { w with files := Workspace.replace { file with source } w.files } selected
  | destroyed {file : ScoreFile} (found : w.file? file.uid = some file)
      (other : selected ≠ some file.uid) :
      Filing w selected [.fileDestroyed file]
        { w with files := w.files.eraseP (·.uid = file.uid) } selected
  | passed {file next : ScoreFile} (found : w.file? file.uid = some file)
      (active : selected = some file.uid)
      (first : (w.files.eraseP (·.uid = file.uid)).head? = some next) :
      Filing w selected [.fileSelected next, .fileDestroyed file]
        { w with files := w.files.eraseP (·.uid = file.uid) } (some next.uid)
  | emptied {file : ScoreFile} (found : w.file? file.uid = some file)
      (active : selected = some file.uid)
      (first : (w.files.eraseP (·.uid = file.uid)).head? = none) :
      Filing w selected [.fileDestroyed file]
        { w with files := w.files.eraseP (·.uid = file.uid) } none

namespace Conductor

variable {D : Type} {c : Conductor D Workspace} {f : Conductor D Workspace → Conductor D Workspace}

/-- What the deed makes of the files is listed. -/
def Files (f : Conductor D Workspace → Conductor D Workspace) (c : Conductor D Workspace) : Prop :=
  Filing c.store c.selected ((emitted f c).filter (·.topic = .file)) (f c).store (f c).selected

theorem Files.of {es : List Event} {w : Workspace} {selected : Option Nat}
    (h : Filing c.store c.selected es w selected)
    (he : (emitted f c).filter (·.topic = .file) = es) (hd : (f c).desk = (w, selected)) :
    Files f c := by
  obtain ⟨hw, hs⟩ := Prod.mk.inj hd
  rw [Files, he, hw, hs]
  exact h

/-- A deed that keeps the files and has nothing to say of them. -/
theorem Files.silent (h : Reports [.error, .changed, .transport, .position, .composer] f)
    (hd : (f c).desk = c.desk) : Files f c := .of .kept (h.emitted_filter (by decide) c) hd

theorem files_selectFile (uid : Nat) : Files (fun c => c.selectFile uid) c := by
  cases h : c.store.file? uid with
  | none =>
    refine .of .kept (by rw [emitted_selectFile_absent h]; rfl) ?_
    rw [selectFile_absent h, desk_report]
    rfl
  | some file =>
    obtain ⟨-, rfl⟩ := Workspace.mem_of_file? h
    refine .of (.selected h) (by rw [emitted_selectFile_present h]; rfl) ?_
    rw [selectFile_present h, desk_emit]
    rfl

theorem files_addFile (h : c.store.Sound) : Files addFile c := by
  cases ht : c.template with
  | error f =>
    refine .of .kept (by rw [emitted_addFile_noTemplate ht]; rfl) ?_
    rw [addFile_noTemplate ht, desk_report]
    rfl
  | ok t =>
    let name := (FileName.make c.random).1
    have hcreate : FileStore.create name t.source c.store =
        (.ok (c.store.create name t.source).1, (c.store.create name t.source).2) := rfl
    have hfile := Workspace.file?_create h name t.source
    refine .of (.created name t.source) (by rw [emitted_addFile_created ht hcreate hfile]; rfl) ?_
    rw [addFile_created ht hcreate, selectFile_emit hfile, desk_emit]
    exact Prod.ext (emit_store _ _) rfl

theorem files_destroyFile (uid : Nat) : Files (fun c => c.destroyFile uid) c := by
  cases h : c.store.file? uid with
  | none =>
    have hd : FileStore.destroy uid c.store = (.error (.noSuchFile uid), c.store) :=
      Workspace.destroy_missing h
    refine .of .kept (by rw [emitted_destroyFile_refused hd]; rfl) ?_
    rw [destroyFile_refused hd, desk_report]
    rfl
  | some file =>
    obtain ⟨-, rfl⟩ := Workspace.mem_of_file? h
    have hd := Workspace.destroy_found h
    by_cases ha : c.selected = some file.uid
    · have he := emitted_destroyFile_active hd ha
      cases hfirst : (c.store.files.eraseP (·.uid = file.uid)).head? with
      | none =>
        rw [emitted_selectFirst_none hfirst] at he
        refine .of (.emptied h ha hfirst) (by rw [he]; rfl) ?_
        rw [destroyFile_active hd ha, desk_emit, selectFirst_none hfirst]
        rfl
      | some next =>
        rw [emitted_selectFirst_some hfirst (Workspace.file?_head hfirst)] at he
        refine .of (.passed h ha hfirst) (by rw [he]; rfl) ?_
        rw [destroyFile_active hd ha, desk_emit, selectFirst_some hfirst,
          selectFile_present (Workspace.file?_head hfirst), desk_emit]
        rfl
    · refine .of (.destroyed h ha) (by rw [emitted_destroyFile_other hd ha]; rfl) ?_
      rw [destroyFile_other hd ha, desk_emit]
      rfl

theorem files_setSource (source : String) : Files (fun c => c.setSource source) c := by
  rcases Option.eq_none_or_eq_some c.selected with hs | ⟨uid, hs⟩
  · refine .of .kept (by rw [emitted_setSource_unselected hs]; rfl) ?_
    rw [setSource_unselected hs, desk_report]
    rfl
  · cases h : c.store.file? uid with
    | none =>
      have hu : FileStore.update uid source c.store = (.error (.noSuchFile uid), c.store) :=
        Workspace.update_missing source h
      refine .of .kept (by rw [emitted_setSource_refused hs hu]; rfl) ?_
      rw [setSource_refused hs hu, desk_report]
      rfl
    | some file =>
      obtain ⟨-, rfl⟩ := Workspace.mem_of_file? h
      have hu := Workspace.update_found source h
      refine .of (.updated source h) (by rw [emitted_setSource_updated hs hu]; rfl) ?_
      rw [setSource_updated hs hu, desk_emit, desk_emit]
      rfl

theorem files_save : Files save c := by
  have hs : FileStore.save c.store = (.ok (), c.store.save) := rfl
  have he : emitted save c = [] := by
    rw [emitted, save_done (c := c.alone) hs]
    rfl
  refine .of .saved (by rw [he]; rfl) ?_
  rw [save_done hs]
  rfl

/-- Every deed's effect on the files of a sound workspace is one of those listed. -/
theorem files_perform [AudioDevice D] (d : Deed D) (h : c.store.Sound) : Files d.perform c := by
  cases d with
  | input i =>
    cases i with
    | addFile => exact files_addFile h
    | destroyFile uid => exact files_destroyFile uid
    | selectFile uid => exact files_selectFile uid
    | setSource source => exact files_setSource source
    | save => exact files_save
    | quit => exact .of .kept rfl rfl
    | render => exact .silent (.render (by decide) (by decide) (by decide)) (desk_render c)
    | play => exact .silent (.play (by decide) (by decide) (by decide)) (desk_play c)
    | pause => exact .silent (.pause (by decide)) (desk_pause c)
    | stop => exact .silent (.stop (by decide) (by decide)) (desk_stop c)
  | dispatch => exact .silent (.dispatch (by decide) (by decide)) (desk_dispatch c)
  | configure change => exact .of .kept rfl rfl
  | touch happen => exact .of .kept rfl rfl

end Conductor

end Studio
