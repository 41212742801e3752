import Studio.Proofs.Conductor.Reports

/-! The endings of the file actions, one equation for each. An action is looked at
here once; what it emits and what it keeps is then read off its endings. They all
leave alone whatever has to do with sound (`Filed`). -/

namespace Studio.Conductor

variable {D W : Type} [FileStore W] {c : Conductor D W} {store : W} {file : ScoreFile}
  {f : Fault} {uid : Nat}

/-! ### Selecting -/

theorem selectFile_absent (h : FileStore.file? uid c.store = none) :
    c.selectFile uid = c.report "Unable to select file." (.noSuchFile uid) := by
  simp only [selectFile, h]

theorem selectFile_present (h : FileStore.file? uid c.store = some file) :
    c.selectFile uid =
      (let name := file.name
      { c.say .info s!"selected file '{name}'" with selected := some uid }).emit
        (.fileSelected file) := by
  simp only [selectFile, h]

theorem selectFirst_none (h : FileStore.first? c.store = none) :
    c.selectFirst = { c with selected := none } := by
  simp only [selectFirst, h]

theorem selectFirst_some (h : FileStore.first? c.store = some file) :
    c.selectFirst = { c with selected := none }.selectFile file.uid := by
  simp only [selectFirst, h]

/-! ### Adding and deleting -/

theorem addFile_noTemplate (h : c.template = .error f) :
    c.addFile = c.report "Unable to add a new file." f := by
  simp only [addFile, createFile, h]

theorem addFile_refused {t : Excerpt} (ht : c.template = .ok t)
    (h : FileStore.create (FileName.make c.random).1 t.source c.store = (.error f, store)) :
    c.addFile = { c with random := (FileName.make c.random).2, store }.report
      "Unable to add a new file." f := by
  simp only [addFile, createFile, ht, h]

theorem addFile_created {t : Excerpt} (ht : c.template = .ok t)
    (h : FileStore.create (FileName.make c.random).1 t.source c.store = (.ok file, store)) :
    c.addFile =
      (let name := file.name
      ({ c with random := (FileName.make c.random).2, store }.say .info
        s!"created file '{name}'").emit (.fileCreated file)).selectFile file.uid := by
  simp only [addFile, createFile, ht, h]

theorem destroyFile_refused (h : FileStore.destroy uid c.store = (.error f, store)) :
    c.destroyFile uid = { c with store }.report "Unable to delete file." f := by
  simp only [destroyFile, h]

theorem destroyFile_active (h : FileStore.destroy uid c.store = (.ok file, store))
    (ha : c.selected = some uid) :
    c.destroyFile uid =
      (let name := file.name
      { c with store }.say .info s!"destroyed file '{name}'").selectFirst.emit
        (.fileDestroyed file) := by
  simp only [destroyFile, h]
  exact congrArg (emit (.fileDestroyed file)) (if_pos ha)

theorem destroyFile_other (h : FileStore.destroy uid c.store = (.ok file, store))
    (ha : c.selected ≠ some uid) :
    c.destroyFile uid =
      (let name := file.name
      { c with store }.say .info s!"destroyed file '{name}'").emit (.fileDestroyed file) := by
  simp only [destroyFile, h]
  exact congrArg (emit (.fileDestroyed file)) (if_neg ha)

/-! ### Saving and editing -/

theorem save_done (h : FileStore.save c.store = (.ok (), store)) : c.save = { c with store } := by
  simp only [save, h]

theorem save_refused (h : FileStore.save c.store = (.error f, store)) :
    c.save = { c with store }.report "Unable to save workspace." f := by
  simp only [save, h]

theorem setSource_unselected {source : String} (h : c.selected = none) :
    c.setSource source = c.report "Unable to update file." .nothingSelected := by
  simp only [setSource, h]

theorem setSource_refused {source : String} (hs : c.selected = some uid)
    (h : FileStore.update uid source c.store = (.error f, store)) :
    c.setSource source = { c with store }.report "Unable to update file." f := by
  simp only [setSource, hs, h]

theorem changed_emit (e : Event) (c : Conductor D W) : (c.emit e).changed = c.changed :=
  eq_of_quiet (fun _ => rfl) (quiet_emit e c)

theorem setSource_updated {source : String} (hs : c.selected = some uid)
    (h : FileStore.update uid source c.store = (.ok file, store)) :
    c.setSource source =
      ({ c with store }.emit (.fileUpdated file)).emit (.changed { c with store }.changed) := by
  simp only [setSource, hs, h, changed_emit]

/-! ### What they leave alone -/

/-- The second conductor differs from the first in its files, the names to come, the
selection and the outbox at most. -/
def Filed (c c' : Conductor D W) : Prop :=
  ∃ store random selected out, c' = { c with store, random, selected, out }

namespace Filed

omit [FileStore W]

variable {c' c'' : Conductor D W}

theorem trans (h : c.Filed c') (h' : c'.Filed c'') : c.Filed c'' := by
  obtain ⟨_, _, _, _, rfl⟩ := h
  obtain ⟨store, random, selected, out, rfl⟩ := h'
  exact ⟨store, random, selected, out, rfl⟩

theorem emit (h : c.Filed c') (e : Event) : c.Filed (c'.emit e) := by
  obtain ⟨out, ho⟩ := exists_out_of_quiet (quiet_emit e c')
  exact h.trans ⟨_, _, _, out, ho⟩

theorem report (h : c.Filed c') (message : String) (cause : Fault) :
    c.Filed (c'.report message cause) := by
  obtain ⟨out, ho⟩ := exists_out_of_quiet (quiet_report message cause c')
  exact h.trans ⟨_, _, _, out, ho⟩

theorem refl (c : Conductor D W) : c.Filed c := ⟨_, _, _, _, rfl⟩

end Filed

theorem filed_selectFile (uid : Nat) (c : Conductor D W) : c.Filed (c.selectFile uid) := by
  cases h : FileStore.file? uid c.store with
  | none =>
    rw [selectFile_absent h]
    exact (Filed.refl c).report _ _
  | some file =>
    rw [selectFile_present h]
    exact Filed.emit ⟨_, _, _, _, rfl⟩ _

theorem filed_addFile (c : Conductor D W) : c.Filed c.addFile := by
  cases ht : c.template with
  | error f =>
    rw [addFile_noTemplate ht]
    exact (Filed.refl c).report _ _
  | ok t =>
    cases h : FileStore.create (FileName.make c.random).1 t.source c.store with
    | mk result store =>
      cases result with
      | error f =>
        rw [addFile_refused ht h]
        exact Filed.report ⟨_, _, _, _, rfl⟩ _ _
      | ok file =>
        rw [addFile_created ht h]
        exact (Filed.emit ⟨_, _, _, _, rfl⟩ _).trans (filed_selectFile ..)

theorem filed_selectFirst (c : Conductor D W) : c.Filed c.selectFirst := by
  have deselected : c.Filed { c with selected := none } := ⟨_, _, _, _, rfl⟩
  cases h : FileStore.first? c.store with
  | none =>
    rw [selectFirst_none h]
    exact deselected
  | some file =>
    rw [selectFirst_some h]
    exact deselected.trans (filed_selectFile ..)

theorem filed_destroyFile (uid : Nat) (c : Conductor D W) : c.Filed (c.destroyFile uid) := by
  cases h : FileStore.destroy uid c.store with
  | mk result store =>
    cases result with
    | error f =>
      rw [destroyFile_refused h]
      exact Filed.report ⟨_, _, _, _, rfl⟩ _ _
    | ok file =>
      by_cases ha : c.selected = some uid
      · rw [destroyFile_active h ha]
        exact (Filed.trans ⟨_, _, _, _, rfl⟩ (filed_selectFirst _)).emit _
      · rw [destroyFile_other h ha]
        exact Filed.emit ⟨_, _, _, _, rfl⟩ _

theorem filed_save (c : Conductor D W) : c.Filed c.save := by
  cases h : FileStore.save c.store with
  | mk result store =>
    cases result with
    | ok u =>
      rw [save_done h]
      exact ⟨_, _, _, _, rfl⟩
    | error f =>
      rw [save_refused h]
      exact Filed.report ⟨_, _, _, _, rfl⟩ _ _

theorem filed_setSource (source : String) (c : Conductor D W) : c.Filed (c.setSource source) := by
  rcases Option.eq_none_or_eq_some c.selected with hs | ⟨uid, hs⟩
  · rw [setSource_unselected hs]
    exact (Filed.refl c).report _ _
  · cases h : FileStore.update uid source c.store with
    | mk result store =>
      cases result with
      | error f =>
        rw [setSource_refused hs h]
        exact Filed.report ⟨_, _, _, _, rfl⟩ _ _
      | ok file =>
        rw [setSource_updated hs h]
        exact (Filed.emit ⟨_, _, _, _, rfl⟩ _).emit _

end Studio.Conductor
