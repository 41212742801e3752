import Studio.Proofs.Conductor.Mirror
import Studio.Proofs.Conductor.Relay

/-! When an action reports an error, and what it has done by then. Apart from rendering and
playing, an action meets its obstacle before it does anything, so it either goes through
without an error or reports one and is over (`Verdict`). That replacing a source has no other
obstacle than an empty selection takes an invariant: what is selected is there. -/

namespace Studio

/-- The action looks after the files. -/
def Action.tends : Action → Bool
  | addFile | destroyFile _ | selectFile _ | save | setSource _ => true
  | _ => false

namespace Conductor

/-! ### The template -/

section Template

variable {D W : Type}

/-- No library has a template of the name that is set. -/
def NoTemplate (c : Conductor D W) : Prop :=
  ∀ l ∈ c.libraries, l.templates.get? c.settings.newFileTemplate = none

/-- This is the template in the first library that has one of the name that is set. -/
def FirstTemplate (c : Conductor D W) (t : Excerpt) : Prop :=
  ∃ before l after, c.libraries = before ++ l :: after ∧
    (∀ earlier ∈ before, earlier.templates.get? c.settings.newFileTemplate = none) ∧
    l.templates.get? c.settings.newFileTemplate = some t

theorem FirstTemplate.not_noTemplate {c : Conductor D W} {t : Excerpt} (h : c.FirstTemplate t) :
    ¬ c.NoTemplate := by
  obtain ⟨before, l, after, hs, -, ht⟩ := h
  intro hn
  have hl : l ∈ c.libraries := hs ▸ List.mem_append_right _ (.head _)
  rw [hn l hl] at ht
  cases ht

theorem template_cases (c : Conductor D W) :
    c.NoTemplate ∧ c.template = .error (.noTemplate c.settings.newFileTemplate) ∨
      ∃ t, c.FirstTemplate t ∧ c.template = .ok t := by
  unfold template
  dsimp only
  cases h : c.libraries.findSome? fun l => l.templates.get? c.settings.newFileTemplate with
  | none => exact .inl ⟨List.findSome?_eq_none_iff.1 h, rfl⟩
  | some t =>
    obtain ⟨before, l, after, hs, ht, hn⟩ := List.findSome?_eq_some_iff.1 h
    exact .inr ⟨t, ⟨before, l, after, hs, hn, ht⟩, rfl⟩

end Template

/-! ### A file that is added -/

section Added

variable {D : Type} {c : Conductor D Workspace} {t : Excerpt}

/-- The file is at the end of the list, so there is one to select. -/
theorem exists_added (c : Conductor D Workspace) (name source : String) :
    ∃ found, (c.store.create name source).2.file? c.store.mint.next = some found := by
  refine Option.isSome_iff_exists.1 (Workspace.file?_isSome.2 ?_)
  exact ⟨_, List.mem_append_right _ (.head _), rfl⟩

theorem desk_addFile (ht : c.template = .ok t) :
    c.addFile.desk =
      ((c.store.create (FileName.make c.random).1 t.source).2, some c.store.mint.next) := by
  obtain ⟨found, hf⟩ := exists_added c (FileName.make c.random).1 t.source
  rw [addFile_created ht rfl, selectFile_emit hf, desk_emit]
  exact Prod.ext (emit_store _ _) rfl

theorem emitted_addFile (ht : c.template = .ok t) :
    ∃ file found, emitted addFile c = [.fileCreated file, .fileSelected found] := by
  obtain ⟨found, hf⟩ := exists_added c (FileName.make c.random).1 t.source
  exact ⟨_, found, emitted_addFile_created ht rfl hf⟩

end Added

/-! ### The selection -/

/-- What is selected is a file of the workspace. -/
def SelectsFile {D : Type} (c : Conductor D Workspace) : Prop :=
  ∀ uid ∈ c.selected, uid ∈ c.store.files.map (·.uid)

section Selection

variable {D : Type} {c c' : Conductor D Workspace}

theorem SelectsFile.of_desk (h : c.SelectsFile) (hd : c'.desk = c.desk) : c'.SelectsFile := by
  obtain ⟨hw, hs⟩ := Prod.mk.inj hd
  unfold SelectsFile
  rw [hw, hs]
  exact h

theorem SelectsFile.addFile (h : c.SelectsFile) : c.addFile.SelectsFile := by
  rcases c.template_cases with ⟨-, ht⟩ | ⟨t, -, ht⟩
  · rw [addFile_noTemplate ht]
    exact h.of_desk (desk_report ..)
  · obtain ⟨hw, hs⟩ := Prod.mk.inj (desk_addFile ht)
    unfold SelectsFile
    rw [hw, hs]
    rintro uid ⟨⟩
    exact List.mem_map.2 ⟨_, List.mem_append_right _ (.head _), rfl⟩

theorem SelectsFile.perform {c : Conductor SilentDevice Workspace} (h : c.SelectsFile)
    (a : Action) : (a.perform c).SelectsFile := by
  cases a with
  | render => exact h.of_desk (desk_render c)
  | play => exact h.of_desk (desk_play c)
  | pause => exact h.of_desk (desk_pause c)
  | stop => exact h.of_desk (desk_stop c)
  | dispatch => exact h.of_desk (desk_dispatch c)
  | addFile => exact h.addFile
  | destroyFile uid => exact (files_destroyFile uid).named h
  | selectFile uid => exact (files_selectFile uid).named h
  | save => exact files_save.named h
  | setSource source => exact (files_setSource source).named h
  | configure change => exact h
  | failNextStart => exact h
  | advance p => exact h
  | loop => exact h

end Selection

/-! ### Obstacles -/

variable {c : Conductor SilentDevice Workspace} {a : Action}

/-- What stands in the way of the action. -/
def Obstacle : Action → Conductor SilentDevice Workspace → Prop
  | .addFile, c => c.NoTemplate
  | .destroyFile uid, c => ∀ file ∈ c.store.files, file.uid ≠ uid
  | .selectFile uid, c => ∀ file ∈ c.store.files, file.uid ≠ uid
  | .setSource _, c => c.selected = none
  | .render, c => c.ending.fails = true
  | .play, c => c.ending.fails = true
  | _, _ => False

/-- The action reports its obstacle and nothing else, or there is none and it reports no
error. -/
inductive Verdict (a : Action) (c : Conductor SilentDevice Workspace) : Prop
  | failed (obstacle : Obstacle a c) (message : String) (cause : Fault)
      (reported : a.perform c = c.report message cause)
  | done (clear : ¬ Obstacle a c) (silent : a.fails c = false)

theorem not_fails_of_emitted {es : List Event} (he : emitted a.perform c = es)
    (silent : es.any (·.topic = .error) = false) : a.fails c = false := by
  rw [Action.fails, he]
  exact silent

theorem Reports.not_fails {topics : List Topic} (h : Reports topics (W := Workspace) a.perform)
    (ht : .error ∉ topics) (c : Conductor SilentDevice Workspace) : a.fails c = false := by
  refine List.any_eq_false.2 fun e he htopic => ht ?_
  rw [← of_decide_eq_true htopic]
  exact h.about c e he

section Files

variable (c : Conductor SilentDevice Workspace)

theorem verdict_addFile : Verdict .addFile c := by
  rcases c.template_cases with ⟨hn, ht⟩ | ⟨t, hfirst, ht⟩
  · exact .failed hn _ _ (addFile_noTemplate ht)
  · obtain ⟨file, found, he⟩ := emitted_addFile ht
    exact .done hfirst.not_noTemplate (not_fails_of_emitted he rfl)

theorem verdict_selectFile (uid : Nat) : Verdict (.selectFile uid) c := by
  cases h : c.store.file? uid with
  | none => exact .failed (Workspace.file?_eq_none.1 h) _ _ (selectFile_absent h)
  | some file =>
    obtain ⟨hm, hu⟩ := Workspace.mem_of_file? h
    have he := emitted_selectFile_present (c := c) h
    exact .done (fun hn => hn file hm hu) (not_fails_of_emitted he rfl)

theorem verdict_destroyFile (uid : Nat) : Verdict (.destroyFile uid) c := by
  cases h : c.store.file? uid with
  | none =>
    have hd : FileStore.destroy uid c.store = (.error (.noSuchFile uid), c.store) :=
      Workspace.destroy_missing h
    exact .failed (Workspace.file?_eq_none.1 h) _ _ (destroyFile_refused hd)
  | some file =>
    obtain ⟨hm, hu⟩ := Workspace.mem_of_file? h
    have hd := Workspace.destroy_found h
    refine .done (fun hn => hn file hm hu) ?_
    by_cases ha : c.selected = some uid
    · have he := emitted_destroyFile_active hd ha
      -- The file to be selected now is the oldest one left, so selecting it does not fail.
      cases hfirst : (c.store.files.eraseP (·.uid = uid)).head? with
      | none =>
        rw [emitted_selectFirst_none hfirst] at he
        exact not_fails_of_emitted he rfl
      | some next =>
        rw [emitted_selectFirst_some hfirst (Workspace.file?_head hfirst)] at he
        exact not_fails_of_emitted he rfl
    · exact not_fails_of_emitted (emitted_destroyFile_other hd ha) rfl

variable {c}

theorem SelectsFile.verdict_setSource (h : c.SelectsFile) (source : String) :
    Verdict (.setSource source) c := by
  rcases Option.eq_none_or_eq_some c.selected with hs | ⟨uid, hs⟩
  · exact .failed hs _ _ (setSource_unselected hs)
  · obtain ⟨file, hf⟩ := Option.isSome_iff_exists.1
      (Workspace.file?_isSome.2 (List.mem_map.1 (h uid hs)))
    have he := emitted_setSource_updated hs (Workspace.update_found source hf)
    refine .done (fun hn => ?_) (not_fails_of_emitted he rfl)
    rw [hn] at hs
    cases hs

/-! Over this device and this store the rest have nothing to fail on. -/

theorem reports_pause : Reports [] (D := SilentDevice) (W := Workspace) pause :=
  .chosen fun c => ⟨_, (Reports.withDevice c.device.pause).comp (.advanceStage _ _),
    fun _ _ => pause_done rfl⟩

theorem reports_stop : Reports [.position] (D := SilentDevice) (W := Workspace) stop :=
  .chosen fun c => ⟨_, ((Reports.withDevice c.device.stop).comp (.advanceStage _ _)).comp
    (.emit (.position .zero) (.head _)), fun _ _ => stop_done rfl⟩

theorem reports_save : Reports [] (D := SilentDevice) (W := Workspace) save :=
  .chosen fun c => ⟨_, .withStore c.store.save, fun _ _ => save_done rfl⟩

/-- Every action but rendering and playing comes to a verdict. -/
theorem SelectsFile.verdict (h : c.SelectsFile) (hn : a.asks = false) : Verdict a c := by
  have silent (hr : .error ∉ a.topics) : a.fails c = false := a.reports_perform.not_fails hr c
  cases a with
  | render | play => cases hn
  | addFile => exact verdict_addFile c
  | destroyFile uid => exact verdict_destroyFile c uid
  | selectFile uid => exact verdict_selectFile c uid
  | setSource source => exact h.verdict_setSource source
  | pause => exact .done id (Reports.not_fails (a := .pause) reports_pause nofun c)
  | stop => exact .done id (Reports.not_fails (a := .stop) reports_stop (by decide) c)
  | save => exact .done id (Reports.not_fails (a := .save) reports_save nofun c)
  | dispatch => exact .done id (silent (by decide))
  | configure change => exact .done id (silent nofun)
  | failNextStart => exact .done id (silent nofun)
  | advance p => exact .done id (silent nofun)
  | loop => exact .done id (silent nofun)

end Files

/-! ### What follows from a verdict -/

namespace Verdict

theorem emitted_of_reported {message : String} {cause : Fault} (hb : c.bus.Complete)
    (reported : a.perform c = c.report message cause) :
    emitted a.perform c = [.error message cause] := by
  have hr := a.reports_perform.events c hb
  rw [reported, report_events hb] at hr
  exact (List.append_cancel_left hr).symm

theorem fails_iff (h : Verdict a c) (hb : c.bus.Complete) : a.fails c = true ↔ Obstacle a c := by
  cases h with
  | failed obstacle message cause reported =>
    rw [Action.fails, emitted_of_reported hb reported]
    exact iff_of_true rfl obstacle
  | done clear silent =>
    rw [silent]
    exact iff_of_false Bool.false_ne_true clear

theorem errors_le_one (h : Verdict a c) (hb : c.bus.Complete) :
    (emitted a.perform c).countP (·.topic = .error) ≤ 1 := by
  cases h with
  | failed _ message cause reported =>
    rw [emitted_of_reported hb reported]
    exact Nat.le_refl 1
  | done _ silent =>
    rw [List.countP_eq_zero.2 (List.any_eq_false.1 silent)]
    exact Nat.zero_le 1

/-- One who reports an error reports it alone and has changed nothing. -/
theorem of_fails (h : Verdict a c) (hf : a.fails c = true) (hb : c.bus.Complete) :
    (∃ message cause, (a.perform c).out.events = c.out.events ++ [.error message cause]) ∧
      (a.perform c).quiet = c.quiet := by
  cases h with
  | failed _ message cause reported =>
    rw [reported]
    exact ⟨⟨message, cause, report_events hb⟩, quiet_report message cause c⟩
  | done _ silent =>
    rw [silent] at hf
    cases hf

end Verdict

/-! ### Every action -/

namespace SelectsFile

/-- An action reports an error just when something stands in its way. -/
theorem fails_iff (h : c.SelectsFile) (hb : c.bus.Complete) (a : Action) :
    a.fails c = true ↔ Obstacle a c := by
  cases ha : a.asks with
  | false => exact (h.verdict ha).fails_iff hb
  | true =>
    rw [fails_of_asks ha hb]
    cases a with
    | render | play => rfl
    | _ => cases ha

/-- No action reports a second one. -/
theorem errors_le_one (h : c.SelectsFile) (hb : c.bus.Complete) (a : Action) :
    (emitted a.perform c).countP (·.topic = .error) ≤ 1 := by
  cases ha : a.asks with
  | false => exact (h.verdict ha).errors_le_one hb
  | true =>
    obtain ⟨message, cause, he⟩ := Action.emitted_of_asks ha hb
    rw [he, Ending.block_errors]
    cases c.ending.fails <;> decide

end SelectsFile

/-- Whatever state has been reached, an action reports one error at most: adding a file for want
of a template, deleting and selecting one for want of the file, replacing a source for want of
a selection; pausing, stopping, saving and dispatching report none. A file action that reports
an error emits nothing else and changes nothing. One that adds a file takes the template of the
first library that has one. -/
theorem file_failures_change_nothing (settings : Settings) (libraries : List Library)
    (device : SilentDevice) (random : Random) (w : Workspace) (listeners : Channel → List Nat)
    (actions : List Action) :
    let start : Conductor SilentDevice Workspace :=
      { settings, libraries, device, random, store := w
        bus := ⟨Channel.all.map fun channel => (channel, listeners channel)⟩ }
    let c := run actions start
    (∀ a : Action,
      (a.perform c).out.events = c.out.events ++ emitted a.perform c ∧
        (emitted a.perform c).countP (·.topic = .error) ≤ 1) ∧
      (Action.addFile.fails c = true ↔ c.NoTemplate) ∧
      (∀ uid, (Action.destroyFile uid).fails c = true ↔ ∀ file ∈ c.store.files, file.uid ≠ uid) ∧
      (∀ uid, (Action.selectFile uid).fails c = true ↔ ∀ file ∈ c.store.files, file.uid ≠ uid) ∧
      (∀ source, (Action.setSource source).fails c = true ↔ c.selected = none) ∧
      (∀ a ∈ [Action.pause, .stop, .save, .dispatch], a.fails c = false) ∧
      (∀ a : Action, a.tends = true → a.fails c = true →
        (∃ message cause, (a.perform c).out.events = c.out.events ++ [.error message cause]) ∧
          (a.perform c).quiet = c.quiet) ∧
      (Action.addFile.fails c = false →
        ∃ t file, c.FirstTemplate t ∧ c.addFile.store.files = c.store.files ++ [file] ∧
          c.addFile.selected = some file.uid ∧ file.source = t.source) := by
  intro start c
  have hs : start.bus.Complete := Bus.complete_all listeners
  have hb : c.bus.Complete := complete_run actions hs
  have launched : start.SelectsFile := nofun
  have hc : c.SelectsFile :=
    run_keeps (P := fun c => c.SelectsFile) (fun a _ h => h.perform a) actions launched
  have fails_iff (a : Action) : a.fails c = true ↔ Obstacle a c := hc.fails_iff hb a
  refine ⟨fun a => ⟨a.reports_perform.events c hb, hc.errors_le_one hb a⟩, fails_iff .addFile,
    fun uid => fails_iff (.destroyFile uid), fun uid => fails_iff (.selectFile uid),
    fun source => fails_iff (.setSource source), ?_, ?_, ?_⟩
  · intro a ha
    have clear : ¬ Obstacle a c := by
      simp only [List.mem_cons, List.not_mem_nil, or_false] at ha
      rcases ha with rfl | rfl | rfl | rfl <;> exact id
    exact Bool.eq_false_iff.2 fun hf => clear ((fails_iff a).1 hf)
  · intro a ha hf
    have hn : a.asks = false := by
      cases a with
      | render | play => cases ha
      | _ => rfl
    exact (hc.verdict hn).of_fails hf hb
  · intro hf
    rcases c.template_cases with ⟨hn, -⟩ | ⟨t, hfirst, ht⟩
    · rw [(fails_iff .addFile).2 hn] at hf
      cases hf
    · obtain ⟨hw, hselected⟩ := Prod.mk.inj (desk_addFile ht)
      refine ⟨t, (c.store.create (FileName.make c.random).1 t.source).1, hfirst, ?_, hselected, rfl⟩
      rw [hw]
      rfl

end Conductor

end Studio
