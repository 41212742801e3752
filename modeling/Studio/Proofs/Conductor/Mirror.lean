import Studio.Proofs.Conductor.Filing

/-! A client's mirror of the files. It starts as a copy of the list and learns the rest
from the events about files alone. `Mirrored` says that it shows files and selection as
they are; every deed keeps this, so it holds along every course. -/

namespace Studio

/-- What a client knows of the files. -/
structure Mirror where
  files : List ScoreFile
  selected : Option Nat := none
  deriving Repr, DecidableEq

namespace Mirror

def hear (m : Mirror) : Event → Mirror
  | .fileCreated file => { m with files := m.files ++ [file] }
  | .fileUpdated file =>
    { m with files := m.files.map fun f => if f.uid = file.uid then file else f }
  | .fileSelected file => { m with selected := some file.uid }
  | .fileDestroyed file =>
    { files := m.files.filter (·.uid ≠ file.uid)
      selected := if m.selected = some file.uid then none else m.selected }
  | _ => m

/-- The file that the mirror has as the selected one. -/
def activeFile (m : Mirror) : Option ScoreFile :=
  m.selected.bind fun uid => m.files.find? (·.uid = uid)

theorem hear_other {e : Event} (m : Mirror) (h : e.topic ≠ .file) : m.hear e = m := by
  cases e with
  | fileSelected | fileCreated | fileDestroyed | fileUpdated => exact absurd rfl h
  | _ => rfl

end Mirror

def Channel.files : List Channel := [.fileSelected, .fileCreated, .fileDestroyed, .fileUpdated]

theorem Event.channel_mem_files {e : Event} (h : e.topic = .file) : e.channel ∈ Channel.files := by
  cases e with
  | fileSelected | fileCreated | fileDestroyed | fileUpdated => simp [channel, Channel.files]
  | _ => cases h

/-! ### What becomes of the files, and of their mirror -/

namespace Filing

variable {w w' : Workspace} {selected selected' : Option Nat} {es : List Event}

theorem sound (h : Filing w selected es w' selected') (hw : w.Sound)
    (room : ∀ file ∈ w'.files, file.uid + 1 < uidBound) : w'.Sound := by
  cases h with
  | kept => exact hw
  | saved => exact ⟨hw.distinct, hw.below⟩
  | created name source => exact hw.create name source (room _ (List.mem_append_right _ (.head _)))
  | selected => exact hw
  | updated source found =>
    exact hw.update _ (hw.below _ (Workspace.mem_of_file? found).1 :)
  | destroyed => exact hw.destroy _
  | passed => exact hw.destroy _
  | emptied => exact hw.destroy _

/-- The selection goes on naming a file. -/
theorem named (h : Filing w selected es w' selected')
    (hs : ∀ uid ∈ selected, uid ∈ w.files.map (·.uid)) :
    ∀ uid ∈ selected', uid ∈ w'.files.map (·.uid) := by
  cases h with
  | kept => exact hs
  | saved => exact hs
  | created name source =>
    rintro uid ⟨⟩
    exact List.mem_map.2 ⟨_, List.mem_append_right _ (.head _), rfl⟩
  | selected found =>
    rintro uid ⟨⟩
    exact List.mem_map.2 ⟨_, (Workspace.mem_of_file? found).1, rfl⟩
  | updated source found =>
    rw [Workspace.map_uid_replace]
    exact hs
  | destroyed found other =>
    intro uid hu
    obtain ⟨f, hf, rfl⟩ := List.mem_map.1 (hs uid hu)
    have hne : f.uid ≠ _ := fun he => other (hu.trans (congrArg some he))
    exact List.mem_map.2 ⟨f, (List.mem_eraseP_of_neg (by simpa using hne)).2 hf, rfl⟩
  | passed found active first =>
    rintro uid ⟨⟩
    exact List.mem_map.2 ⟨_, List.mem_of_head? first, rfl⟩
  | emptied => exact nofun

/-- Where files without a selection are ruled out, they stay so. -/
theorem settled (h : Filing w selected es w' selected') (hs : selected = none → w.files = []) :
    selected' = none → w'.files = [] := by
  cases h with
  | kept => exact hs
  | saved => exact hs
  | created name source => exact nofun
  | selected found => exact nofun
  | updated source found =>
    intro hn
    rw [hs hn]
    rfl
  | destroyed found other =>
    intro hn
    rw [hs hn]
    rfl
  | passed => exact nofun
  | emptied found active first => exact fun _ => List.head?_eq_none_iff.1 first

/-- A mirror that showed the files before shows them after its events. -/
theorem hear (h : Filing w selected es w' selected') (hw : w.Sound) :
    es.foldl Mirror.hear ⟨w.files, selected⟩ = ⟨w'.files, selected'⟩ := by
  cases h with
  | kept => rfl
  | saved => rfl
  | created name source => rfl
  | selected found => rfl
  | updated source found =>
    rw [Workspace.replace_eq_map _ hw.distinct]
    rfl
  | destroyed found other =>
    rw [Workspace.eraseP_eq_filter _ hw.distinct]
    exact congrArg (Mirror.mk _) (if_neg other)
  | passed found active first =>
    rw [Workspace.eraseP_eq_filter _ hw.distinct] at first ⊢
    have hm := (List.mem_filter.1 (List.mem_of_head? first)).2
    exact congrArg (Mirror.mk _) (if_neg fun he => of_decide_eq_true hm (Option.some.inj he))
  | emptied found active first =>
    rw [Workspace.eraseP_eq_filter _ hw.distinct]
    exact congrArg (Mirror.mk _) (if_pos active)

end Filing

/-! ### What a listener hears -/

namespace Conductor

variable {D W : Type}

/-- Who listens once to each channel about files learns what is emitted about files. -/
theorem hear_heard {topics : List Topic} {f : Conductor D W → Conductor D W}
    (h : Reports topics f) {c : Conductor D W} {listener : Nat}
    (listens : ∀ channel ∈ Channel.files, c.bus.times listener channel = 1) (m : Mirror) :
    ((f c).heard listener).foldl Mirror.hear m =
      ((emitted f c).filter (·.topic = .file)).foldl Mirror.hear
        ((c.heard listener).foldl Mirror.hear m) := by
  rw [h.heard, List.foldl_append]
  generalize (c.heard listener).foldl Mirror.hear m = m
  generalize emitted f c = es
  induction es generalizing m with
  | nil => rfl
  | cons e es ih =>
    rw [List.flatMap_cons, List.foldl_append, ih]
    by_cases he : e.topic = .file
    · rw [listens _ (Event.channel_mem_files he), List.filter_cons_of_pos (by simpa using he)]
      rfl
    · have hn (n : Nat) : (List.replicate n e).foldl Mirror.hear m = m := by
        induction n with
        | zero => rfl
        | succ n ih => rw [List.replicate_succ, List.foldl_cons, Mirror.hear_other m he, ih]
      rw [hn, List.filter_cons_of_neg (by simpa using he)]

/-! ### Courses -/

variable [AudioDevice D]

/-- The conductor at the start, and after every deed. -/
def course [FileStore W] : List (Deed D) → Conductor D W → List (Conductor D W)
  | [], c => [c]
  | d :: deeds, c => c :: course deeds (d.perform c)

/-- The listener's mirror, begun with the given files, shows files and selection. -/
structure Mirrored (files : List ScoreFile) (listener : Nat) (c : Conductor D Workspace) :
    Prop where
  shows : (c.heard listener).foldl Mirror.hear ⟨files, none⟩ = ⟨c.store.files, c.selected⟩
  sound : c.store.Sound
  listens : ∀ channel ∈ Channel.files, c.bus.times listener channel = 1
  named : ∀ uid ∈ c.selected, uid ∈ c.store.files.map (·.uid)
  settled : files = [] → c.selected = none → c.store.files = []

theorem Mirrored.perform {files : List ScoreFile} {listener : Nat} {c : Conductor D Workspace}
    (h : Mirrored files listener c) (d : Deed D)
    (room : ∀ file ∈ (d.perform c).store.files, file.uid + 1 < uidBound) :
    Mirrored files listener (d.perform c) := by
  have hf := files_perform d h.sound
  refine ⟨?_, hf.sound h.sound room, ?_, hf.named h.named, fun he => hf.settled (h.settled he)⟩
  · rw [hear_heard d.reports h.listens, h.shows]
    exact hf.hear h.sound
  · rw [d.reports.bus]
    exact h.listens

theorem Mirrored.course {files : List ScoreFile} {listener : Nat} {c : Conductor D Workspace}
    (h : Mirrored files listener c) (deeds : List (Deed D))
    (room : ∀ c' ∈ course deeds c, ∀ file ∈ c'.store.files, file.uid + 1 < uidBound) :
    ∀ c' ∈ Conductor.course deeds c, Mirrored files listener c' := by
  induction deeds generalizing c with
  | nil =>
    intro c' hc
    rw [List.mem_singleton.1 hc]
    exact h
  | cons d deeds ih =>
    have hd : Mirrored files listener (d.perform c) :=
      h.perform d (room _ (List.mem_cons_of_mem _ (by cases deeds <;> exact .head _)))
    exact List.forall_mem_cons.2 ⟨h, ih hd fun c' hc => room c' (List.mem_cons_of_mem _ hc)⟩

omit [AudioDevice D] in
theorem Mirrored.activeFile_isSome_iff {listener : Nat} {c : Conductor D Workspace}
    (h : Mirrored [] listener c) : c.activeFile.isSome = true ↔ c.store.files ≠ [] := by
  rw [activeFile]
  cases hs : c.selected with
  | none =>
    rw [h.settled rfl hs]
    exact iff_of_false Bool.false_ne_true (fun hn => hn rfl)
  | some uid =>
    obtain ⟨file, hf, hu⟩ := List.mem_map.1 (h.named uid hs)
    exact iff_of_true (Workspace.file?_isSome.2 ⟨file, hf, hu⟩) (List.ne_nil_of_mem hf)

/-- The events about files are a complete account of them. Whoever listens once to each
channel about files has a mirror that shows list and selection after every deed; the
selection names a file, and where there were no files at first one is selected exactly
when there is one. -/
theorem file_events_mirror_workspace (settings : Settings) (libraries : List Library) (device : D)
    (bus : Bus) (random : Random) (w : Workspace) (listener : Nat) (deeds : List (Deed D))
    (sound : w.Sound) (listens : ∀ channel ∈ Channel.files, bus.times listener channel = 1)
    (room : ∀ c ∈ course deeds { settings, libraries, device, store := w, bus, random },
      ∀ file ∈ c.store.files, file.uid + 1 < uidBound) :
    ∀ c ∈ course deeds { settings, libraries, device, store := w, bus, random },
      let mirror := (c.heard listener).foldl Mirror.hear ⟨w.files, none⟩
      mirror.files = c.store.files ∧
        mirror.selected = c.selected ∧
        mirror.activeFile = c.activeFile ∧
        (∀ uid, c.selected = some uid → ∃ file ∈ c.store.files, file.uid = uid) ∧
        (w.files = [] → (c.activeFile.isSome = true ↔ c.store.files ≠ [])) := by
  intro c hc mirror
  have hstart : Mirrored w.files listener
      { settings, libraries, device, store := w, bus, random } :=
    ⟨rfl, sound, listens, nofun, fun he _ => he⟩
  have hm : Mirrored w.files listener c := hstart.course deeds room c hc
  have hmirror : mirror = ⟨c.store.files, c.selected⟩ := hm.shows
  rw [hmirror]
  refine ⟨rfl, rfl, rfl, ?_, ?_⟩
  · intro uid hu
    exact List.mem_map.1 (hm.named uid hu)
  · intro he
    rw [he] at hm
    exact hm.activeFile_isSome_iff

theorem file_events_mirror_two_files :
    let start : Conductor SilentDevice Workspace :=
      { novice with
        store := { mint := ⟨8⟩, files := [⟨3, "Chaconne", "x"⟩, ⟨7, "Gigue", "y"⟩] }
        bus := ⟨Channel.all.map fun channel => (channel, [5])⟩ }
    let deeds : List (Deed SilentDevice) :=
      [.input (.selectFile 7), .input (.setSource "z"), .input .render, .input .addFile,
        .input (.destroyFile 8), .input (.destroyFile 8), .input (.destroyFile 7), .dispatch]
    ∀ c ∈ course deeds start,
      let mirror := (c.heard 5).foldl Mirror.hear ⟨start.store.files, none⟩
      mirror.files = c.store.files ∧
        mirror.selected = c.selected ∧
        mirror.activeFile = c.activeFile ∧
        (∀ uid, c.selected = some uid → ∃ file ∈ c.store.files, file.uid = uid) ∧
        (start.store.files = [] → (c.activeFile.isSome = true ↔ c.store.files ≠ [])) :=
  file_events_mirror_workspace _ _ _ _ _ _ 5 _ ⟨by decide, by decide⟩ (by decide)
    (by decide +kernel)

end Conductor

end Studio
