import Mathlib.Data.List.Nodup
import Studio.Store.Workspace

/-! A workspace whose files have numbers of their own, each below what the mint hands
out next. It stays so while there is room for one more number. The first file of a
number is the only one, so replacing it is a map and taking it away a filter. -/

namespace Studio.Workspace

variable {w : Workspace} {uid : Nat} {file : ScoreFile} {files : List ScoreFile}

structure Sound (w : Workspace) : Prop where
  distinct : (w.files.map (·.uid)).Nodup
  below : ∀ file ∈ w.files, file.uid < w.mint.next

/-! ### Finding a file -/

theorem mem_of_file? (h : w.file? uid = some file) : file ∈ w.files ∧ file.uid = uid :=
  ⟨List.mem_of_find?_eq_some h, by simpa using List.find?_some h⟩

theorem file?_isSome : (w.file? uid).isSome = true ↔ ∃ file ∈ w.files, file.uid = uid := by
  simp [file?]

theorem file?_eq_none : w.file? uid = none ↔ ∀ file ∈ w.files, file.uid ≠ uid := by
  simp [file?]

theorem uid_not_mem (h : (files.map (·.uid)).Nodup) {f : ScoreFile} {fs : List ScoreFile}
    (hf : files = f :: fs) : ∀ g ∈ fs, g.uid ≠ f.uid := by
  subst hf
  intro g hg he
  exact (List.nodup_cons.1 h).1 (List.mem_map.2 ⟨g, hg, he⟩)

/-! ### The only file of a number -/

theorem replace_eq_map (file : ScoreFile) (h : (files.map (·.uid)).Nodup) :
    replace file files = files.map fun f => if f.uid = file.uid then file else f := by
  induction files with
  | nil => rfl
  | cons f fs ih =>
    by_cases hu : f.uid = file.uid
    · have hrest : fs.map (fun f => if f.uid = file.uid then file else f) = fs := by
        rw [← hu]
        exact (List.map_congr_left fun g hg => if_neg (uid_not_mem h rfl g hg)).trans
          (List.map_id fs)
      rw [replace, if_pos hu, List.map_cons, if_pos hu, hrest]
    · rw [replace, if_neg hu, List.map_cons, if_neg hu, ih (List.nodup_cons.1 h).2]

theorem eraseP_eq_filter (uid : Nat) (h : (files.map (·.uid)).Nodup) :
    files.eraseP (·.uid = uid) = files.filter (·.uid ≠ uid) := by
  induction files with
  | nil => rfl
  | cons f fs ih =>
    by_cases hu : f.uid = uid
    · have hrest : fs.filter (·.uid ≠ uid) = fs := by
        refine List.filter_eq_self.2 fun g hg => ?_
        rw [← hu]
        exact decide_eq_true (uid_not_mem h rfl g hg)
      rw [List.eraseP_cons_of_pos (by simpa using hu), List.filter_cons_of_neg (by simpa using hu),
        hrest]
    · rw [List.eraseP_cons_of_neg (by simpa using hu), List.filter_cons_of_pos (by simpa using hu),
        ih (List.nodup_cons.1 h).2]

theorem map_uid_replace (file : ScoreFile) (files : List ScoreFile) :
    (replace file files).map (·.uid) = files.map (·.uid) := by
  induction files with
  | nil => rfl
  | cons f fs ih =>
    by_cases hu : f.uid = file.uid
    · rw [replace, if_pos hu, List.map_cons, List.map_cons, hu]
    · rw [replace, if_neg hu, List.map_cons, List.map_cons, ih]

/-! ### What the store does -/

theorem destroy_missing (h : w.file? uid = none) :
    w.destroy uid = (.error (.noSuchFile uid), w) := by
  rw [destroy, h]

theorem destroy_found (h : w.file? uid = some file) :
    w.destroy uid = (.ok file, { w with files := w.files.eraseP (·.uid = uid) }) := by
  rw [destroy, h]

theorem update_missing (source : String) (h : w.file? uid = none) :
    w.update uid source = (.error (.noSuchFile uid), w) := by
  rw [update, h]

theorem update_found (source : String) (h : w.file? uid = some file) :
    w.update uid source =
      (.ok { file with source },
        { w with files := replace { file with source } w.files }) := by
  rw [update, h]

theorem file?_head {files : List ScoreFile} (h : files.head? = some file) :
    files.find? (fun f => decide (f.uid = file.uid)) = some file := by
  cases files with
  | nil => cases h
  | cons f fs =>
    cases h
    exact List.find?_cons_of_pos (decide_eq_true rfl)

theorem file?_create (h : w.Sound) (name source : String) :
    (w.create name source).2.file? w.mint.next = some (w.create name source).1 := by
  have hold : w.files.find? (fun f => decide (f.uid = w.mint.next)) = none := by
    refine List.find?_eq_none.2 fun f hf => ?_
    simpa using Nat.ne_of_lt (h.below f hf)
  simp only [file?, create, UidMint.mint, List.find?_append, hold, Option.none_or]
  simp

theorem Sound.create (h : w.Sound) (name source : String) (room : w.mint.next + 1 < uidBound) :
    (w.create name source).2.Sound where
  distinct := by
    have hnew : w.mint.next ∉ w.files.map (·.uid) := by
      intro hm
      obtain ⟨f, hf, he⟩ := List.mem_map.1 hm
      exact Nat.ne_of_lt (h.below f hf) he
    simp only [Workspace.create, UidMint.mint, List.map_append, List.map_cons, List.map_nil]
    rw [← List.concat_eq_append]
    exact h.distinct.concat hnew
  below := by
    intro f hf
    simp only [Workspace.create, UidMint.mint, Nat.mod_eq_of_lt room, List.mem_append,
      List.mem_singleton] at hf ⊢
    rcases hf with hf | rfl
    · exact Nat.lt_succ_of_lt (h.below f hf)
    · exact Nat.lt_succ_self _

theorem Sound.destroy (h : w.Sound) (uid : Nat) :
    Sound { w with files := w.files.eraseP (·.uid = uid) } where
  distinct := h.distinct.sublist ((List.eraseP_sublist ..).map _)
  below f hf := h.below f (List.mem_of_mem_eraseP hf)

theorem Sound.update (h : w.Sound) (file : ScoreFile) (hf : file.uid < w.mint.next) :
    Sound { w with files := replace file w.files } where
  distinct := by
    rw [map_uid_replace]
    exact h.distinct
  below f hm := by
    rw [replace_eq_map file h.distinct] at hm
    obtain ⟨g, hg, rfl⟩ := List.mem_map.1 hm
    split
    · exact hf
    · exact h.below g hg

end Studio.Workspace
