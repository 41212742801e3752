import Studio.Proofs.Uid.Minting
import Studio.Store.Workspace

/-! What a workspace keeps of itself in its text: the files, and the number that is minted
next. When the text is loaded, the mint is told of the files. If it is past their numbers
anyway, they and it are restored as they were. -/

namespace Studio

open Json

/-! ### Telling the mint -/

namespace UidMint

theorem notice_of_lt {m : UidMint} {uid : Nat} (h : uid < m.next) : m.notice uid = m := by
  rw [notice, Nat.max_eq_left h]

variable {files : List ScoreFile}

/-- After it was told of files, the mint is past them and not behind itself. -/
theorem lt_noticed (files : List ScoreFile) (m : UidMint) :
    m.next ≤ (files.foldl (fun mint file => mint.notice file.uid) m).next ∧
      ∀ file ∈ files, file.uid < (files.foldl (fun mint file => mint.notice file.uid) m).next := by
  induction files generalizing m with
  | nil => exact ⟨Nat.le_refl _, List.forall_mem_nil _⟩
  | cons f fs ih =>
    obtain ⟨hmint, hfiles⟩ := ih (m.notice f.uid)
    rw [notice] at hmint
    rw [List.foldl_cons]
    exact ⟨Nat.le_trans (Nat.le_max_left ..) hmint,
      List.forall_mem_cons.2 ⟨Nat.lt_of_lt_of_le (Nat.le_max_right ..) hmint, hfiles⟩⟩

/-- A mint that is past all files learns nothing. -/
theorem noticed_eq {m : UidMint} (h : ∀ file ∈ files, file.uid < m.next) :
    files.foldl (fun mint file => mint.notice file.uid) m = m := by
  induction files with
  | nil => rfl
  | cons f fs ih =>
    obtain ⟨hf, hfs⟩ := List.forall_mem_cons.1 h
    rw [List.foldl_cons, notice_of_lt hf, ih hfs]

end UidMint

/-! ### Texts of workspaces -/

theorem ScoreFile.readsBack {file : ScoreFile} (h : file.uid < uidBound) :
    ReadsBack 1 (Persisted.schema ScoreFile).reader (Persisted.toValue file) :=
  .record "FileRecord" (by decide)
    (.member ((ReadsBack.whole "usize" h (Nat.le_refl _))) rfl
      (.member (.text file.name) rfl (.member (.text file.source) rfl .nil)))

namespace Workspace

variable {w : Workspace}

/-- The mint is past the numbers of the files, and there is room for its own. -/
structure Ahead (w : Workspace) : Prop where
  below : ∀ file ∈ w.files, file.uid < w.mint.next
  room : w.mint.next < uidBound

theorem Ahead.readsBack (h : w.Ahead) :
    ReadsBack 3 (Persisted.schema Workspace).reader (Persisted.toValue w) := by
  refine .record "MemoryWorkspace" (by decide)
    (.member ((UidMint.readsBack h.room).mono (by decide)) rfl
      (.member (.list_map fun file hfile => ?_) rfl .nil))
  exact ScoreFile.readsBack (Nat.lt_trans (h.below file hfile) h.room)

/-- The workspace without the text of its last save. -/
def bare (w : Workspace) : Workspace := { w with saved := none }

/-- Loading restores all but the text of the last save. -/
theorem Ahead.ofText_text (h : w.Ahead) : ofText w.text = .ok w.bare := by
  have hread : (Json.read w.text : Except ReadError Workspace) =
      .ok (Persisted.ofValue (Persisted.toValue w)) :=
    read_write .compact h.readsBack (by decide)
  have hvalue : (Persisted.ofValue (Persisted.toValue w) : Workspace) = w.bare := by
    show Workspace.mk w.mint ((w.files.map Persisted.toValue).map Persisted.ofValue) none = w.bare
    rw [map_ofValue_toValue fun _ : ScoreFile => rfl]
    rfl
  have hnotice : w.bare.noticeFiles = w.bare := by
    show { w.bare with mint := w.files.foldl (fun mint file => mint.notice file.uid) w.mint } =
      w.bare
    rw [UidMint.noticed_eq h.below]
    rfl
  rw [ofText, hread, hvalue]
  exact congrArg Except.ok hnotice

/-- What is loaded from a text mints numbers past those of its files. -/
theorem lt_next_of_ofText {text : String} (h : ofText text = .ok w) :
    ∀ file ∈ w.files, file.uid < w.mint.next := by
  rw [ofText, mapError_eq_ok_iff, map_eq_ok_iff] at h
  obtain ⟨read, -, rfl⟩ := h
  exact (UidMint.lt_noticed read.files read.mint).2

end Workspace

end Studio
