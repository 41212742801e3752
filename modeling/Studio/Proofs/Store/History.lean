import Mathlib.Data.List.Induction
import Studio.Proofs.Store.Text
import Studio.Proofs.Store.Workspace

/-! A workspace over a history of calls, some of which go back to the last save. The text
of a save restores the workspace that was saved, so a history comes to the same as if the
workspace itself had been set aside. Its files stand in the order of their numbers, and a
number is minted once, unless the mint that knew of it was undone by going back. -/

namespace Studio.Workspace

open Json

variable {w : Workspace} {file : ScoreFile}

/-! ### Files in order -/

/-- The files stand in the order of their numbers, below those to come. -/
structure Ordered (w : Workspace) : Prop extends Ahead w where
  increasing : (w.files.map (·.uid)).Pairwise (· < ·)

namespace Ordered

theorem sound (h : w.Ordered) : w.Sound := ⟨h.increasing.imp Nat.ne_of_lt, h.below⟩

theorem create (h : w.Ordered) (name source : String) (room : w.mint.next + 1 < uidBound) :
    (w.create name source).2.Ordered where
  below := (h.sound.create name source room).below
  room := by
    show (w.mint.next + 1) % uidBound < uidBound
    rwa [Nat.mod_eq_of_lt room]
  increasing := by
    show ((w.files ++ [(w.create name source).1]).map ScoreFile.uid).Pairwise (· < ·)
    rw [List.map_append, List.pairwise_append]
    refine ⟨h.increasing, List.pairwise_singleton .., fun old hold new hnew => ?_⟩
    obtain ⟨f, hf, rfl⟩ := List.mem_map.1 hold
    rw [List.mem_singleton.1 hnew]
    exact h.below f hf

theorem destroy (h : w.Ordered) (uid : Nat) : (w.destroy uid).2.Ordered := by
  cases hf : w.file? uid with
  | none =>
    rw [destroy_missing hf]
    exact h
  | some file =>
    rw [destroy_found hf]
    exact ⟨⟨(h.sound.destroy uid).below, h.room⟩,
      h.increasing.sublist ((List.eraseP_sublist ..).map _)⟩

theorem update (h : w.Ordered) (uid : Nat) (source : String) :
    (w.update uid source).2.Ordered := by
  cases hf : w.file? uid with
  | none =>
    rw [update_missing source hf]
    exact h
  | some file =>
    rw [update_found source hf]
    have hbelow := h.sound.update { file with source } (h.below file (mem_of_file? hf).1)
    refine ⟨⟨hbelow.below, h.room⟩, ?_⟩
    rw [map_uid_replace]
    exact h.increasing

theorem file?_of_mem (h : w.Ordered) (hf : file ∈ w.files) : w.file? file.uid = some file := by
  obtain ⟨found, hfound⟩ := Option.isSome_iff_exists.1 (file?_isSome.2 ⟨file, hf, rfl⟩)
  obtain ⟨hmem, huid⟩ := mem_of_file? hfound
  rw [hfound, List.inj_on_of_nodup_map h.sound.distinct hmem hf huid]

/-- The first file is the oldest one, that of the least number. -/
theorem first?_eq_some_iff (h : w.Ordered) :
    FileStore.first? w = some file ↔
      file ∈ w.files ∧ ∀ other ∈ w.files, file.uid ≤ other.uid := by
  have hincreasing := h.increasing
  obtain ⟨mint, files, saved⟩ := w
  show files.head? = some file ↔ _
  cases files with
  | nil => exact iff_of_false nofun fun h => nomatch h.1
  | cons f fs =>
    obtain ⟨hf, -⟩ := List.pairwise_cons.1 hincreasing
    have hless : ∀ other ∈ fs, f.uid < other.uid := fun other ho =>
      hf other.uid (List.mem_map_of_mem ho)
    constructor
    · rintro ⟨⟩
      exact ⟨.head _, List.forall_mem_cons.2 ⟨Nat.le_refl _, fun o ho => Nat.le_of_lt (hless o ho)⟩⟩
    · rintro ⟨hmem, hleast⟩
      rcases List.mem_cons.1 hmem with rfl | hmem
      · rfl
      · exact absurd (hleast f (.head _)) (Nat.not_le_of_lt (hless file hmem))

end Ordered

theorem destroy_mint (w : Workspace) (uid : Nat) : (w.destroy uid).2.mint = w.mint := by
  cases hf : w.file? uid with
  | none => rw [destroy_missing hf]
  | some file => rw [destroy_found hf]

theorem update_mint (w : Workspace) (uid : Nat) (source : String) :
    (w.update uid source).2.mint = w.mint := by
  cases hf : w.file? uid with
  | none => rw [update_missing source hf]
  | some file => rw [update_found source hf]

/-! ### Histories -/

inductive Call
  | create (name source : String)
  | destroy (uid : Nat)
  | update (uid : Nat) (source : String)
  | save
  | reload
  deriving Repr, DecidableEq

/-- A workspace, and apart from it the text of its last save. -/
structure Backed where
  workspace : Workspace := {}
  backup : Option String := none

/-- What a call makes of the workspace. Only a text that cannot be loaded ends a history;
a file that is not found does not, and there is nothing to go back to before a save. -/
def Call.perform : Call → Backed → Except Fault Backed
  | .create name source, b => .ok { b with workspace := (b.workspace.create name source).2 }
  | .destroy uid, b => .ok { b with workspace := (b.workspace.destroy uid).2 }
  | .update uid source, b => .ok { b with workspace := (b.workspace.update uid source).2 }
  | .save, b => .ok ⟨b.workspace.save, b.workspace.save.saved⟩
  | .reload, b =>
    match b.backup with
    | none => .ok b
    | some text => (ofText text).map fun workspace => { b with workspace }

/-- A history from the empty workspace on. -/
def run (calls : List Call) : Except Fault Backed :=
  calls.foldlM (fun b call => call.perform b) {}

theorem run_concat (calls : List Call) (call : Call) :
    run (calls ++ [call]) = run calls >>= call.perform := by
  simp only [run, List.foldlM_append, List.foldlM_cons, List.foldlM_nil, bind_pure]

/-! ### Histories of versions -/

/-- A workspace, and apart from it the workspace as it was at its last save. -/
structure Versions where
  current : Workspace := {}
  last : Option Workspace := none

def Versions.backed (v : Versions) : Backed := ⟨v.current, v.last.map text⟩

/-- What a call makes of the workspace, if going back needs no text. -/
def Call.apply : Call → Versions → Versions
  | .create name source, v => { v with current := (v.current.create name source).2 }
  | .destroy uid, v => { v with current := (v.current.destroy uid).2 }
  | .update uid source, v => { v with current := (v.current.update uid source).2 }
  | .save, v => ⟨v.current.save, some v.current⟩
  | .reload, v =>
    match v.last with
    | none => v
    | some w => { v with current := w.bare }

/-- Only a save sets a version aside. -/
theorem Call.last_apply (call : Call) (v : Versions) :
    (call.apply v).last = if call = .save then some v.current else v.last := by
  obtain ⟨current, last⟩ := v
  cases call with
  | reload => cases last <;> rfl
  | _ => rfl

/-- A call leaves the mint as it is, or mints one number, or goes back to the mint of the
version that is set aside. -/
theorem Call.mint_apply (call : Call) (v : Versions) :
    (call.apply v).current.mint = v.current.mint ∨
      (∃ name source, call = .create name source ∧
        (call.apply v).current.mint = v.current.mint.mint.2) ∨
      call = .reload ∧ ∃ w ∈ v.last, (call.apply v).current.mint = w.mint := by
  cases call with
  | create name source => exact .inr (.inl ⟨name, source, rfl, rfl⟩)
  | destroy uid => exact .inl (destroy_mint v.current uid)
  | update uid source => exact .inl (update_mint v.current uid source)
  | save => exact .inl rfl
  | reload =>
    obtain ⟨current, last⟩ := v
    cases last with
    | none => exact .inl rfl
    | some w => exact .inr (.inr ⟨rfl, w, rfl, rfl⟩)

def versions (calls : List Call) : Versions := calls.foldl (fun v call => call.apply v) {}

theorem versions_concat (calls : List Call) (call : Call) :
    versions (calls ++ [call]) = call.apply (versions calls) := by
  rw [versions, List.foldl_append]
  rfl

theorem perform_backed {v : Versions} (h : ∀ w ∈ v.last, w.Ordered) (call : Call) :
    call.perform v.backed = .ok (call.apply v).backed := by
  cases call with
  | reload =>
    obtain ⟨current, last⟩ := v
    cases last with
    | none => rfl
    | some w =>
      have hload : (Call.reload.perform (Versions.backed ⟨current, some w⟩)) =
          (ofText w.text).map fun workspace => ⟨workspace, some w.text⟩ := rfl
      rw [hload, (h w rfl).ofText_text]
      rfl
  | create name source => rfl
  | destroy uid => rfl
  | update uid source => rfl
  | save => rfl

structure Versions.Ordered (v : Versions) : Prop where
  current : v.current.Ordered
  last : ∀ w ∈ v.last, w.Ordered

theorem Versions.Ordered.apply {v : Versions} (h : v.Ordered) {call : Call}
    (room : ∀ name source, call = .create name source → v.current.mint.next + 1 < uidBound) :
    (call.apply v).Ordered := by
  cases call with
  | create name source => exact ⟨h.current.create name source (room name source rfl), h.last⟩
  | destroy uid => exact ⟨h.current.destroy uid, h.last⟩
  | update uid source => exact ⟨h.current.update uid source, h.last⟩
  | save =>
    refine ⟨⟨⟨h.current.below, h.current.room⟩, h.current.increasing⟩, ?_⟩
    rintro w ⟨⟩
    exact h.current
  | reload =>
    obtain ⟨current, last⟩ := v
    cases last with
    | none => exact h
    | some w =>
      have hw := h.last w rfl
      exact ⟨⟨⟨hw.below, hw.room⟩, hw.increasing⟩, h.last⟩

/-! ### Room for numbers -/

/-- No number that is minted in the course of the history is the largest one. -/
def Roomy (calls : List Call) : Prop :=
  ∀ before name source after, calls = before ++ .create name source :: after →
    ∀ b, run before = .ok b → (b.workspace.create name source).1.uid + 1 < uidBound

theorem Roomy.of_append {calls more : List Call} (h : Roomy (calls ++ more)) : Roomy calls := by
  rintro before name source after rfl
  exact h before name source (after ++ more) (by rw [List.append_assoc, List.cons_append])

/-- Every text of a save is loaded again, so a history comes to its versions. -/
theorem run_eq {calls : List Call} (h : Roomy calls) :
    run calls = .ok (versions calls).backed ∧ (versions calls).Ordered := by
  induction calls using List.reverseRecOn with
  | nil =>
    refine ⟨rfl, ⟨⟨⟨List.forall_mem_nil _, by decide⟩, .nil⟩, nofun⟩⟩
  | append_singleton calls call ih =>
    obtain ⟨hrun, hordered⟩ := ih h.of_append
    rw [run_concat, versions_concat, hrun]
    refine ⟨perform_backed hordered.last call, hordered.apply ?_⟩
    rintro name source rfl
    exact h calls name source [] rfl _ hrun

theorem Roomy.next_lt {calls : List Call} {name source : String}
    (h : Roomy (calls ++ [.create name source])) :
    (versions calls).current.mint.next + 1 < uidBound :=
  h calls name source [] rfl _ (run_eq h.of_append).1

theorem roomy_concat {calls : List Call} {call : Call} (h : Roomy calls)
    (hcall : ∀ name source, call = .create name source →
      (versions calls).current.mint.next + 1 < uidBound) : Roomy (calls ++ [call]) := by
  intro before name source after hsplit b hb
  rcases List.eq_nil_or_concat after with rfl | ⟨after, last, rfl⟩
  · obtain ⟨rfl, hcreate⟩ := List.append_inj' hsplit rfl
    rw [(run_eq h).1] at hb
    cases hb
    exact hcall name source (List.cons.inj hcreate).1
  · rw [List.concat_eq_append, ← List.cons_append, ← List.append_assoc] at hsplit
    obtain ⟨hcalls, -⟩ := List.append_inj' hsplit rfl
    exact h before name source after hcalls b hb

/-- A call mints one number at most. -/
theorem Call.next_apply_le {v : Versions} {n : Nat}
    (h : v.current.mint.next ≤ n ∧ ∀ w ∈ v.last, w.mint.next ≤ n) (call : Call) :
    (call.apply v).current.mint.next ≤ n + 1 ∧ ∀ w ∈ (call.apply v).last, w.mint.next ≤ n + 1 := by
  obtain ⟨hcurrent, hlast⟩ := h
  constructor
  · rcases call.mint_apply v with hmint | ⟨_, _, -, hmint⟩ | ⟨-, w, hw, hmint⟩
    · rw [hmint]
      exact Nat.le_succ_of_le hcurrent
    · rw [hmint]
      exact Nat.le_trans (Nat.mod_le ..) (Nat.succ_le_succ hcurrent)
    · rw [hmint]
      exact Nat.le_succ_of_le (hlast w hw)
  · intro w hw
    rw [call.last_apply] at hw
    split at hw
    · cases hw
      exact Nat.le_succ_of_le hcurrent
    · exact Nat.le_succ_of_le (hlast w hw)

theorem versions_next_le (calls : List Call) :
    (versions calls).current.mint.next ≤ calls.length + 1 ∧
      ∀ w ∈ (versions calls).last, w.mint.next ≤ calls.length + 1 := by
  induction calls using List.reverseRecOn with
  | nil => exact ⟨Nat.le_refl _, nofun⟩
  | append_singleton calls call ih =>
    rw [versions_concat, List.length_append]
    exact call.next_apply_le ih

/-- There is room for every history that is shorter than there are numbers. -/
theorem roomy_of_length {calls : List Call} (h : calls.length + 1 < uidBound) : Roomy calls := by
  induction calls using List.reverseRecOn with
  | nil =>
    intro before name source after hsplit
    simp at hsplit
  | append_singleton calls call ih =>
    rw [List.length_append, List.length_singleton] at h
    have hnext := (versions_next_le calls).1
    exact roomy_concat (ih (by omega)) fun _ _ _ => by omega

/-! ### Going back -/

/-- What is done after `before` is undone in the course of `between`, by going back to a
save that was made in `before`. -/
def Undone (before between : List Call) : Prop :=
  .save ∈ before ∧ ∃ first rest, between = first ++ .reload :: rest ∧ .save ∉ first

/-- Between two saves, the version of the first one stays set aside. -/
theorem last_foldl {calls : List Call} (h : .save ∉ calls) (v : Versions) :
    (calls.foldl (fun v call => call.apply v) v).last = v.last := by
  induction calls generalizing v with
  | nil => rfl
  | cons call calls ih =>
    rw [List.mem_cons, not_or] at h
    rw [List.foldl_cons, ih h.2, call.last_apply, if_neg (Ne.symm h.1)]

/-- The mint stays past a number until that is undone, and so does the mint of the version
that is set aside, unless that one is older. -/
theorem lt_next_of_not_undone {before between : List Call} {name source : String}
    (room : Roomy (before ++ .create name source :: between)) (h : ¬ Undone before between) :
    let u := (versions before).current.mint.next
    let v := versions (before ++ .create name source :: between)
    u < v.current.mint.next ∧
      ((.save ∈ before → .save ∈ between) → ∀ w ∈ v.last, u < w.mint.next) := by
  induction between using List.reverseRecOn with
  | nil =>
    have hmint : (versions (before ++ [.create name source])).current.mint.next =
        (versions before).current.mint.next + 1 := by
      rw [versions_concat]
      exact Nat.mod_eq_of_lt room.next_lt
    refine ⟨hmint ▸ Nat.lt_succ_self _, fun hsave w hw => ?_⟩
    have hnone : (versions before).last = none := last_foldl (fun hs => nomatch hsave hs) {}
    rw [versions_concat] at hw
    change w ∈ (versions before).last at hw
    rw [hnone] at hw
    cases hw
  | append_singleton between call ih =>
    rw [← List.cons_append, ← List.append_assoc] at room ⊢
    have hbetween : ¬ Undone before between := by
      rintro ⟨hsave, first, rest, rfl, hfirst⟩
      exact h ⟨hsave, first, rest ++ [call], by simp, hfirst⟩
    obtain ⟨hcurrent, hlast⟩ := ih room.of_append hbetween
    rw [versions_concat]
    constructor
    · rcases call.mint_apply _ with hmint | ⟨name', source', rfl, hmint⟩ | ⟨rfl, w, hw, hmint⟩
      · rwa [hmint]
      · rw [hmint]
        show _ < (_ + 1) % uidBound
        rw [Nat.mod_eq_of_lt room.next_lt]
        exact Nat.lt_succ_of_lt hcurrent
      · -- Nothing is undone, so the version gone back to was not set aside before.
        have hsave (hb : .save ∈ before) : .save ∈ between := by
          by_contra hnot
          exact h ⟨hb, between, [], rfl, hnot⟩
        rw [hmint]
        exact hlast hsave w hw
    · intro hs w hw
      rw [call.last_apply] at hw
      by_cases hcall : call = .save
      · rw [if_pos hcall] at hw
        cases hw
        exact hcurrent
      · rw [if_neg hcall] at hw
        refine hlast (fun hb => ?_) w hw
        rcases List.mem_append.1 (hs hb) with hbetween | hlastCall
        · exact hbetween
        · exact absurd (List.mem_singleton.1 hlastCall).symm hcall

/-- After a save, and none later, going back leads to the workspace as it was saved. -/
theorem run_reload {before after : List Call} (room : Roomy (before ++ .save :: after))
    (h : .save ∉ after) :
    run (before ++ .save :: after ++ [.reload]) =
      .ok { (versions (before ++ .save :: after)).backed with
        workspace := (versions before).current.bare } := by
  have hlast : (versions (before ++ .save :: after)).last = some (versions before).current := by
    rw [versions, List.foldl_append, List.foldl_cons, last_foldl h]
    rfl
  obtain ⟨hrun, hordered⟩ := run_eq room
  rw [run_concat, hrun]
  show Call.reload.perform (versions (before ++ .save :: after)).backed = _
  rw [perform_backed hordered.last]
  generalize versions (before ++ .save :: after) = v at hlast
  obtain ⟨current, last⟩ := v
  cases hlast
  rfl

/-- The files of a history stand in the order of their numbers, each is found by its
number, and the first one is the oldest. A new number is larger than all that were minted
before and not undone. The text of a workspace restores its files and its mint, and so
going back leads to the workspace of the last save. Whatever text is loaded, a new number
is larger than those of the files in it. -/
theorem numbers_grow_until_undone :
    (∀ calls, Roomy calls → ∃ b, run calls = .ok b ∧
      (b.workspace.files.map (·.uid)).Pairwise (· < ·) ∧
      (∀ file ∈ b.workspace.files, file.uid < b.workspace.mint.next ∧
        b.workspace.file? file.uid = some file) ∧
      (∀ file, FileStore.first? b.workspace = some file ↔
        file ∈ b.workspace.files ∧ ∀ other ∈ b.workspace.files, file.uid ≤ other.uid) ∧
      (∀ before name source between, calls = before ++ .create name source :: between →
        ¬ Undone before between → ∃ b', run before = .ok b' ∧ ∀ name' source',
          (b'.workspace.create name source).1.uid < (b.workspace.create name' source').1.uid) ∧
      (ofText b.workspace.text = .ok b.workspace.bare ∧
        b.workspace.bare.text = b.workspace.text) ∧
      ∀ before after, calls = before ++ .save :: after → .save ∉ after →
        ∃ b', run before = .ok b' ∧
          run (calls ++ [.reload]) = .ok { b with workspace := b'.workspace.bare }) ∧
      ∀ text w, ofText text = .ok w → (∀ file ∈ w.files, file.uid + 1 < uidBound) →
        ∀ file ∈ w.files, ∀ name source, file.uid < (w.create name source).1.uid := by
  refine ⟨fun calls room => ?_, fun text w h _ file hf name source => lt_next_of_ofText h file hf⟩
  obtain ⟨hrun, hordered⟩ := run_eq room
  have hcurrent := hordered.current
  refine ⟨(versions calls).backed, hrun, hcurrent.increasing,
    fun file hf => ⟨hcurrent.below file hf, hcurrent.file?_of_mem hf⟩,
    fun file => hcurrent.first?_eq_some_iff, ?_, ⟨hcurrent.ofText_text, rfl⟩, ?_⟩
  · rintro before name source between rfl hnot
    refine ⟨_, (run_eq room.of_append).1, fun name' source' => ?_⟩
    exact (lt_next_of_not_undone room hnot).1
  · rintro before after rfl hafter
    exact ⟨_, (run_eq room.of_append).1, run_reload room hafter⟩

/-- A history in which a file is destroyed before the save that it goes back to. -/
def destroyedHistory : List Call :=
  [.create "a" "x", .create "b" "y", .destroy 2, .save, .reload]

/-- The text of a workspace whose mint is behind its file. -/
def behindText : String :=
  "\x7b\"uid-factory\": \x7b\"next-uid-value\": 1\x7d, "
    ++ "\"files\": [\x7b\"uid\": 7, \"name\": \"a\", \"source\": \"\"\x7d]\x7d"

theorem numbers_grow_past_destroyed_and_loaded :
    (Roomy destroyedHistory ∧ ∃ b, run destroyedHistory = .ok b ∧
        (b.workspace.files.map (·.uid)) = [1] ∧
        ∀ name source, 2 < (b.workspace.create name source).1.uid) ∧
      ∃ w, ofText behindText = .ok w ∧ w.files.map (·.uid) = [7] ∧
        ∀ name source, 7 < (w.create name source).1.uid := by
  constructor
  · have room : Roomy destroyedHistory := roomy_of_length (by decide)
    obtain ⟨b, hrun, -, -, -, hgrow, -⟩ := numbers_grow_until_undone.1 destroyedHistory room
    obtain ⟨b', hrun', hless⟩ := hgrow [.create "a" "x"] "b" "y" [.destroy 2, .save, .reload] rfl
      fun hundone => nomatch hundone.1
    cases hrun'
    rw [(run_eq room).1] at hrun ⊢
    cases hrun
    exact ⟨room, _, rfl, rfl, hless⟩
  · have lists : (ofText behindText).toOption.map (·.files) = some [⟨7, "a", ""⟩] := by
      decide +kernel
    obtain ⟨w, hw, hfiles⟩ := eq_ok_of_map_toOption lists
    refine ⟨w, hw, by rw [hfiles]; rfl, ?_⟩
    refine numbers_grow_until_undone.2 _ w hw ?_ ⟨7, "a", ""⟩ (by rw [hfiles]; exact .head _)
    rw [hfiles]
    exact List.forall_mem_singleton.2 (by decide)

end Studio.Workspace
