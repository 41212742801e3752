import Studio.Proofs.Json.Number
import Studio.Uid

/-! The numbers that a mint hands out while it is told of others. Handing out a number and
being told of one move the mint alike: past that number, and never back. So each number
that is minted is the least one past all that came before it, from the first number of the
mint on. -/

namespace Studio.UidMint

open Json

/-! ### Calls -/

inductive Call
  | mint
  | notice (uid : Nat)
  deriving Repr, DecidableEq

/-- A number that the mint knows of, as it came to know of it. -/
inductive Mark
  | minted (uid : Nat)
  | noticed (uid : Nat)
  deriving Repr, DecidableEq

namespace Mark

def uid : Mark → Nat
  | minted uid => uid
  | noticed uid => uid

def minted? : Mark → Option Nat
  | minted uid => some uid
  | noticed _ => none

end Mark

def Call.perform : Call → UidMint → Mark × UidMint
  | mint, m => (.minted m.mint.1, m.mint.2)
  | notice uid, m => (.noticed uid, m.notice uid)

/-- The numbers that the mint gets to know of by the calls. -/
def marks : List Call → UidMint → List Mark
  | [], _ => []
  | call :: calls, m => (call.perform m).1 :: marks calls (call.perform m).2

def after (calls : List Call) (m : UidMint) : UidMint :=
  calls.foldl (fun m call => (call.perform m).2) m

/-- Whichever way the mint gets to know of a number, it is then past it. -/
theorem Call.next_perform {call : Call} {m : UidMint}
    (room : (call.perform m).1.uid + 1 < uidBound) :
    (call.perform m).2.next = max m.next ((call.perform m).1.uid + 1) := by
  cases call with
  | mint =>
    change m.next + 1 < uidBound at room
    show (m.next + 1) % uidBound = max m.next (m.next + 1)
    rw [Nat.mod_eq_of_lt room, Nat.max_eq_right (Nat.le_succ _)]
  | notice uid => rfl

/-! ### Minted numbers -/

/-- One more than the largest of the numbers, and 0 if there are none. -/
def beyond (uids : List Nat) : Nat := uids.max?.elim 0 (· + 1)

theorem beyond_cons (uid : Nat) (uids : List Nat) :
    beyond (uid :: uids) = max (uid + 1) (beyond uids) := by
  rw [beyond, beyond, List.max?_cons]
  cases uids.max? with
  | none => exact (Nat.max_eq_left (Nat.zero_le _)).symm
  | some largest => exact (Nat.succ_max_succ uid largest).symm

section Course

variable {calls : List Call} {m : UidMint}
  (room : ∀ mark ∈ marks calls m, mark.uid + 1 < uidBound)

include room

theorem minted_eq {before after : List Mark} {uid : Nat}
    (h : marks calls m = before ++ .minted uid :: after) :
    uid = max m.next (beyond (before.map Mark.uid)) := by
  induction calls generalizing m before with
  | nil => simp [marks] at h
  | cons call calls ih =>
    obtain ⟨hroom, hrooms⟩ := List.forall_mem_cons.1 room
    cases before with
    | nil =>
      have hmark : (call.perform m).1 = .minted uid := (List.cons.inj h).1
      cases call with
      | mint =>
        cases hmark
        exact (Nat.max_eq_left (Nat.zero_le _)).symm
      | notice other => cases hmark
    | cons mark before =>
      obtain ⟨hmark, hmarks⟩ := List.cons.inj h
      rw [ih hrooms hmarks, Call.next_perform hroom, hmark, List.map_cons, beyond_cons,
        Nat.max_assoc]

/-- What is minted is past every number that the mint knew of by then. -/
theorem marks_increase : (marks calls m).Pairwise fun earlier later =>
    ∀ uid ∈ later.minted?, earlier.uid < uid := by
  induction calls generalizing m with
  | nil => exact .nil
  | cons call calls ih =>
    obtain ⟨hroom, hrooms⟩ := List.forall_mem_cons.1 room
    refine List.pairwise_cons.2 ⟨fun later hlater uid huid => ?_, ih hrooms⟩
    obtain rfl : later = .minted uid := by
      cases later with
      | minted other => exact congrArg Mark.minted (Option.some.inj huid)
      | noticed other => cases huid
    obtain ⟨before, after, hsplit⟩ := List.append_of_mem hlater
    calc (call.perform m).1.uid < (call.perform m).2.next := by
          rw [Call.next_perform hroom]
          exact Nat.le_max_right ..
      _ ≤ max (call.perform m).2.next (beyond (before.map Mark.uid)) := Nat.le_max_left ..
      _ = uid := (minted_eq hrooms hsplit).symm

end Course

/-! ### Texts -/

theorem readsBack {m : UidMint} (h : m.next < uidBound) :
    ReadsBack 1 (Persisted.schema UidMint).reader (Persisted.toValue m) :=
  .record "UidFactory" (by decide) (.member (.whole "usize" h (Nat.le_refl _)) rfl .nil)

theorem read_write_mint {m : UidMint} (h : m.next < uidBound) (l : Layout) :
    (Json.read (Json.write l m) : Except ReadError UidMint) = .ok m :=
  read_write l (readsBack h) (by decide)

/-- A call, or the mint written and read back in between. -/
inductive Step
  | call (c : Call)
  | reread (l : Layout)

def Step.call? : Step → Option Call
  | call c => some c
  | reread _ => none

/-- The numbers that the mint gets to know of, and the mint afterwards, unless a text of it
cannot be read. -/
def replay : List Step → UidMint → Except ReadError (List Mark × UidMint)
  | [], m => .ok ([], m)
  | .call c :: steps, m =>
    (replay steps (c.perform m).2).map fun (marks, m') => ((c.perform m).1 :: marks, m')
  | .reread l :: steps, m => Json.read (Json.write l m) >>= replay steps

theorem replay_eq {steps : List Step} {m : UidMint} (h : m.next < uidBound)
    (room : ∀ mark ∈ marks (steps.filterMap Step.call?) m, mark.uid + 1 < uidBound) :
    replay steps m =
      .ok (marks (steps.filterMap Step.call?) m, after (steps.filterMap Step.call?) m) := by
  induction steps generalizing m with
  | nil => rfl
  | cons step steps ih =>
    cases step with
    | call c =>
      obtain ⟨hroom, hrooms⟩ := List.forall_mem_cons.1 room
      have hnext : (c.perform m).2.next < uidBound := by
        rw [Call.next_perform hroom]
        exact Nat.max_lt.2 ⟨h, hroom⟩
      rw [replay, ih hnext hrooms]
      rfl
    | reread l =>
      rw [replay, read_write_mint h l]
      exact ih h room

/-- While there is room, each number that is minted is the first number of the mint, or else
one more than the largest that was minted or noticed before it, whichever is larger. So it
is past all of these. To write the mint and read it back, wherever that is done, makes no
difference to what follows. -/
theorem minted_past_all_before {first : Nat} (start : first < uidBound) {calls : List Call}
    (room : ∀ mark ∈ marks calls ⟨first⟩, mark.uid + 1 < uidBound) :
    (∀ before uid after, marks calls ⟨first⟩ = before ++ .minted uid :: after →
        uid = max first (beyond (before.map Mark.uid)) ∧ ∀ mark ∈ before, mark.uid < uid) ∧
      ((marks calls ⟨first⟩).filterMap Mark.minted?).Pairwise (· < ·) ∧
      ∀ steps : List Step, steps.filterMap Step.call? = calls →
        replay steps ⟨first⟩ = .ok (marks calls ⟨first⟩, after calls ⟨first⟩) := by
  have hincrease := marks_increase room
  refine ⟨fun before uid after h => ⟨minted_eq room h, fun mark hmark => ?_⟩, ?_, ?_⟩
  · rw [h] at hincrease
    exact (List.pairwise_append.1 hincrease).2.2 mark hmark _ (.head _) uid rfl
  · refine List.pairwise_filterMap.2 (hincrease.imp fun {earlier later} hless uid huid => ?_)
    cases earlier with
    | minted other =>
      cases huid
      exact hless
    | noticed other => cases huid
  · rintro steps rfl
    exact replay_eq start room

/-- Numbers are noticed ahead of the mint, behind it, and once more. -/
def mixedCalls : List Call := [.mint, .notice 10, .mint, .notice 3, .notice 10, .mint]

theorem mixed_calls_minted_past_all_before :
    (1 < uidBound ∧ ∀ mark ∈ marks mixedCalls ⟨1⟩, mark.uid + 1 < uidBound) ∧
      marks mixedCalls ⟨1⟩ =
        [.minted 1, .noticed 10, .minted 11, .noticed 3, .noticed 10, .minted 12] ∧
      12 = max 1 (beyond [1, 10, 11, 3, 10]) ∧
      replay [.reread .compact, .call .mint, .call (.notice 10), .call .mint, .call (.notice 3),
          .reread .indented, .call (.notice 10), .call .mint] ⟨1⟩ =
        .ok (marks mixedCalls ⟨1⟩, ⟨13⟩) := by
  have start : 1 < uidBound := by decide
  have room : ∀ mark ∈ marks mixedCalls ⟨1⟩, mark.uid + 1 < uidBound := by decide
  obtain ⟨hminted, -, hreplay⟩ := minted_past_all_before start room
  have hlast := hminted [.minted 1, .noticed 10, .minted 11, .noticed 3, .noticed 10] 12 [] rfl
  exact ⟨⟨start, room⟩, rfl, hlast.1, hreplay _ rfl⟩

end Studio.UidMint
