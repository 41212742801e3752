import Studio.Conductor.Files
import Studio.Conductor.Play
import Studio.Device.Silent
import Studio.Store.Workspace

/-! Runs of a conductor over a silent device. An action is one that the conductor
offers, a change of its settings, or something that happens to the device itself. A
render is begun by an action that finds a file selected whose source is not the live
one; every run splits at the last action that began one. -/

namespace Studio

inductive Action
  | render
  | play
  | pause
  | stop
  | dispatch
  | addFile
  | destroyFile (uid : Nat)
  | selectFile (uid : Nat)
  | save
  | setSource (source : String)
  /-- Any change of the settings. -/
  | configure (change : Settings → Settings)
  /-- The device is told to refuse its next buffer. -/
  | failNextStart
  | advance (p : Position)
  | loop

namespace Conductor

variable {D W : Type} [FileStore W]

/-- The source for which a render would be begun now: the active file's, unless it is
live. -/
def due? (c : Conductor D W) : Option String :=
  c.activeFile.bind fun file =>
    if c.rendering.isSome && !c.changed then none else some file.source

omit [FileStore W] in
/-- A conductor with a silent device that nobody has used. -/
def launch (settings : Settings) (libraries : List Library) (random : Random) (store : W) :
    Conductor SilentDevice W :=
  { settings, libraries, device := {}, store, random }

/-- A conductor over an empty workspace. Its one library has a template, which is a
score of nothing, and one instrument to use. -/
def novice : Conductor SilentDevice Workspace :=
  launch {}
    [{ name := "core"
       instruments := ⟨[{ name := "sine", builder := some ⟨1, none, .ok ⟨"sine", []⟩⟩ }]⟩
       templates := ⟨[{ name := "blank", source := "{}" }]⟩ }]
    ⟨1⟩ {}

end Conductor

namespace Action

variable {W : Type} [FileStore W]

def perform : Action → Conductor SilentDevice W → Conductor SilentDevice W
  | render, c => c.render
  | play, c => c.play
  | pause, c => c.pause
  | stop, c => c.stop
  | dispatch, c => c.dispatch
  | addFile, c => c.addFile
  | destroyFile uid, c => c.destroyFile uid
  | selectFile uid, c => c.selectFile uid
  | save, c => c.save
  | setSource source, c => c.setSource source
  | configure change, c => { c with settings := change c.settings }
  | failNextStart, c => { c with device := c.device.failNextStart }
  | advance p, c => { c with device := c.device.advance p }
  | loop, c => { c with device := c.device.loop }

/-- The source of the render that the action begins, if it begins one. -/
def begun? : Action → Conductor SilentDevice W → Option String
  | render, c => c.due?
  | play, c => c.due?
  | _, _ => none

end Action

namespace Conductor

variable {W : Type} [FileStore W]

def run (actions : List Action) (c : Conductor SilentDevice W) : Conductor SilentDevice W :=
  actions.foldl (fun c a => a.perform c) c

@[simp] theorem run_nil (c : Conductor SilentDevice W) : run [] c = c := rfl

@[simp] theorem run_cons (a : Action) (as : List Action) (c : Conductor SilentDevice W) :
    run (a :: as) c = run as (a.perform c) := rfl

theorem run_append (as bs : List Action) (c : Conductor SilentDevice W) :
    run (as ++ bs) c = run bs (run as c) := List.foldl_append

/-- What actions of some kind keep, a run of such actions keeps. -/
theorem run_keeps_of {P : Conductor SilentDevice W → Prop} {Q : Action → Prop}
    (step : ∀ (a : Action) (c : Conductor SilentDevice W), Q a → P c → P (a.perform c))
    {as : List Action} (hq : ∀ a ∈ as, Q a) {c : Conductor SilentDevice W} (h : P c) :
    P (run as c) := by
  induction as generalizing c with
  | nil => exact h
  | cons a as ih =>
    obtain ⟨ha, hs⟩ := List.forall_mem_cons.1 hq
    exact ih hs (step a c ha h)

/-- What every action keeps, every run keeps. -/
theorem run_keeps {P : Conductor SilentDevice W → Prop}
    (step : ∀ (a : Action) (c : Conductor SilentDevice W), P c → P (a.perform c))
    (as : List Action) {c : Conductor SilentDevice W} (h : P c) : P (run as c) :=
  run_keeps_of (Q := fun _ => True) (fun a c _ => step a c) (fun _ _ => trivial) h

/-! ### The last render begun -/

/-- No action of the run begins a render. -/
def NoneBegun (as : List Action) (c : Conductor SilentDevice W) : Prop :=
  ∀ before a after, as = before ++ a :: after → a.begun? (run before c) = none

/-- The run consists of the actions `before`, the action `a`, which begins a render of
`source`, and the actions `after`, which begin none. -/
structure LastBegun (c : Conductor SilentDevice W) (actions before : List Action) (a : Action)
    (after : List Action) (source : String) : Prop where
  split : actions = before ++ a :: after
  begun : a.begun? (run before c) = some source
  none_later : NoneBegun after (a.perform (run before c))

theorem noneBegun_nil (c : Conductor SilentDevice W) : NoneBegun [] c := by
  intro before a after h
  cases before <;> cases h

theorem noneBegun_cons {a : Action} {as : List Action} {c : Conductor SilentDevice W} :
    NoneBegun (a :: as) c ↔ a.begun? c = none ∧ NoneBegun as (a.perform c) := by
  constructor
  · intro h
    refine ⟨h [] a as rfl, ?_⟩
    intro before b after hs
    exact h (a :: before) b after (by rw [hs, List.cons_append])
  · rintro ⟨ha, hs⟩ before b after h
    cases before with
    | nil =>
      obtain ⟨rfl, rfl⟩ := List.cons.inj h
      exact ha
    | cons x before =>
      obtain ⟨rfl, rfl⟩ := List.cons.inj h
      exact hs before b after rfl

/-- Either no render was begun in a run, or there is a last one. -/
theorem noneBegun_or_lastBegun (as : List Action) (c : Conductor SilentDevice W) :
    NoneBegun as c ∨ ∃ before a after source, LastBegun c as before a after source := by
  induction as generalizing c with
  | nil => exact .inl (noneBegun_nil c)
  | cons x as ih =>
    rcases ih (x.perform c) with hnone | ⟨before, a, after, source, h⟩
    · cases hx : x.begun? c with
      | none => exact .inl (noneBegun_cons.2 ⟨hx, hnone⟩)
      | some source => exact .inr ⟨[], x, as, source, rfl, hx, hnone⟩
    · have hs : x :: as = (x :: before) ++ a :: after := by rw [h.split, List.cons_append]
      exact .inr ⟨x :: before, a, after, source, hs, h.begun, h.none_later⟩

/-- What every action keeps that begins no render, a run without renders keeps. -/
theorem NoneBegun.keeps {P : Conductor SilentDevice W → Prop}
    (step : ∀ (a : Action) (c : Conductor SilentDevice W),
      a.begun? c = none → P c → P (a.perform c))
    {as : List Action} {c : Conductor SilentDevice W} (hn : NoneBegun as c) (h : P c) :
    P (run as c) := by
  induction as generalizing c with
  | nil => exact h
  | cons a as ih =>
    obtain ⟨ha, hs⟩ := noneBegun_cons.1 hn
    exact ih hs (step a c ha h)

/-- The run up to and including the last render begun, and then the rest. -/
theorem LastBegun.run_eq {c : Conductor SilentDevice W} {actions before : List Action} {a : Action}
    {after : List Action} {source : String} (h : LastBegun c actions before a after source) :
    run actions c = run after (a.perform (run before c)) := by
  rw [h.split, run_append, run_cons]

/-- There is no render in what follows the last one. -/
theorem LastBegun.not_noneBegun {c : Conductor SilentDevice W} {actions before : List Action}
    {a : Action} {after : List Action} {source : String}
    (h : LastBegun c actions before a after source) : ¬ NoneBegun actions c := by
  intro hn
  have hb := h.begun
  rw [hn before a after h.split] at hb
  cases hb

/-- A run splits at its last render in one way. -/
theorem LastBegun.unique {c : Conductor SilentDevice W} {actions before before' : List Action}
    {a a' : Action} {after after' : List Action} {source source' : String}
    (h : LastBegun c actions before a after source)
    (h' : LastBegun c actions before' a' after' source') :
    before = before' ∧ a = a' ∧ after = after' := by
  have later {before mid after after' : List Action} {a a' : Action} {source source' : String}
      (h : LastBegun c actions before a after source)
      (h' : LastBegun c actions (before ++ a :: mid) a' after' source') : False := by
    have hs : before ++ a :: after = before ++ a :: (mid ++ a' :: after') := by
      rw [← h.split, h'.split, List.append_assoc, List.cons_append]
    have hb := h'.begun
    rw [run_append, run_cons] at hb
    rw [h.none_later mid a' after' (List.cons.inj (List.append_cancel_left hs)).2] at hb
    cases hb
  have hs : before ++ a :: after = before' ++ a' :: after' := h.split.symm.trans h'.split
  rcases List.append_eq_append_iff.1 hs with ⟨mid, hm, hr⟩ | ⟨mid, hm, hr⟩
  · cases mid with
    | nil =>
      obtain ⟨rfl, rfl⟩ := List.cons.inj hr
      exact ⟨by rw [hm, List.append_nil], rfl, rfl⟩
    | cons x mid =>
      obtain ⟨rfl, -⟩ := List.cons.inj hr
      subst hm
      exact (later h h').elim
  · cases mid with
    | nil =>
      obtain ⟨rfl, rfl⟩ := List.cons.inj hr
      exact ⟨by rw [hm, List.append_nil], rfl, rfl⟩
    | cons x mid =>
      obtain ⟨rfl, -⟩ := List.cons.inj hr
      subst hm
      exact (later h' h).elim

end Conductor

end Studio
