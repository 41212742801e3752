import Studio.Engine

/-! What an action comes to, and what it leaves behind on the way: messages for
the log, and the builders that ran. The notes of a failed action stay. The result
of a chain of actions depends on their results alone (`Attempt.result_bind`), so
notes can be left out of sight where only results matter. -/

namespace Studio

/-- A node's deferred builder: what running it comes to. Builders declared apart
have different ids, whatever they build. -/
structure Builder where
  id : Nat
  label : Option String
  outcome : Except Fault Processor

inductive Level
  | debug
  | info
  | warn
  | error
  deriving Repr, DecidableEq

def Level.name : Level → String
  | .debug => "DEBUG"
  | .info => "INFO"
  | .warn => "WARN"
  | .error => "ERROR"

inductive Note
  | said (level : Level) (text : String)
  | ran (builder : Builder)

namespace Note

/-- The label of the builder that ran, if it has one. -/
def built? : Note → Option String
  | .ran builder => builder.label
  | .said _ _ => none

def said? : Note → Option (Level × String)
  | .said level text => some (level, text)
  | .ran _ => none

end Note

structure Attempt (α : Type) where
  result : Except Fault α
  notes : List Note := []

namespace Attempt

def fail (f : Fault) : Attempt α := { result := .error f }

def say (level : Level) (text : String) : Attempt Unit :=
  { result := .ok (), notes := [.said level text] }

/-- Runs a builder. -/
def run (b : Builder) : Attempt Processor :=
  { result := b.outcome, notes := [.ran b] }

def ofExcept (x : Except Fault α) : Attempt α := { result := x }

protected def bind (x : Attempt α) (f : α → Attempt β) : Attempt β :=
  match x.result with
  | .error e => ⟨.error e, x.notes⟩
  | .ok a => ⟨(f a).result, x.notes ++ (f a).notes⟩

instance : Monad Attempt where
  pure a := ⟨.ok a, []⟩
  bind := Attempt.bind

@[simp] theorem result_pure (a : α) : (pure a : Attempt α).result = .ok a := rfl

@[simp] theorem result_bind (x : Attempt α) (f : α → Attempt β) :
    (x >>= f).result = x.result >>= fun a => (f a).result := by
  show (Attempt.bind x f).result = _
  unfold Attempt.bind
  cases x.result <;> rfl

@[simp] theorem ok_bind (a : α) (f : α → Except Fault β) : Except.ok a >>= f = f a := rfl

@[simp] theorem error_bind (e : Fault) (f : α → Except Fault β) :
    (Except.error e : Except Fault α) >>= f = .error e := rfl

/-- A chain succeeds just when each part does. -/
theorem bind_eq_ok_iff {x : Except Fault α} {f : α → Except Fault β} {b : β} :
    x >>= f = .ok b ↔ ∃ a, x = .ok a ∧ f a = .ok b := by
  cases x with
  | error e => simp [bind, Except.bind]
  | ok a => simp [bind, Except.bind]

@[simp] theorem result_fail (f : Fault) : (fail f : Attempt α).result = .error f := rfl

@[simp] theorem result_say (level : Level) (text : String) :
    (say level text).result = .ok () := rfl

@[simp] theorem result_ofExcept (x : Except Fault α) : (ofExcept x).result = x := rfl

end Attempt

end Studio
