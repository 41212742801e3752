import Studio.Attempt

/-! Named entries in the order in which they were added. Adding checks that the
name is new; nothing is replaced or taken away. -/

namespace Studio

class Named (α : Type) where
  name : α → String

export Named (name)

structure Registry (α : Type) where
  entries : List α := []

namespace Registry

variable {α : Type} [Named α]

/-- The first entry of that name. -/
def get? (r : Registry α) (key : String) : Option α :=
  r.entries.find? (name · = key)

def contains (r : Registry α) (key : String) : Bool := (r.get? key).isSome

def names (r : Registry α) : List String := r.entries.map name

def size (r : Registry α) : Nat := r.entries.length

/-- Appends an entry whose name is new. -/
def add (kind : String) (a : α) (r : Registry α) : Attempt (Registry α) :=
  let key := name a
  if r.contains key then .fail (.duplicate kind key)
  else do
    Attempt.say .debug s!"adding {kind} '{key}'"
    return ⟨r.entries ++ [a]⟩

theorem contains_iff (r : Registry α) (key : String) :
    r.contains key = true ↔ key ∈ r.names := by
  simp [contains, get?, names, List.find?_isSome]

theorem add_result (kind : String) (a : α) (r : Registry α) :
    (r.add kind a).result =
      if r.contains (name a) then .error (.duplicate kind (name a))
      else .ok ⟨r.entries ++ [a]⟩ := by
  by_cases h : r.contains (name a) = true
  · simp [add, h]
  · simp [add, h]

end Registry

end Studio
