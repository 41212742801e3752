import Studio.Json.Persisted

/-! Numbers that tell the files of a workspace apart. The mint hands out one number
after another and skips those that it is told of. -/

namespace Studio

/-- Bound of the numbers that identify files. -/
def uidBound : Nat := Nat.pow 2 64

open Json in
def uidSchema : Schema := .whole "usize" uidBound

structure UidMint where
  next : Nat := 1
  deriving Repr, DecidableEq

namespace UidMint

/-- The next number. After the largest one comes 0. -/
def mint (m : UidMint) : Nat × UidMint := (m.next, ⟨(m.next + 1) % uidBound⟩)

/-- Makes sure that a number which came from elsewhere is not handed out again. -/
def notice (uid : Nat) (m : UidMint) : UidMint := ⟨max m.next (uid + 1)⟩

end UidMint

open Json in
instance : Persisted UidMint where
  schema := .record "UidFactory" <| .need "next-uid-value" uidSchema .nil
  toValue m := .obj [("next-uid-value", .int m.next)]
  ofValue v := ⟨(v.get "next-uid-value").nat⟩

end Studio
