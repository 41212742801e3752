import Studio.Json.Persisted

/-! The transport: where it is in the piece, what it is doing, and what it reports of
its own accord. -/

namespace Studio

structure Position where
  measure : Nat
  beat : Nat
  subdivision : Nat
  deriving Repr, DecidableEq

/-- The start of the piece. -/
def Position.zero : Position := ⟨0, 0, 0⟩

inductive TransportState
  | stopped
  | playing
  | paused
  deriving Repr, DecidableEq

namespace TransportState

def name : TransportState → String
  | .stopped => "stopped"
  | .playing => "playing"
  | .paused => "paused"

def all : List TransportState := [.stopped, .playing, .paused]

def ofName? (name : String) : Option TransportState := all.find? (·.name = name)

end TransportState

/-- What happened to the transport. -/
inductive Move
  | start
  | stop
  | pause
  /-- It went back to the start of its loop. -/
  | loop
  deriving Repr, DecidableEq

def Move.name : Move → String
  | .start => "start"
  | .stop => "stop"
  | .pause => "pause"
  | .loop => "loop"

/-- A move, with what the transport was doing right after it. -/
structure TransportEvent where
  move : Move
  state : TransportState
  deriving Repr, DecidableEq

/-! ### As JSON -/

open Json in
instance : Persisted Position where
  schema :=
    let number : Schema := .whole "u32" (Nat.pow 2 32)
    .record "TransportPosition" <| .need "measure" number <| .need "beat" number <|
      .need "subdivision" number .nil
  toValue p := .obj
    [("measure", .int p.measure), ("beat", .int p.beat), ("subdivision", .int p.subdivision)]
  ofValue v := ⟨(v.get "measure").nat, (v.get "beat").nat, (v.get "subdivision").nat⟩

open Json in
instance : Persisted TransportState where
  schema := .choice (TransportState.all.map (·.name))
  toValue s := .str s.name
  ofValue v := (TransportState.ofName? v.text).getD .stopped

end Studio
