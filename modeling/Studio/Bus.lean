import Studio.Attempt
import Studio.Store.Basic
import Studio.Transport

/-! Events, and the bus that brings them to listeners. Each event travels on one
channel. A channel has to be allowed before anyone may listen or report on it, and
its listeners get each event in the order in which they came. -/

namespace Studio

inductive Event
  /-- An action failed: what to tell the user, and why. -/
  | error (message : String) (cause : Fault)
  /-- Whether the active file differs from what was last rendered. -/
  | changed (differs : Bool)
  | transport (e : TransportEvent)
  | position (p : Position)
  | fileSelected (file : ScoreFile)
  | fileCreated (file : ScoreFile)
  | fileDestroyed (file : ScoreFile)
  | fileUpdated (file : ScoreFile)
  | parsing
  | parsed
  | rendering
  | rendered
  deriving Repr, DecidableEq

namespace Event

def channel : Event → Channel
  | .error _ _ => .error
  | .changed _ => .changed
  | .transport ⟨.start, _⟩ => .transportStart
  | .transport ⟨.stop, _⟩ => .transportStop
  | .transport ⟨.pause, _⟩ => .transportPause
  | .transport ⟨.loop, _⟩ => .transportLoop
  | .position _ => .transportPosition
  | .fileSelected _ => .fileSelected
  | .fileCreated _ => .fileCreated
  | .fileDestroyed _ => .fileDestroyed
  | .fileUpdated _ => .fileUpdated
  | .parsing => .composerParsing
  | .parsed => .composerParsed
  | .rendering => .composerRendering
  | .rendered => .composerRendered

end Event

/-- An event as one listener gets it. -/
structure Delivery where
  listener : Nat
  event : Event
  deriving Repr, DecidableEq

/-- The allowed channels, each with its listeners. -/
structure Bus where
  channels : List (Channel × List Nat) := []
  deriving Repr, DecidableEq

namespace Bus

/-- The listeners of a channel, if it is allowed. -/
def listeners? (b : Bus) (c : Channel) : Option (List Nat) :=
  (b.channels.find? (·.1 = c)).map (·.2)

def isAllowed (b : Bus) (c : Channel) : Bool := (b.listeners? c).isSome

/-- A channel that is allowed already keeps its listeners. -/
def allow (c : Channel) (b : Bus) : Bus :=
  if b.isAllowed c then b else ⟨b.channels ++ [(c, [])]⟩

/-- A bus with every channel allowed. -/
def full : Bus := Channel.all.foldl (fun b c => b.allow c) {}

/-- Adds a listener to a channel. -/
def listen (c : Channel) (listener : Nat) (b : Bus) : Except Fault Bus :=
  if b.isAllowed c then
    .ok ⟨b.channels.map fun (c', ls) => (c', if c' = c then ls ++ [listener] else ls)⟩
  else .error (.unregistered c)

/-- Brings an event to the listeners of its channel. -/
def emit (e : Event) (b : Bus) : Attempt (List Delivery) :=
  match b.listeners? e.channel with
  | none => .fail (.unregistered e.channel)
  | some ls => do
    let (channel, count) := (e.channel.name, ls.length)
    Attempt.say .debug s!"emit {channel} to {count} listener(s)"
    return ls.map (⟨·, e⟩)

end Bus

end Studio
