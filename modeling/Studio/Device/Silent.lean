import Studio.Device.Basic

/-! A device that makes no sound. It does what it is told, keeps count of its
buffers, and moves its transport when told to. An observer that went away is
dropped the next time the transport moves. -/

namespace Studio

/-- An observer of positions, with those that it has not seen yet. -/
structure Observer where
  key : Nat
  listening : Bool := true
  queue : List Position := []
  deriving Repr, DecidableEq

structure SilentDevice where
  state : TransportState := .stopped
  hasBuffer : Bool := false
  started : Nat := 0
  released : Nat := 0
  graph : Graph := []
  position : Position := .zero
  failsNextStart : Bool := false
  events : List TransportEvent := []
  observers : List Observer := []
  /-- How many observers there have been. -/
  observed : Nat := 0

namespace SilentDevice

def start (d : SilentDevice) : Except Fault Unit × SilentDevice :=
  if d.failsNextStart then (.error .noDevice, { d with failsNextStart := false })
  else (.ok (), { d with hasBuffer := true, started := d.started + 1 })

def release (d : SilentDevice) : SilentDevice :=
  if d.hasBuffer then { d with hasBuffer := false, released := d.released + 1 } else d

def load (g : Graph) (d : SilentDevice) : Except Fault Unit × SilentDevice :=
  if d.hasBuffer then (.ok (), { d with graph := g }) else (.error .noBuffer, d)

/-- Queues a move with the state that the transport is in. -/
def send (move : Move) (d : SilentDevice) : SilentDevice :=
  { d with events := d.events ++ [⟨move, d.state⟩] }

def play (d : SilentDevice) : SilentDevice := { d with state := .playing }.send .start

def pause (d : SilentDevice) : SilentDevice := { d with state := .paused }.send .pause

/-- Observers are not told that the position is the start again. -/
def stop (d : SilentDevice) : SilentDevice :=
  { d with state := .stopped, position := .zero }.send .stop

/-- Makes the next start fail. -/
def failNextStart (d : SilentDevice) : SilentDevice := { d with failsNextStart := true }

/-- Moves the transport and tells the observers. -/
def advance (p : Position) (d : SilentDevice) : SilentDevice :=
  { d with
    position := p
    observers := (d.observers.filter (·.listening)).map fun o => { o with queue := o.queue ++ [p] } }

/-- Goes back to the start of the loop. -/
def loop (d : SilentDevice) : SilentDevice := (d.advance .zero).send .loop

def takeEvents (d : SilentDevice) : List TransportEvent × SilentDevice :=
  (d.events, { d with events := [] })

def observe (d : SilentDevice) : Nat × SilentDevice :=
  (d.observed,
    { d with observers := d.observers ++ [{ key := d.observed }], observed := d.observed + 1 })

/-- The observer of that number, unless it went away. -/
def observer? (key : Nat) (d : SilentDevice) : Option Observer :=
  d.observers.find? fun o => o.key = key && o.listening

def takePositions (key : Nat) (d : SilentDevice) : List Position × SilentDevice :=
  (((d.observer? key).map (·.queue)).getD [],
    { d with observers := d.observers.map fun o => if o.key = key then { o with queue := [] } else o })

def forget (key : Nat) (d : SilentDevice) : SilentDevice :=
  { d with
    observers := d.observers.map fun o => if o.key = key then { o with listening := false } else o }

end SilentDevice

instance : AudioDevice SilentDevice where
  start := SilentDevice.start
  release := SilentDevice.release
  load := SilentDevice.load
  play d := (.ok (), d.play)
  pause d := (.ok (), d.pause)
  stop d := (.ok (), d.stop)
  takeEvents := SilentDevice.takeEvents
  observe := SilentDevice.observe
  takePositions := SilentDevice.takePositions
  forget := SilentDevice.forget

end Studio
