import Studio.Bus
import Studio.FileName
import Studio.Render
import Studio.Settings

/-! The conductor's state. A conductor stands between a file's source and the sound
of a device: it renders the active file when that is needed, runs the transport, and
looks after the files. Its actions take a state to a state. What they report goes
into the outbox: events with their deliveries, and notes. -/

namespace Studio

/-- How far the conductor is with a piece. -/
inductive Stage
  | idle
  | parsing
  | parsed
  | rendering
  | rendered
  | playing
  | paused
  | stopped
  deriving Repr, DecidableEq

namespace Stage

def name : Stage → String
  | .idle => "idle"
  | .parsing => "parsing"
  | .parsed => "parsed"
  | .rendering => "rendering"
  | .rendered => "rendered"
  | .playing => "playing"
  | .paused => "paused"
  | .stopped => "stopped"

def all : List Stage :=
  [.idle, .parsing, .parsed, .rendering, .rendered, .playing, .paused, .stopped]

end Stage

/-- What has been reported and not yet been fetched. -/
structure Outbox where
  events : List Event := []
  deliveries : List Delivery := []
  notes : List Note := []

structure Conductor (D W : Type) where
  settings : Settings
  libraries : List Library
  device : D
  store : W
  bus : Bus := .full
  random : Random
  stage : Stage := .idle
  /-- The number of the selected file. -/
  selected : Option Nat := none
  /-- The source of the live rendering. -/
  source : Option String := none
  /-- The last rendering, while it is live. -/
  rendering : Option Rendering := none
  /-- The observer of the device's positions. -/
  observer : Option Nat := none
  out : Outbox := {}

namespace Conductor

variable {D W : Type}

/-! ### Reporting -/

def addNotes (notes : List Note) (c : Conductor D W) : Conductor D W :=
  { c with out := { c.out with notes := c.out.notes ++ notes } }

def say (level : Level) (text : String) (c : Conductor D W) : Conductor D W :=
  c.addNotes [.said level text]

/-- Reports an event to the listeners of its channel. -/
def emit (e : Event) (c : Conductor D W) : Conductor D W :=
  let sent := c.bus.emit e
  let c := c.addNotes sent.notes
  match sent.result with
  | .ok deliveries =>
    { c with out :=
      { c.out with
        events := c.out.events ++ [e]
        deliveries := c.out.deliveries ++ deliveries } }
  | .error f => c.say .error f.message

/-- Reports that an action failed. -/
def report (message : String) (cause : Fault) (c : Conductor D W) : Conductor D W :=
  let why := cause.message
  (c.say .error s!"{message} {why}").emit (.error message cause)

def setStage (stage : Stage) (c : Conductor D W) : Conductor D W :=
  if stage = c.stage then c
  else
    let (old, new) := (c.stage.name, stage.name)
    { c.say .info s!"{old} -> {new}" with stage }

/-- Goes to a stage, from some stages only. -/
def advanceStage (sources : List Stage) (stage : Stage) (c : Conductor D W) : Conductor D W :=
  if sources.contains c.stage then c.setStage stage
  else
    let (old, new) := (c.stage.name, stage.name)
    c.say .debug s!"staying {old} instead of becoming {new}"

/-! ### Views -/

variable [FileStore W]

/-- The selected file. -/
def activeFile (c : Conductor D W) : Option ScoreFile :=
  c.selected.bind fun uid => FileStore.file? uid c.store

/-- Whether the active file's source differs from the one that was last rendered. -/
def changed (c : Conductor D W) : Bool :=
  match c.activeFile with
  | some file => c.source != some file.source
  | none => false

end Conductor

end Studio
