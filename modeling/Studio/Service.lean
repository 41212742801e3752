import Studio.Conductor.Files
import Studio.Conductor.Play
import Studio.Text.Quoted

/-! The conductor as a service with a queue of inputs. Each turn takes the next input,
or finds that none has come in time, and then passes on what the device reported.
Every event goes to the client. A quit is answered and ends the service at once; the
inputs after it are never looked at. -/

namespace Studio

inductive Input
  | addFile
  | destroyFile (uid : Nat)
  | pause
  | play
  | render
  | save
  | selectFile (uid : Nat)
  | quit
  | setSource (source : String)
  | stop
  deriving Repr, DecidableEq

namespace Input

/-- An input as the log shows it. -/
def text : Input → String
  | .addFile => "AddFile"
  | .destroyFile uid => s!"DestroyFile(FileUid({uid}))"
  | .pause => "Pause"
  | .play => "Play"
  | .render => "Render"
  | .save => "Save"
  | .selectFile uid => s!"SelectFile(FileUid({uid}))"
  | .quit => "ServiceQuit"
  | .setSource source => "SetFileSource(" ++ Text.quoted source ++ ")"
  | .stop => "Stop"

variable {D W : Type} [AudioDevice D] [FileStore W]

/-- The action that an input asks for. A quit asks for none. -/
def perform (input : Input) (c : Conductor D W) : Conductor D W :=
  match input with
  | .addFile => c.addFile
  | .destroyFile uid => c.destroyFile uid
  | .pause => c.pause
  | .play => c.play
  | .render => c.render
  | .save => c.save
  | .selectFile uid => c.selectFile uid
  | .quit => c
  | .setSource source => c.setSource source
  | .stop => c.stop

end Input

/-- What a turn of the service finds in the queue. -/
inductive Turn
  | input (i : Input)
  | idle
  deriving Repr, DecidableEq

/-- What the client of a service receives. -/
inductive Answer
  | event (e : Event)
  | quit
  deriving Repr, DecidableEq

namespace Service

variable {D W : Type} [AudioDevice D] [FileStore W]

/-- The key under which the client listens. -/
def client : Nat := 0

/-- A conductor with the client as a listener on every channel. -/
def attach (c : Conductor D W) : Conductor D W :=
  let listen (c : Conductor D W) (channel : Channel) : Conductor D W :=
    match c.bus.listen channel client with
    | .ok bus => { c with bus }
    | .error f => c.say .error f.message
  Channel.all.foldl listen c

omit [AudioDevice D] [FileStore W] in
/-- Takes what has been delivered to the client out of the outbox. -/
def fetch (c : Conductor D W) : List Answer × Conductor D W :=
  let mine := c.out.deliveries.filter (·.listener = client)
  (mine.map fun d => .event d.event, { c with out := { c.out with events := [], deliveries := [] } })

/-- Runs the turns until a quit, or until the client has hung up. -/
def run : List Turn → Conductor D W → List Answer × Conductor D W
  | [], c => ([], c)
  | .input .quit :: _, c => ([.quit], c.say .debug (Input.text .quit))
  | .input i :: turns, c =>
    let c := (i.perform (c.say .debug i.text)).dispatch
    let (answers, c) := fetch c
    let (others, c) := run turns c
    (answers ++ others, c)
  | .idle :: turns, c =>
    let (answers, c) := fetch c.dispatch
    let (others, c) := run turns c
    (answers ++ others, c)

/-- Serves a conductor until it is quit, and closes it. -/
def serve (turns : List Turn) (c : Conductor D W) : List Answer × Conductor D W :=
  let (answers, c) := run turns (attach c)
  (answers, c.close)

end Service

end Studio
