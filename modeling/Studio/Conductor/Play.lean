import Studio.Conductor.Basic

/-! Rendering and playing. A rendering is live from its success until the next one is
begun; while it is live the device holds a buffer for it. A rendering of the same
source is not done again. -/

namespace Studio.Conductor

variable {D W : Type} [AudioDevice D] [FileStore W]

omit [FileStore W] in
/-- Gives up the live rendering and its buffer. -/
def release (c : Conductor D W) : Conductor D W :=
  let device := match c.observer with
    | some key => AudioDevice.forget key c.device
    | none => c.device
  { c with
    rendering := none, source := none, observer := none
    device := AudioDevice.release device }

omit [FileStore W] in
/-- Composes a source text and loads its graph, announcing each stage. -/
def composeAndLoad (source : String) (c : Conductor D W) :
    Except Fault Rendering × Conductor D W :=
  let c := (c.setStage .parsing).emit .parsing
  match Score.ofText source with
  | .error f => (.error f, c)
  | .ok score =>
    let c := (c.setStage .parsed).emit .parsed
    let c := (c.setStage .rendering).emit .rendering
    let (made, device) := score.render c.libraries c.settings.defaultLibrary c.device
    (made.result, { c with device }.addNotes made.notes)

omit [FileStore W] in
/-- Observes positions if the settings ask for it. -/
def observe (c : Conductor D W) : Conductor D W :=
  if c.settings.reportPositions then
    let (key, device) := AudioDevice.observe c.device
    { c with device, observer := some key }
  else c

omit [FileStore W] in
/-- Makes a rendering the live one. -/
def keep (r : Rendering) (source : String) (c : Conductor D W) : Conductor D W :=
  ((({ c with rendering := some r, source := some source }.observe).setStage .rendered).emit
    .rendered).emit (.changed false)

omit [FileStore W] in
/-- Renders a source text in place of the live rendering. -/
def renderAfresh (source : String) (c : Conductor D W) : Except Fault Unit × Conductor D W :=
  let c := c.release
  match AudioDevice.start c.device with
  | (.error f, device) => (.error f, { c with device })
  | (.ok (), device) =>
    match { c with device }.composeAndLoad source with
    | (.ok r, c) => (.ok (), c.keep r source)
    | (.error f, c) => (.error f, c.release.setStage .idle)

/-- Renders the active file unless its source is the one that is live. -/
def ensureRendered (c : Conductor D W) : Except Fault Unit × Conductor D W :=
  match c.activeFile with
  | none => (.error .nothingSelected, c)
  | some file =>
    if c.rendering.isSome && !c.changed then
      (.ok (), c.say .info "source unchanged; reusing the rendered graph")
    else c.renderAfresh file.source

/-! ### Actions -/

/-- Renders the active file if its source changed since the last rendering. -/
def render (c : Conductor D W) : Conductor D W :=
  match c.ensureRendered with
  | (.ok (), c) => c
  | (.error f, c) => c.report "Unable to render this file." f

/-- Renders if need be and starts the transport. -/
def play (c : Conductor D W) : Conductor D W :=
  match c.ensureRendered with
  | (.error f, c) => c.report "Unable to play this file." f
  | (.ok (), c) =>
    match AudioDevice.play c.device with
    | (.ok (), device) => { c with device }.setStage .playing
    | (.error f, device) => { c with device }.report "Unable to play this file." f

omit [FileStore W] in
/-- Pauses the transport. The device is told in any case, but only one who plays
becomes paused. -/
def pause (c : Conductor D W) : Conductor D W :=
  match AudioDevice.pause c.device with
  | (.ok (), device) => { c with device }.advanceStage [.playing] .paused
  | (.error f, device) => { c with device }.report "Unable to pause audio." f

omit [FileStore W] in
/-- Stops the transport and reports the start of the piece as the position. -/
def stop (c : Conductor D W) : Conductor D W :=
  match AudioDevice.stop c.device with
  | (.ok (), device) =>
    ({ c with device }.advanceStage [.playing, .paused] .stopped).emit (.position .zero)
  | (.error f, device) => { c with device }.report "Unable to stop audio." f

omit [FileStore W] in
/-- Takes the positions that the device has reported to the live rendering. -/
def takePositions (c : Conductor D W) : List Position × Conductor D W :=
  match c.observer with
  | none => ([], c)
  | some key =>
    let (positions, device) := AudioDevice.takePositions key c.device
    (positions, { c with device })

omit [FileStore W] in
/-- Passes on what the device has reported since the last time: events, then
positions. -/
def dispatch (c : Conductor D W) : Conductor D W :=
  let (events, device) := AudioDevice.takeEvents c.device
  let c := (events.map Event.transport).foldl (fun c e => c.emit e) { c with device }
  let (positions, c) := c.takePositions
  (positions.map Event.position).foldl (fun c e => c.emit e) c

omit [FileStore W] in
/-- The conductor goes away and gives the buffer back. -/
def close (c : Conductor D W) : Conductor D W :=
  { c with device := AudioDevice.release c.device }

end Studio.Conductor
