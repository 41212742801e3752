import Studio.Conductor.Basic

/-! Looking after files. A file action that fails reports so and changes nothing. -/

namespace Studio.Conductor

variable {D W : Type} [FileStore W]

/-- Makes a file active. -/
def selectFile (uid : Nat) (c : Conductor D W) : Conductor D W :=
  match FileStore.file? uid c.store with
  | none => c.report "Unable to select file." (.noSuchFile uid)
  | some file =>
    let name := file.name
    { c.say .info s!"selected file '{name}'" with selected := some uid }.emit (.fileSelected file)

omit [FileStore W] in
/-- The template for new files: the first of that name in the order of the
libraries. -/
def template (c : Conductor D W) : Except Fault Excerpt :=
  let name := c.settings.newFileTemplate
  match c.libraries.findSome? fun l => l.templates.get? name with
  | some t => .ok t
  | none => .error (.noTemplate name)

/-- Creates a file from the template, with a name of its own. -/
def createFile (c : Conductor D W) : Except Fault ScoreFile × Conductor D W :=
  match c.template with
  | .error f => (.error f, c)
  | .ok t =>
    let (name, random) := FileName.make c.random
    let (result, store) := FileStore.create name t.source c.store
    let c := { c with random, store }
    match result with
    | .error f => (.error f, c)
    | .ok file =>
      let name := file.name
      (.ok file, c.say .info s!"created file '{name}'")

/-- Adds a file and selects it. -/
def addFile (c : Conductor D W) : Conductor D W :=
  match c.createFile with
  | (.ok file, c) => (c.emit (.fileCreated file)).selectFile file.uid
  | (.error f, c) => c.report "Unable to add a new file." f

/-- Selects the oldest file, if there is one, and else nothing. -/
def selectFirst (c : Conductor D W) : Conductor D W :=
  let c := { c with selected := none }
  match FileStore.first? c.store with
  | some file => c.selectFile file.uid
  | none => c

/-- Deletes a file. If it was active, the oldest one left becomes so. -/
def destroyFile (uid : Nat) (c : Conductor D W) : Conductor D W :=
  match FileStore.destroy uid c.store with
  | (.error f, store) => { c with store }.report "Unable to delete file." f
  | (.ok file, store) =>
    let name := file.name
    let c := { c with store }.say .info s!"destroyed file '{name}'"
    let c := if c.selected = some uid then c.selectFirst else c
    c.emit (.fileDestroyed file)

def save (c : Conductor D W) : Conductor D W :=
  match FileStore.save c.store with
  | (.ok (), store) => { c with store }
  | (.error f, store) => { c with store }.report "Unable to save workspace." f

/-- Replaces the active file's source. -/
def setSource (source : String) (c : Conductor D W) : Conductor D W :=
  match c.selected with
  | none => c.report "Unable to update file." .nothingSelected
  | some uid =>
    match FileStore.update uid source c.store with
    | (.ok file, store) =>
      let c := { c with store }.emit (.fileUpdated file)
      c.emit (.changed c.changed)
    | (.error f, store) => { c with store }.report "Unable to update file." f

end Studio.Conductor
