import Studio.Channel
import Studio.Json.Failure

/-! Everything that can go wrong, as causes. The wording of each is in
`Fault.message`. -/

namespace Studio

inductive Fault
  /-- A property of an entity is missing or has an unacceptable value. -/
  | invalid (kind property reason : String)
  | duplicate (kind name : String)
  | notImplemented (verb : String)
  /-- A mistake that an author describes in their own words. -/
  | mistake (text : String)
  /-- A score entry names a library that is not loaded. -/
  | notLoaded (entry library : String)
  | notInLibrary (library kind key : String)
  | noTemplate (name : String)
  | unregistered (channel : Channel)
  | unreadable (e : Json.ReadError)
  | noSuchFile (uid : Nat)
  | nothingSelected
  | noDevice
  | noBuffer
  /-- A call that was told to fail. -/
  | injected (call : String)
  /-- An error of an author's own making. -/
  | author (text : String)
  deriving Repr, DecidableEq

namespace Fault

def missing (kind property : String) : Fault := .invalid kind property "is required"

def blankName (kind : String) : Fault := .invalid kind "name" "must not be empty"

def message : Fault → String
  | .invalid kind property reason => s!"invalid {kind}: property `{property}` {reason}"
  | .duplicate kind name => s!"{kind} named '{name}' already exists"
  | .notImplemented verb => s!"{verb}() is not implemented"
  | .mistake text => text
  | .notLoaded entry library => s!"'{entry}' wants library '{library}', which isn't loaded"
  | .notInLibrary library kind key => s!"library '{library}' has no {kind} '{key}'"
  | .noTemplate name => s!"no library has a template named '{name}'"
  | .unregistered channel =>
    let name := channel.name
    s!"Unregistered event name \"{name}\""
  | .unreadable e => e.message
  | .noSuchFile uid => s!"no file with uid {uid}"
  | .nothingSelected => "no file is selected"
  | .noDevice => "no audio device available"
  | .noBuffer => "can't load a graph without an audio buffer"
  | .injected call => s!"injected {call} failure"
  | .author text => text

end Fault

end Studio
