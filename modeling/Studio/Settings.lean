import Studio.Fault
import Studio.Json.Persisted

/-! Settings that change how the studio composes and renders, with a mark that says
whether they are as they were last saved. -/

namespace Studio

structure Settings where
  /-- The library of score entries that name none. -/
  defaultLibrary : String := "core"
  /-- The template whose source new files have. -/
  newFileTemplate : String := "blank"
  /-- Whether a render asks the device for its positions. -/
  reportPositions : Bool := true
  saved : Bool := false
  deriving Repr, DecidableEq

open Json in
instance : Persisted Settings where
  schema := .record "Settings" <| .fill "default-library" (.str "core") .text <|
    .fill "new-file-template" (.str "blank") .text <|
    .fill "report-positions" (.bool true) .flag .nil
  toValue s := .obj
    [("default-library", .str s.defaultLibrary), ("new-file-template", .str s.newFileTemplate),
      ("report-positions", .bool s.reportPositions)]
  ofValue v :=
    { defaultLibrary := (v.get "default-library").text
      newFileTemplate := (v.get "new-file-template").text
      reportPositions := (v.get "report-positions").truth }

namespace Settings

def markSaved (s : Settings) : Settings := { s with saved := true }

def needSave (s : Settings) : Settings := { s with saved := false }

def ofText (text : String) : Except Fault Settings :=
  ((Json.read text).map markSaved).mapError .unreadable

/-- The settings as indented JSON. -/
def text (s : Settings) : String := Json.write .indented s

/-- The text to save, and the settings once it is saved. -/
def save (s : Settings) : String × Settings := (s.text, s.markSaved)

def setDefaultLibrary (name : String) (s : Settings) : Settings :=
  if name = s.defaultLibrary then s else { s with defaultLibrary := name }.needSave

def setNewFileTemplate (name : String) (s : Settings) : Settings :=
  if name = s.newFileTemplate then s else { s with newFileTemplate := name }.needSave

def setReportPositions (report : Bool) (s : Settings) : Settings :=
  if report = s.reportPositions then s else { s with reportPositions := report }.needSave

end Settings

end Studio
