import Studio.Composing.Session

/-! Scores: the text in which an author describes a session. A score lists library
entries under session names and the patches between them. Composing it means
running these as verbs one after another. Tracks and phrases may be written, and
fail when they are composed. -/

namespace Studio

open Composing

/-- A library entry under a name of its own in the session. Without a library it
comes from the default one. -/
structure ScoreEntry where
  name : String
  key : String
  library : Option String := none
  deriving Repr, DecidableEq

structure Score where
  session : String
  instruments : List ScoreEntry := []
  effects : List ScoreEntry := []
  patches : List Patch := []
  tracks : List Json.Value := []
  phrases : List Json.Value := []
  deriving BEq

/-! ### As JSON -/

open Json in
instance : Persisted ScoreEntry where
  schema := .record "NodeDecl" <| .need "name" .text <| .need "use" .text <|
    .maybe "library" .text .nil
  toValue e := .obj <|
    [("name", .str e.name), ("use", .str e.key)] ++
      (e.library.map fun l => ("library", .str l)).toList
  ofValue v := ⟨(v.get "name").text, (v.get "use").text, (v.get "library").text?⟩

open Json in
instance : Persisted Score where
  schema := .record "Score" <| .fill "session" (.str "untitled") .text <|
    .fill "instruments" (.arr []) (.list (Persisted.schema ScoreEntry)) <|
    .fill "effects" (.arr []) (.list (Persisted.schema ScoreEntry)) <|
    .fill "patches" (.arr []) (.list (Persisted.schema Patch)) <|
    .fill "tracks" (.arr []) (.list .any) <| .fill "phrases" (.arr []) (.list .any) .nil
  toValue s := .obj
    [("session", .str s.session),
      ("instruments", .arr (s.instruments.map Persisted.toValue)),
      ("effects", .arr (s.effects.map Persisted.toValue)),
      ("patches", .arr (s.patches.map Persisted.toValue)),
      ("tracks", .arr s.tracks), ("phrases", .arr s.phrases)]
  ofValue v :=
    { session := (v.get "session").text
      instruments := (v.get "instruments").items.map Persisted.ofValue
      effects := (v.get "effects").items.map Persisted.ofValue
      patches := (v.get "patches").items.map Persisted.ofValue
      tracks := (v.get "tracks").items
      phrases := (v.get "phrases").items }

namespace Score

def ofText (code : String) : Except Fault Score :=
  (Json.read code).mapError .unreadable

/-! ### Composing -/

/-- The first library that the entry may come from. -/
def findLibrary (libraries : List Library) (default : String) (e : ScoreEntry) :
    Except Fault Library :=
  let name := e.library.getD default
  match libraries.find? (·.name = name) with
  | some l => .ok l
  | none => .error (.notLoaded e.name name)

/-- An entry as a step: the use of a library node, or the failure to find the
library. -/
def useStep (libraries : List Library) (default : String) (role : Role) (e : ScoreEntry) :
    Step SessionVerb :=
  match findLibrary libraries default e with
  | .ok l => .verb (.use role l e.key e.name) false
  | .error f => .fail f false

/-- The name of a track or phrase as it is written, if it has one. -/
def nameOf (v : Json.Value) : String := (v.get "name").text?.getD "unnamed"

/-- A builder for what cannot be built. -/
def trackBuilder : Builder := ⟨0, none, .error (.author "tracks can't be built")⟩

/-- The steps that a score stands for. Of several tracks or phrases the first one
fails already. -/
def steps (libraries : List Library) (default : String) (s : Score) : List (Step SessionVerb) :=
  s.instruments.map (useStep libraries default .instrument) ++
    s.effects.map (useStep libraries default .effect) ++
    s.patches.map (fun p => .verb (.patch p) false) ++
    (s.tracks.take 1).map (fun v => .verb (.node .track (nameOf v) trackBuilder) false) ++
    (s.phrases.take 1).map (fun v => .verb (.phrase (nameOf v)) false)

def compose (libraries : List Library) (default : String) (s : Score) : Attempt Session :=
  (Session.compose s.session (s.steps libraries default)).attempt

end Score

end Studio
