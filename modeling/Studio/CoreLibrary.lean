import Studio.Composing.Library

/-! The library that comes with the studio. Scores that name no library draw from
it. -/

namespace Studio.CoreLibrary

open Composing

def libraryName : String := "core"

/-- Name, engine key and parameters of each instrument. -/
def instruments : List (String × String × List (String × Float)) :=
  [("piano", "sampler", [("release", 1.0), ("volume", -6.0)]),
    ("electric-bass", "mono-synth", [("attack", 0.01), ("release", 0.4), ("filter-q", 2.0)]),
    ("mono-synth", "mono-synth",
      [("attack", 0.05), ("decay", 0.2), ("sustain", 0.6), ("release", 0.8)]),
    ("organ", "fm-synth", [("harmonicity", 3.0), ("modulation-index", 10.0)]),
    ("violin", "sampler", [("release", 1.5), ("volume", -4.0)]),
    ("flute", "sampler", [("release", 0.6), ("volume", -8.0)]),
    ("drums", "drum-kit", [("volume", -2.0)])]

def effects : List (String × String × List (String × Float)) :=
  [("reverb", "reverb", [("decay", 4.0), ("wet", 0.5)]),
    ("delay", "feedback-delay", [("delay-time", 0.25), ("feedback", 0.4)]),
    ("chorus", "chorus", [("frequency", 4.0), ("delay-time", 2.5), ("depth", 0.5)]),
    ("distortion", "distortion", [("distortion", 0.4)]),
    ("tremolo", "tremolo", [("frequency", 9.0), ("depth", 0.75)]),
    ("phaser", "phaser", [("frequency", 0.5), ("octaves", 3.0), ("base-frequency", 350.0)]),
    ("pitch-shift", "pitch-shift", [("pitch", 12.0), ("window-size", 0.1)]),
    ("vibrato", "vibrato", [("frequency", 5.0), ("depth", 0.1)])]

/-! ### Score texts -/

/-- An object on one line, given its members. -/
def object (members : List (String × String)) : String :=
  let texts := members.map fun (key, v) => "\"" ++ key ++ "\": \"" ++ v ++ "\""
  "\x7b " ++ ", ".intercalate texts ++ " \x7d"

def entry (name key : String) : String := object [("name", name), ("use", key)]

def patch (sourceKind source targetKind target : String) : String :=
  object [("input-type", sourceKind), ("input", source), ("output-type", targetKind),
    ("output", target)]

/-- A member whose value is an array with one item a line. -/
def block (key : String) (items : List String) : String :=
  "  \"" ++ key ++ "\": [\n" ++ ",\n".intercalate (items.map ("    " ++ ·)) ++ "\n  ]"

def line (key text : String) : String := "  \"" ++ key ++ "\": " ++ text

/-- A score text, given the lines of its members. -/
def scoreText (members : List String) : String :=
  "\x7b\n" ++ ",\n".intercalate members ++ "\n\x7d"

def effectChain : String := scoreText
  [block "effects" [entry "drive" "distortion", entry "room" "reverb"],
    block "patches" [patch "effect" "drive" "effect" "room"]]

def blank : String := scoreText
  [line "session" "\"untitled\"", line "instruments" "[]", line "effects" "[]",
    line "patches" "[]"]

def piano : String := scoreText
  [line "session" "\"untitled\"",
    line "instruments" ("[" ++ entry "piano" "piano" ++ "]"),
    line "effects" ("[" ++ entry "room" "reverb" ++ "]"),
    block "patches" [patch "instrument" "piano" "effect" "room"]]

def kitchenSync : String := scoreText
  [line "session" "\"kitchen-sync\"",
    block "instruments"
      [entry "keys" "piano", entry "bass" "electric-bass", entry "lead" "mono-synth",
        entry "kit" "drums"],
    block "effects" [entry "wobble" "chorus", entry "echo" "delay", entry "hall" "reverb"],
    block "patches"
      [patch "instrument" "keys" "effect" "hall", patch "instrument" "lead" "effect" "wobble",
        patch "effect" "wobble" "effect" "echo", patch "effect" "echo" "effect" "hall"]]

/-! ### Composition -/

/-- Nodes with builders numbered from `id` on. -/
def nodeSteps (role : Role) (id : Nat) (nodes : List (String × String × List (String × Float))) :
    List (Step LibraryVerb) :=
  nodes.zipIdx.map fun ((name, key, parameters), i) =>
    let processor : Processor := ⟨key, parameters.map fun (name, value) => ⟨name, value⟩⟩
    .verb (.node role name ⟨id + i, none, .ok processor⟩) false

def excerptStep (genre : Genre) (name description source : String) : Step LibraryVerb :=
  .verb (.excerpt genre name
    [.verb (.description description) false, .verb (.source source) false]) false

def steps (id : Nat) : List (Step LibraryVerb) :=
  nodeSteps .instrument id instruments ++ nodeSteps .effect (id + instruments.length) effects ++
    [excerptStep .snippet "effect-chain" "A distortion feeding a reverb." effectChain,
      excerptStep .template "blank" "An empty session." blank,
      excerptStep .template "piano" "A piano in a room." piano,
      excerptStep .demo "kitchen-sync" "A little of everything, patched together." kitchenSync]

/-- How many builders the library has. -/
def builderCount : Nat := instruments.length + effects.length

def compose (id : Nat) : Course Library := Library.compose libraryName (steps id)

end Studio.CoreLibrary
