/-! The channels on which the studio reports what happens. -/

namespace Studio

inductive Channel
  | error
  | changed
  | transportStart
  | transportStop
  | transportPause
  | transportLoop
  | transportPosition
  | fileSelected
  | fileCreated
  | fileDestroyed
  | fileUpdated
  | composerParsing
  | composerParsed
  | composerRendering
  | composerRendered
  deriving Repr, DecidableEq

namespace Channel

def name : Channel → String
  | .error => "error"
  | .changed => "changed"
  | .transportStart => "transport:start"
  | .transportStop => "transport:stop"
  | .transportPause => "transport:pause"
  | .transportLoop => "transport:loop"
  | .transportPosition => "transport:position"
  | .fileSelected => "file:selected"
  | .fileCreated => "file:created"
  | .fileDestroyed => "file:destroyed"
  | .fileUpdated => "file:updated"
  | .composerParsing => "composer:parsing"
  | .composerParsed => "composer:parsed"
  | .composerRendering => "composer:rendering"
  | .composerRendered => "composer:rendered"

def all : List Channel :=
  [.error, .changed, .transportStart, .transportStop, .transportPause, .transportLoop,
    .transportPosition, .fileSelected, .fileCreated, .fileDestroyed, .fileUpdated,
    .composerParsing, .composerParsed, .composerRendering, .composerRendered]

def ofName? (name : String) : Option Channel :=
  all.find? (·.name = name)

end Channel

end Studio
