import Studio.Device.Basic
import Studio.Score

/-! Rendering: a score composed from libraries, its graph built, and the graph given
to a device that holds a buffer. The device is left as it was unless all of it
succeeds. -/

namespace Studio

/-- A session and its graph. -/
structure Rendering where
  session : Session
  graph : Graph

namespace Score

/-- The session of a score and its graph. -/
def build (libraries : List Library) (default : String) (s : Score) : Attempt Rendering := do
  let session ← s.compose libraries default
  let graph ← session.graph
  return ⟨session, graph⟩

def render {D : Type} [AudioDevice D] (libraries : List Library) (default : String) (s : Score)
    (d : D) : Attempt Rendering × D :=
  let built := s.build libraries default
  match built.result with
  | .error _ => (built, d)
  | .ok r =>
    match AudioDevice.load r.graph d with
    | (.ok (), d) => (built, d)
    | (.error f, d) => ({ built with result := .error f }, d)

/-- Renders a score text. -/
def renderText {D : Type} [AudioDevice D] (libraries : List Library) (default : String)
    (code : String) (d : D) : Attempt Rendering × D :=
  match ofText code with
  | .error f => (.fail f, d)
  | .ok s => s.render libraries default d

end Score

end Studio
