import Studio.Random

/-! Names for new files: a mood and a piece. -/

namespace Studio.FileName

def moods : List String :=
  ["Groovy", "Mellow", "Stormy", "Velvet", "Lucky", "Sleepy", "Neon", "Dusty", "Brassy",
    "Cosmic", "Wobbly", "Sunny"]

def pieces : List String :=
  ["Groove", "Jam", "Etude", "Riff", "Loop", "Ballad", "Anthem", "Shuffle", "Waltz", "Demo",
    "Sketch"]

/-- A two-word name such as `Velvet Shuffle`. -/
def make (r : Random) : String × Random :=
  let (mood, r) := r.choose moods
  let (piece, r) := r.choose pieces
  (mood.getD "Untitled" ++ " " ++ piece.getD "Piece", r)

end Studio.FileName
