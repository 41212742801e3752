import Studio.Fault
import Studio.Uid

/-! Files of score text, and what keeps them. -/

namespace Studio

structure ScoreFile where
  uid : Nat
  name : String
  source : String
  deriving Repr, DecidableEq

open Json in
instance : Persisted ScoreFile where
  schema := .record "FileRecord" <| .need "uid" uidSchema <| .need "name" .text <|
    .need "source" .text .nil
  toValue f := .obj [("uid", .int f.uid), ("name", .str f.name), ("source", .str f.source)]
  ofValue v := ⟨(v.get "uid").nat, (v.get "name").text, (v.get "source").text⟩

class FileStore (W : Type) where
  create : (name source : String) → W → Except Fault ScoreFile × W
  /-- Takes a file away and gives what it held. -/
  destroy : (uid : Nat) → W → Except Fault ScoreFile × W
  /-- Replaces a file's source and gives the file as it then is. -/
  update : (uid : Nat) → (source : String) → W → Except Fault ScoreFile × W
  file? : (uid : Nat) → W → Option ScoreFile
  /-- The oldest file. -/
  first? : W → Option ScoreFile
  save : W → Except Fault Unit × W

end Studio
