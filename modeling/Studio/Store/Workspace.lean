import Studio.Store.Basic

/-! A workspace: files kept in memory in the order of their creation. Saving it
writes everything as JSON and keeps the text. -/

namespace Studio

structure Workspace where
  mint : UidMint := {}
  files : List ScoreFile := []
  /-- The text of the last save. -/
  saved : Option String := none
  deriving Repr, DecidableEq

open Json in
instance : Persisted Workspace where
  schema := .record "MemoryWorkspace" <| .need "uid-factory" (Persisted.schema UidMint) <|
    .need "files" (.list (Persisted.schema ScoreFile)) .nil
  toValue w := .obj
    [("uid-factory", Persisted.toValue w.mint),
      ("files", .arr (w.files.map Persisted.toValue))]
  ofValue v :=
    { mint := Persisted.ofValue (v.get "uid-factory")
      files := (v.get "files").items.map Persisted.ofValue }

namespace Workspace

def file? (uid : Nat) (w : Workspace) : Option ScoreFile := w.files.find? (·.uid = uid)

def create (name source : String) (w : Workspace) : ScoreFile × Workspace :=
  let (uid, mint) := w.mint.mint
  let file : ScoreFile := ⟨uid, name, source⟩
  (file, { w with mint, files := w.files ++ [file] })

/-- Takes the first file of that number away. -/
def destroy (uid : Nat) (w : Workspace) : Except Fault ScoreFile × Workspace :=
  match w.file? uid with
  | none => (.error (.noSuchFile uid), w)
  | some file => (.ok file, { w with files := w.files.eraseP (·.uid = uid) })

/-- Files with the first one of that number replaced. -/
def replace (file : ScoreFile) : List ScoreFile → List ScoreFile
  | [] => []
  | f :: fs => if f.uid = file.uid then file :: fs else f :: replace file fs

def update (uid : Nat) (source : String) (w : Workspace) : Except Fault ScoreFile × Workspace :=
  match w.file? uid with
  | none => (.error (.noSuchFile uid), w)
  | some file =>
    let file := { file with source }
    (.ok file, { w with files := replace file w.files })

def text (w : Workspace) : String := Json.write .compact w

def save (w : Workspace) : Workspace := { w with saved := some w.text }

/-- Tells the mint of every file's number. -/
def noticeFiles (w : Workspace) : Workspace :=
  { w with mint := w.files.foldl (fun mint file => mint.notice file.uid) w.mint }

def ofText (text : String) : Except Fault Workspace :=
  ((Json.read text).map noticeFiles).mapError .unreadable

end Workspace

instance : FileStore Workspace where
  create name source w :=
    let (file, w) := w.create name source
    (.ok file, w)
  destroy := Workspace.destroy
  update := Workspace.update
  file? := Workspace.file?
  first? w := w.files.head?
  save w := (.ok (), w.save)

end Studio
