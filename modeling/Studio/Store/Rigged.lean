import Studio.Store.Basic

/-! A store around another one that numbers the names of new files and can be told to
fail the next call of some kind, which then does not reach the inner store. -/

namespace Studio

inductive StoreCall
  | create
  | destroy
  | update
  | save
  deriving Repr, DecidableEq

namespace StoreCall

def name : StoreCall → String
  | .create => "create"
  | .destroy => "destroy"
  | .update => "update"
  | .save => "save"

def all : List StoreCall := [.create, .destroy, .update, .save]

def ofName? (name : String) : Option StoreCall := all.find? (·.name = name)

end StoreCall

structure RiggedStore (W : Type) where
  wrapped : W
  /-- How many files have been created. -/
  created : Nat := 0
  /-- The kind of call that fails next. -/
  failing : Option StoreCall := none

namespace RiggedStore

variable {W : Type}

/-- A call that fails if it was told to. -/
def attempt (call : StoreCall) (f : W → Except Fault α × W) (w : RiggedStore W) :
    Except Fault α × RiggedStore W :=
  if w.failing = some call then (.error (.injected call.name), { w with failing := none })
  else
    let (result, wrapped) := f w.wrapped
    (result, { w with wrapped })

end RiggedStore

open RiggedStore in
instance {W : Type} [FileStore W] : FileStore (RiggedStore W) where
  create _ source w :=
    let number := w.created + 1
    let (result, w) := w.attempt .create (FileStore.create s!"file-{number}" source)
    match result with
    | .ok file => (.ok file, { w with created := number })
    | .error f => (.error f, w)
  destroy uid := attempt .destroy (FileStore.destroy uid)
  update uid source := attempt .update (FileStore.update uid source)
  file? uid w := FileStore.file? uid w.wrapped
  first? w := FileStore.first? w.wrapped
  save := attempt .save FileStore.save

end Studio
