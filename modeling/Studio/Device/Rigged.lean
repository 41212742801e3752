import Studio.Device.Basic

/-! A device around another one that lists the calls it gets and can be told to fail
the next call of some kind, which then does not reach the inner device. Calls that
cannot fail use the order up and go through. -/

namespace Studio

inductive DeviceCall
  | start
  | release
  | load
  | play
  | pause
  | stop
  | observe
  deriving Repr, DecidableEq

namespace DeviceCall

def name : DeviceCall → String
  | .start => "start"
  | .release => "release"
  | .load => "load"
  | .play => "play"
  | .pause => "pause"
  | .stop => "stop"
  | .observe => "observe"

def all : List DeviceCall := [.start, .release, .load, .play, .pause, .stop, .observe]

def ofName? (name : String) : Option DeviceCall := all.find? (·.name = name)

end DeviceCall

structure RiggedDevice (D : Type) where
  wrapped : D
  calls : List DeviceCall := []
  /-- The kind of call that fails next. -/
  failing : Option DeviceCall := none

namespace RiggedDevice

variable {D : Type}

/-- Lists a call; the flag says whether it is to fail. -/
def record (call : DeviceCall) (d : RiggedDevice D) : Bool × RiggedDevice D :=
  let listed := { d with calls := d.calls ++ [call] }
  if d.failing = some call then (true, { listed with failing := none }) else (false, listed)

/-- A call that cannot fail. -/
def pass (call : DeviceCall) (f : D → α × D) (d : RiggedDevice D) : α × RiggedDevice D :=
  let (_, d) := d.record call
  let (a, wrapped) := f d.wrapped
  (a, { d with wrapped })

/-- A call that fails if it was told to. -/
def attempt (call : DeviceCall) (f : D → Except Fault Unit × D) (d : RiggedDevice D) :
    Except Fault Unit × RiggedDevice D :=
  let (fails, d) := d.record call
  if fails then (.error (.injected call.name), d)
  else
    let (result, wrapped) := f d.wrapped
    (result, { d with wrapped })

end RiggedDevice

open RiggedDevice in
instance {D : Type} [AudioDevice D] : AudioDevice (RiggedDevice D) where
  start := attempt .start AudioDevice.start
  release d := (d.pass .release fun wrapped => ((), AudioDevice.release wrapped)).2
  load g := attempt .load (AudioDevice.load g)
  play := attempt .play AudioDevice.play
  pause := attempt .pause AudioDevice.pause
  stop := attempt .stop AudioDevice.stop
  takeEvents d :=
    let (events, wrapped) := AudioDevice.takeEvents d.wrapped
    (events, { d with wrapped })
  observe := pass .observe AudioDevice.observe
  takePositions key d :=
    let (positions, wrapped) := AudioDevice.takePositions key d.wrapped
    (positions, { d with wrapped })
  forget key d := { d with wrapped := AudioDevice.forget key d.wrapped }

end Studio
