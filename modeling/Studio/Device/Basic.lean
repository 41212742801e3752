import Studio.Graph
import Studio.Transport

/-! Audio devices: what stands between the studio and whatever makes sound. A
device lends an audio buffer, takes graphs while the buffer is held, and runs the
transport. What the transport does is queued until it is fetched; positions are
queued for each observer apart, from the time at which it began to observe. -/

namespace Studio

class AudioDevice (D : Type) where
  start : D → Except Fault Unit × D
  /-- Gives the buffer back. Harmless without one. -/
  release : D → D
  load : Graph → D → Except Fault Unit × D
  play : D → Except Fault Unit × D
  pause : D → Except Fault Unit × D
  stop : D → Except Fault Unit × D
  /-- The events since the last time, which are then gone. -/
  takeEvents : D → List TransportEvent × D
  /-- A new observer of positions, named by a number. -/
  observe : D → Nat × D
  /-- The positions that an observer has not seen yet. -/
  takePositions : Nat → D → List Position × D
  /-- An observer goes away. -/
  forget : Nat → D → D

end Studio
