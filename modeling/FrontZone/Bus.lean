import FrontZone.Recent
import FrontZone.Word
/-!
# The message bus

Frames of at most eight data bytes on a classic CAN bus. The bus of the simulated control unit keeps
the newest frames and counts all of them; it can be told to refuse every frame.
-/

namespace FrontZone

/-- The most data bytes a frame can carry. -/
def maxFrameBytes : Nat := 8

/-- A bus frame. -/
structure Frame where
  id : UInt16
  data : List UInt8
  size_le : data.length ≤ maxFrameBytes
  deriving Repr, DecidableEq

namespace Frame

/-- The frame with these bytes, if there are not too many. -/
def ofBytes? (id : UInt16) (bytes : List UInt8) : Option Frame :=
  if h : bytes.length ≤ maxFrameBytes then some ⟨id, bytes, h⟩ else none

/-- The identifier of motor-cutoff requests. -/
def motorCutoffId : UInt16 := 0x211

/-- The request that the rear zone cut the motor torque. -/
def motorCutoff : Frame :=
  ⟨motorCutoffId, [0, 0, 1, 0, 0, 0, 0, 0], by decide⟩

/-- Whether a frame requests the motor cutoff: the third byte of that identifier is 1. -/
def isCutoffRequest (f : Frame) : Bool :=
  f.id = motorCutoffId && f.data[2]? = some 1

end Frame

/-- How many frames the bus remembers. -/
def maxLoggedFrames : Nat := 32

/-- The message bus of the simulated control unit. -/
structure Bus where
  /-- The newest frames sent, oldest first. -/
  frames : List Frame := []
  total : UInt32 := 0
  cutoffFrames : UInt32 := 0
  /-- Refuse every frame. -/
  rejects : Bool := false
  deriving Repr, DecidableEq

namespace Bus

/-- Sends a frame; a bus that rejects is left as it is. -/
def transmit (b : Bus) (f : Frame) : Bus :=
  if b.rejects then b
  else
    { b with
      frames := pushRecent maxLoggedFrames b.frames f
      total := countUp32 b.total
      cutoffFrames := if f.isCutoffRequest then countUp32 b.cutoffFrames else b.cutoffFrames }

end Bus

end FrontZone
