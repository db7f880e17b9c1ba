import FrontZone.Bus
/-!
# Motor-cutoff broadcast

When a fault is confirmed the motor-cutoff request goes out once per cycle for a calibrated number
of cycles. A refused frame still uses up its cycle. The notifier learns from the bus only whether
the frame was accepted, so `tick` takes that answer as an argument.
-/

namespace FrontZone

/-- What became of the frame of one cycle. -/
inductive Broadcast where
  /-- No frame was due. -/
  | idle
  | sent
  | refused
  deriving Repr, DecidableEq

/-- A broadcast in progress. -/
structure Cutoff where
  repeatCount : UInt8
  /-- Frames still due. -/
  remaining : UInt8 := 0
  failedSends : UInt32 := 0
  deriving Repr, DecidableEq

namespace Cutoff

/-- Starts a full sequence, or starts a running one over. -/
def arm (n : Cutoff) : Cutoff :=
  { n with remaining := n.repeatCount }

/-- Whether a frame is due this cycle. -/
def isSending (n : Cutoff) : Bool :=
  n.remaining ≠ 0

/-- One cycle on a bus that would accept a frame or not. -/
def tick (n : Cutoff) (accepts : Bool) : Cutoff × Broadcast :=
  if n.isSending then
    if accepts then ({ n with remaining := n.remaining - 1 }, .sent)
    else
      ({ n with remaining := n.remaining - 1, failedSends := countUp32 n.failedSends }, .refused)
  else (n, .idle)

end Cutoff

/-- Sends the frame of this cycle if one is due. -/
def Bus.broadcast (b : Bus) (n : Cutoff) : Bus :=
  if n.isSending then b.transmit .motorCutoff else b

end FrontZone
