/-
A simulated inertial sensor.

It sends one frame per sync pulse.  An injected disturbance hits exactly the next
frame.  A frame that was not fetched is discarded by the next pulse.
-/
import FieldbusNode.Inertial.Frame
namespace FieldbusNode.Simulation

/-- What happens to the next frame. -/
inductive Disturbance
  /-- Nothing. -/
  | none
  /-- A payload bit is flipped behind the checksum's back. -/
  | flipBit
  /-- The first header byte is wrong. -/
  | badHeader
  /-- Only the first half arrives. -/
  | truncate
  /-- Nothing arrives. -/
  | silent
  /-- The sequence number jumps ahead. -/
  | skipSequence (count : UInt8)
  deriving DecidableEq

/-- A simulated inertial sensor. -/
structure Sensor where
  /-- What the next frames say, their sequence number apart. -/
  sample : Inertial.Sample
  nextSequence : UInt8
  pending : Disturbance
  /-- Bytes sent and not fetched. -/
  outgoing : List UInt8
  /-- Frames sent so far, also those that did not arrive. -/
  framesSent : Nat
  deriving DecidableEq

namespace Sensor

/-- All readings zero, and nothing sent. -/
def fresh : Sensor := ⟨.zero, 0, .none, [], 0⟩

/-- What arrives of a frame under a disturbance. -/
def disturb (fault : Disturbance) (frame : List UInt8) : List UInt8 :=
  match fault with
  | .none | .skipSequence _ => frame
  | .flipBit => frame.modify 6 (· ^^^ 0x10)
  | .badHeader => frame.modify 0 fun _ => 0
  | .truncate => frame.take (Inertial.frameLength / 2)
  | .silent => []

/-- Sends one frame. -/
def pulse (s : Sensor) : Sensor :=
  let sequence :=
    match s.pending with
    | .skipSequence count => (s.nextSequence + count) &&& 0x7F
    | _ => s.nextSequence
  let frame := { s.sample with sequence }.encode
  { s with
    nextSequence := (sequence + 1) &&& 0x7F
    pending := .none
    outgoing := disturb s.pending frame
    framesSent := s.framesSent + 1 }

/-- Fetches what was sent, at most so many bytes; what does not fit is lost. -/
def fetch (s : Sensor) (capacity : Nat) : List UInt8 × Sensor :=
  (s.outgoing.take capacity, { s with outgoing := [] })

end Sensor
end FieldbusNode.Simulation
