/-
What a simulated inertial sensor sends.

Every sync pulse sends one frame: what it says was set before the pulse, its sequence number
counts the pulses and what was skipped (`Sensor.pulse_eq`), and a disturbance hits it or does
not.  A frame that is not hit is accepted as it was encoded.  One that is hit is refused: for its
length, for its header, or, when a bit of it was flipped, because the checksum tells
(`Pulse.decode_disturbed`).
-/
import Mathlib
import FieldbusNode.Proofs.Flips
import FieldbusNode.Simulation.Rig
namespace FieldbusNode
namespace Simulation

/-- What the sensor sends at one sync pulse: a sample, its sequence number apart, and what happens
to the frame. -/
structure Pulse where
  sample : Inertial.Sample
  fault : Disturbance
  deriving DecidableEq

namespace Pulse

/-- Nothing was set, and nothing is disturbed. -/
def fresh : Pulse := ⟨.zero, .none⟩

/-- The frame does not arrive as it was sent. -/
def perturbed (p : Pulse) : Bool :=
  match p.fault with
  | .flipBit | .badHeader | .truncate | .silent => true
  | .none | .skipSequence _ => false

/-- How far the sequence number jumps ahead. -/
def skip (p : Pulse) : Nat :=
  match p.fault with
  | .skipSequence count => count.toNat
  | _ => 0

/-- What an action makes of the pulse that comes next. -/
def act (p : Pulse) : Action → Pulse
  | .imuSample sample => { p with sample }
  | .imuDisturb fault => { p with fault }
  | _ => p

/-- The pulse behind it, if nobody acts on the sensor: a disturbance hits once. -/
def following (p : Pulse) : Pulse := { p with fault := .none }

/-- How far the sequence has come: one number a pulse, and those that were skipped. -/
def count (pulses : List Pulse) : Nat := pulses.length + (pulses.map skip).sum

/-- What the frame of a pulse says.  The earlier pulses are as many as its own number. -/
def frame (p : Pulse) (earlier : List Pulse) : Inertial.Sample :=
  { p.sample with
    sequence := UInt8.ofNat ((earlier.length + ((p :: earlier).map skip).sum) % 128) }

end Pulse

/-! ### Sequence numbers -/

/-- Sequence numbers are counted modulo 128. -/
theorem advance_sequence (n : Nat) (k : UInt8) :
    (UInt8.ofNat (n % 128) + k) &&& 0x7F = UInt8.ofNat ((n + k.toNat) % 128) := by
  have low (x : Nat) : x &&& 127 = x % 128 := Nat.and_two_pow_sub_one_eq_mod x 7
  apply UInt8.toNat_inj.mp
  rw [UInt8.toNat_and, UInt8.toNat_add, UInt8.toNat_ofNat', UInt8.toNat_ofNat']
  show _ &&& 127 = _
  rw [low]
  omega

namespace Sensor

variable {s : Sensor} {earlier : List Pulse}

/-- The pulse that comes next. -/
def upcoming (s : Sensor) : Pulse := ⟨s.sample, s.pending⟩

/-- The sequence number of the next frame. -/
def upcomingSequence (s : Sensor) : UInt8 :=
  match s.pending with
  | .skipSequence count => (s.nextSequence + count) &&& 0x7F
  | _ => s.nextSequence

theorem upcomingSequence_eq
    (counted : s.nextSequence = UInt8.ofNat (Pulse.count earlier % 128)) :
    s.upcomingSequence = (s.upcoming.frame earlier).sequence := by
  show s.upcomingSequence =
    UInt8.ofNat ((earlier.length + ((s.upcoming :: earlier).map Pulse.skip).sum) % 128)
  rw [List.map_cons, List.sum_cons, Nat.add_left_comm, Nat.add_comm, ← Pulse.count]
  obtain ⟨sample, nextSequence, pending, outgoing, framesSent⟩ := s
  obtain rfl : nextSequence = _ := counted
  cases pending with
  | skipSequence count => exact advance_sequence _ count
  | _ => rfl

/-- **A pulse sends its frame, and counts it.** -/
theorem pulse_eq (counted : s.nextSequence = UInt8.ofNat (Pulse.count earlier % 128)) :
    s.pulse =
      { sample := s.sample
        nextSequence := UInt8.ofNat (Pulse.count (s.upcoming :: earlier) % 128)
        pending := .none
        outgoing := disturb s.pending (s.upcoming.frame earlier).encode
        framesSent := s.framesSent + 1 } := by
  have number := upcomingSequence_eq counted
  have counts : (s.upcomingSequence + 1) &&& 0x7F =
      UInt8.ofNat (Pulse.count (s.upcoming :: earlier) % 128) := by
    rw [number, Pulse.frame, advance_sequence _ 1, Pulse.count, List.length_cons,
      Nat.add_right_comm]
    rfl
  have sent : { s.sample with sequence := s.upcomingSequence } = s.upcoming.frame earlier := by
    rw [number]
    rfl
  rw [← counts, ← sent]
  rfl

end Sensor

/-! ### Disturbed frames -/

namespace Pulse

variable {p : Pulse}

theorem disturb_of_intact (intact : p.perturbed = false) (frame : List UInt8) :
    Sensor.disturb p.fault frame = frame := by
  obtain ⟨sample, fault⟩ := p
  cases fault <;> first | rfl | nomatch intact

/-- **A disturbed frame is not accepted.** -/
theorem decode_disturbed (perturbed : p.perturbed = true) (s : Inertial.Sample) :
    ∃ e, Inertial.Sample.decode (Sensor.disturb p.fault s.encode) = .error e := by
  obtain ⟨sample, fault⟩ := p
  cases fault with
  | none | skipSequence => nomatch perturbed
  | flipBit =>
      have flipped : s.encode.modify 6 (· ^^^ 0x10) = Inertial.flipBits s.encode [52] := rfl
      rw [Sensor.disturb, flipped]
      exact Inertial.Sample.decode_flipBits s (List.nodup_singleton 52) (by decide) (by simp)
        (by decide)
  | badHeader =>
      have header : (s.encode.modify 0 fun _ => 0).take 4 = [0, 0x81, 0xFF, 0x55] := rfl
      have long : (s.encode.modify 0 fun _ => 0).length = Inertial.frameLength := by
        rw [List.length_modify, s.length_encode]
      refine ⟨_, Inertial.Sample.decode_badHeader (Nat.le_of_eq long.symm) ?_⟩
      exact header.trans_ne (by decide)
  | truncate =>
      have short : (s.encode.take (Inertial.frameLength / 2)).length < Inertial.frameLength := by
        rw [List.length_take, s.length_encode]
        decide
      exact ⟨_, Inertial.Sample.decode_short short⟩
  | silent =>
      have short : ([] : List UInt8).length < Inertial.frameLength := by decide
      exact ⟨_, Inertial.Sample.decode_short short⟩

/-- What arrives of a frame is no longer than the frame. -/
theorem length_disturb_le (fault : Disturbance) (frame : List UInt8) :
    (Sensor.disturb fault frame).length ≤ frame.length := by
  cases fault with
  | none | skipSequence => exact Nat.le_refl _
  | flipBit | badHeader => exact Nat.le_of_eq (List.length_modify ..)
  | truncate => exact List.length_take_le' _ _
  | silent => exact Nat.zero_le _

end Pulse

end Simulation
end FieldbusNode
