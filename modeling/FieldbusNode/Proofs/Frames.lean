/-
Frames that are sent are accepted.

A frame is its words one behind another, so reading a word where it was written gives it
back (`wordAt_append`).  A frame as the sensor encodes it has the right length, the header
and its own checksum, and says what the sample holds (`Sample.decode_encode`).  A sensor
that nothing disturbs has such a frame ready after every pulse.
-/
import Mathlib.Logic.Basic
import FieldbusNode.Simulation.Sensor
namespace FieldbusNode

namespace Inertial

/-! ### Words -/

@[simp] theorem length_wordBytes (w : UInt32) : (wordBytes w).length = 4 :=
  Bytes.length_ofNatBig 4 _

/-- Reading a word where it was written gives it back. -/
theorem wordAt_zero (w : UInt32) (rest : List UInt8) : wordAt (wordBytes w ++ rest) 0 = w := by
  have small : w.toNat % Bytes.modulus 4 = w.toNat := Nat.mod_eq_of_lt w.toNat_lt
  rw [wordAt, List.drop_zero, List.take_left' (length_wordBytes w), wordBytes,
    Bytes.toNatBig_ofNatBig, small, UInt32.ofNat_toNat]

/-- Reading behind what is in front. -/
theorem wordAt_add (front rest : List UInt8) {n : Nat} (long : front.length = n) (offset : Nat) :
    wordAt (front ++ rest) (n + offset) = wordAt rest offset := by
  rw [wordAt, wordAt, ← List.drop_drop, List.drop_left' long]

theorem wordAt_flatMap (words : List UInt32) (rest : List UInt8) {i : Nat}
    (inside : i < words.length) : wordAt (words.flatMap wordBytes ++ rest) (4 * i) = words[i] := by
  induction words generalizing i with
  | nil => nomatch inside
  | cons w words ih =>
      rw [List.flatMap_cons, List.append_assoc]
      cases i with
      | zero => exact wordAt_zero w _
      | succ i =>
          rw [Nat.mul_succ, Nat.add_comm, wordAt_add _ _ (length_wordBytes w)]
          exact ih (Nat.lt_of_succ_lt_succ inside)

/-! ### Frames -/

namespace Sample

variable (s : Sample)

/-- The words of a sample, in the order of a frame. -/
def words : List UInt32 :=
  s.angleDelta.toList ++ s.accel.toList

/-- What is behind the words in a frame. -/
def tail : List UInt8 :=
  s.status :: s.sequence :: (Bytes.ofNatBig 2 s.temperature.toUInt16.toNat ++
    wordBytes (checksum s.body))

theorem encode_eq : s.encode = frameHeader ++ (s.words.flatMap wordBytes ++ s.tail) := by
  simp only [encode, body, words, tail, List.append_assoc, List.cons_append, List.nil_append]

theorem length_body : s.body.length = checksumSpan := rfl

theorem length_encode : s.encode.length = frameLength := rfl

theorem ofFrame_encode : ofFrame s.encode = s := by
  have word (i : Nat) (inside : i < 6) :
      wordAt s.encode (4 + 4 * i) = s.words.get ⟨i, inside⟩ := by
    have four : frameHeader.length = 4 := rfl
    rw [encode_eq, wordAt_add frameHeader _ four]
    exact wordAt_flatMap s.words s.tail inside
  have angleDelta : (ofFrame s.encode).angleDelta = s.angleDelta :=
    Triple.ext (word 0 (by decide)) (word 1 (by decide)) (word 2 (by decide))
  have accel : (ofFrame s.encode).accel = s.accel :=
    Triple.ext (word 3 (by decide)) (word 4 (by decide)) (word 5 (by decide))
  have temperature : (ofFrame s.encode).temperature = s.temperature := by
    have bytes : (s.encode.drop 30).take 2 = Bytes.ofNatBig 2 s.temperature.toUInt16.toNat := rfl
    have small : s.temperature.toUInt16.toNat % Bytes.modulus 2 = s.temperature.toUInt16.toNat :=
      Nat.mod_eq_of_lt s.temperature.toUInt16.toNat_lt
    show (UInt16.ofNat (Bytes.toNatBig ((s.encode.drop 30).take 2))).toInt16 = s.temperature
    rw [bytes, Bytes.toNatBig_ofNatBig, small, UInt16.ofNat_toNat, Int16.toInt16_toUInt16]
  obtain ⟨_, _, status, sequence, _⟩ := s
  unfold ofFrame at angleDelta accel temperature ⊢
  simp only [Sample.mk.injEq]
  exact ⟨angleDelta, accel, rfl, rfl, temperature⟩

/-- **A frame says what was encoded in it.** -/
theorem decode_encode : decode s.encode = .ok s := by
  have long : ¬s.encode.length < frameLength := by
    rw [length_encode]
    exact Nat.lt_irrefl _
  have header : s.encode.take 4 = frameHeader := by
    rw [encode_eq]
    exact List.take_left' rfl
  have covered : s.encode.take checksumSpan = s.body := List.take_left' s.length_body
  have carried : wordAt s.encode checksumSpan = checksum s.body := by
    have last := wordAt_add s.body (wordBytes (checksum s.body)) s.length_body 0
    rw [← List.append_nil (wordBytes (checksum s.body)), wordAt_zero] at last
    exact last
  unfold decode
  rw [if_neg long, if_neg (not_ne_iff.mpr header)]
  dsimp only
  rw [carried, covered, if_neg (not_ne_iff.mpr rfl), ofFrame_encode]

end Sample
end Inertial

namespace Simulation.Sensor

/-- What is going to be fetched is accepted. -/
def Ready (s : Sensor) : Prop :=
  ∃ sample, Inertial.Sample.decode (s.outgoing.take Inertial.frameLength) = .ok sample

/-- A sensor that nothing disturbs is ready after a pulse. -/
theorem ready_pulse (s : Sensor) (undisturbed : s.pending = .none) : s.pulse.Ready := by
  refine ⟨{ s.sample with sequence := s.nextSequence }, ?_⟩
  have sent : s.pulse.outgoing = ({ s.sample with sequence := s.nextSequence } :
      Inertial.Sample).encode := by
    unfold pulse
    rw [undisturbed]
    rfl
  rw [sent, List.take_of_length_le (Nat.le_of_eq (Inertial.Sample.length_encode _)),
    Inertial.Sample.decode_encode]

end Simulation.Sensor
end FieldbusNode
