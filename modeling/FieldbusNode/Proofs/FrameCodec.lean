/-
Accepted frames are encoded samples.

A frame is cut where its fields lie.  Writing a word that was read gives the four bytes back
(`wordBytes_wordAt`), so the sample in a frame encodes to the frame's first thirty-six bytes as
soon as the header and the checksum are right (`encode_ofFrame`), and a frame is accepted as a
sample exactly when it begins with what the sample encodes to.  What is not accepted is refused
for the first thing that is wrong with it.
-/
import FieldbusNode.Proofs.Frames
namespace FieldbusNode

namespace Bytes

variable {bytes : List UInt8} {width : Nat}

theorem toNatBig_lt (sized : bytes.length = width) : toNatBig bytes < modulus width := by
  subst sized
  rw [toNatBig, ← List.length_reverse]
  exact toNat_lt bytes.reverse

/-- Bytes that were read as a number of their width, written again. -/
theorem ofNatBig_toNatBig_of_length (sized : bytes.length = width) :
    ofNatBig width (toNatBig bytes) = bytes := by
  subst sized
  exact ofNatBig_toNatBig bytes

end Bytes

namespace Inertial

variable {frame : List UInt8}

/-! ### What was read, written again -/

/-- Writing four bytes that were read gives them back. -/
theorem wordBytes_wordAt {offset : Nat} (inside : offset + 4 ≤ frame.length) :
    wordBytes (wordAt frame offset) = (frame.drop offset).take 4 := by
  have four : ((frame.drop offset).take 4).length = 4 := by
    rw [List.length_take, List.length_drop]
    omega
  rw [wordBytes, wordAt, UInt32.toNat_ofNat_of_lt' (Bytes.toNatBig_lt four)]
  exact Bytes.ofNatBig_toNatBig_of_length four

/-- Words that lie one behind another are what was read, in one piece. -/
theorem flatMap_wordAt (offset count : Nat) (inside : offset + 4 * count ≤ frame.length) :
    ((List.range count).map fun i => wordAt frame (offset + 4 * i)).flatMap wordBytes =
      (frame.drop offset).take (4 * count) := by
  induction count with
  | zero => rfl
  | succ count ih =>
      have last : wordBytes (wordAt frame (offset + 4 * count)) =
          ((frame.drop offset).drop (4 * count)).take 4 := by
        rw [wordBytes_wordAt (by omega), List.drop_drop]
      rw [List.range_succ, List.map_append, List.flatMap_append, ih (by omega),
        List.map_singleton, List.flatMap_singleton, last, Nat.mul_succ, List.take_add]

namespace Sample

theorem words_ofFrame (frame : List UInt8) :
    (ofFrame frame).words = (List.range 6).map fun i => wordAt frame (4 + 4 * i) := rfl

/-- The two bytes of a temperature that was read. -/
theorem temperature_ofFrame (long : frameLength ≤ frame.length) :
    Bytes.ofNatBig 2 (ofFrame frame).temperature.toUInt16.toNat = (frame.drop 30).take 2 := by
  have two : ((frame.drop 30).take 2).length = 2 := by
    rw [List.length_take, List.length_drop]
    unfold frameLength at long
    omega
  rw [ofFrame, UInt16.toUInt16_toInt16, UInt16.toNat_ofNat_of_lt' (Bytes.toNatBig_lt two)]
  exact Bytes.ofNatBig_toNatBig_of_length two

/-- What the checksum covers, written again. -/
theorem body_ofFrame (long : frameLength ≤ frame.length) (header : frame.take 4 = frameHeader) :
    (ofFrame frame).body = frame.take checksumSpan := by
  have long' : 36 ≤ frame.length := long
  have pair : [(ofFrame frame).status, (ofFrame frame).sequence] = (frame.drop 28).take 2 := by
    have byte {i : Nat} (inside : i < frame.length) : frame.getD i 0 = frame[i] := by
      rw [List.getD_eq_getElem?_getD, List.getElem?_eq_getElem inside, Option.getD_some]
    rw [List.drop_eq_getElem_cons (by omega), List.drop_eq_getElem_cons (by omega), ofFrame,
      byte (by omega), byte (by omega)]
    rfl
  calc (ofFrame frame).body
      = frame.take 4 ++ (frame.drop 4).take 24 ++ (frame.drop 28).take 2 ++
          (frame.drop 30).take 2 := by
        rw [body, ← words, words_ofFrame, flatMap_wordAt 4 6 (by omega), pair,
          temperature_ofFrame long, header]
    _ = frame.take checksumSpan := by
        rw [← List.take_add, ← List.take_add, ← List.take_add]
        rfl

/-- A frame that carries its checksum, written again. -/
theorem encode_ofFrame (long : frameLength ≤ frame.length) (header : frame.take 4 = frameHeader)
    (intact : wordAt frame checksumSpan = checksum (frame.take checksumSpan)) :
    (ofFrame frame).encode = frame.take frameLength := by
  have carried : wordBytes (wordAt frame checksumSpan) = (frame.drop checksumSpan).take 4 :=
    wordBytes_wordAt long
  rw [encode, body_ofFrame long header, ← intact, carried, ← List.take_add]
  rfl

/-! ### What is wrong with a frame -/

theorem decode_short (short : frame.length < frameLength) :
    decode frame = .error (.short frame.length) :=
  if_pos short

theorem decode_badHeader (long : frameLength ≤ frame.length) (header : frame.take 4 ≠ frameHeader) :
    decode frame = .error .badHeader := by
  rw [decode, if_neg (Nat.not_lt.mpr long), if_pos header]

/-- With the header in place the checksum decides. -/
theorem decode_of_header (long : frameLength ≤ frame.length)
    (header : frame.take 4 = frameHeader) :
    decode frame =
      if wordAt frame checksumSpan ≠ checksum (frame.take checksumSpan) then
        .error (.checksum (wordAt frame checksumSpan) (checksum (frame.take checksumSpan)))
      else .ok (ofFrame frame) := by
  rw [decode, if_neg (Nat.not_lt.mpr long), if_neg (not_ne_iff.mpr header)]

/-- What is accepted has the length, the header and the checksum. -/
theorem intact_of_decode {s : Sample} (accepted : decode frame = .ok s) :
    frameLength ≤ frame.length ∧ frame.take 4 = frameHeader ∧
      wordAt frame checksumSpan = checksum (frame.take checksumSpan) ∧ ofFrame frame = s := by
  by_cases short : frame.length < frameLength
  · rw [decode_short short] at accepted
    nomatch accepted
  · have long := Nat.not_lt.mp short
    by_cases header : frame.take 4 = frameHeader
    · rw [decode_of_header long header] at accepted
      split at accepted
      · nomatch accepted
      · next intact => exact ⟨long, header, not_ne_iff.mp intact, Except.ok.inj accepted⟩
    · rw [decode_badHeader long header] at accepted
      nomatch accepted

/-! ### What is behind a frame -/

/-- Bytes before the end of a frame are the same without what is behind it. -/
theorem slice_take {offset count : Nat} (inside : offset + count ≤ frameLength) :
    ((frame.take frameLength).drop offset).take count = (frame.drop offset).take count := by
  rw [List.drop_take, List.take_take, Nat.min_eq_left (by omega)]

theorem wordAt_take {offset : Nat} (inside : offset + 4 ≤ frameLength) :
    wordAt (frame.take frameLength) offset = wordAt frame offset := by
  rw [wordAt, slice_take inside, wordAt]

theorem ofFrame_take (frame : List UInt8) : ofFrame (frame.take frameLength) = ofFrame frame := by
  have byte {i : Nat} (inside : i < frameLength) :
      (frame.take frameLength).getD i 0 = frame.getD i 0 := by
    rw [List.getD_eq_getElem?_getD, List.getElem?_take_of_lt inside, List.getD_eq_getElem?_getD]
  simp (disch := decide) only [ofFrame, wordAt_take, slice_take, byte]

/-- A frame is read from its first thirty-six bytes alone. -/
theorem decode_take (long : frameLength ≤ frame.length) :
    decode (frame.take frameLength) = decode frame := by
  have length : (frame.take frameLength).length = frameLength := List.length_take_of_le long
  have front {n : Nat} (inside : n ≤ frameLength) :
      (frame.take frameLength).take n = frame.take n := by
    rw [List.take_take, Nat.min_eq_left inside]
  by_cases header : frame.take 4 = frameHeader
  · have header' := (front (n := 4) (by decide)).trans header
    have covered := front (n := checksumSpan) (by decide)
    rw [decode_of_header long header, decode_of_header (Nat.le_of_eq length.symm) header', covered,
      wordAt_take (by decide), ofFrame_take]
  · have header' := (front (n := 4) (by decide)).trans_ne header
    rw [decode_badHeader long header, decode_badHeader (Nat.le_of_eq length.symm) header']

/-- A frame is accepted as a sample exactly when it begins with what the sample encodes to. -/
theorem decode_eq_ok_iff {s : Sample} :
    decode frame = .ok s ↔ frame.take frameLength = s.encode := by
  constructor
  · intro accepted
    obtain ⟨long, header, intact, rfl⟩ := intact_of_decode accepted
    exact (encode_ofFrame long header intact).symm
  · intro begins
    have long : frameLength ≤ frame.length := by
      have length := congrArg List.length begins
      rw [length_encode, List.length_take] at length
      omega
    rw [← decode_take long, begins, decode_encode]

/-- **Encoding is a bijection onto the accepted frames.**  What is sent is accepted; what is
accepted begins with what its sample encodes to; anything else is refused for its length, for its
header or for its checksum, in this order; and what lies behind a frame does not count. -/
theorem accepted_frames_are_encodings (frame : List UInt8) :
    (∀ s : Sample, decode s.encode = .ok s) ∧
    (∀ s : Sample, decode frame = .ok s → frame.take frameLength = s.encode) ∧
    (frame.length < frameLength → decode frame = .error (.short frame.length)) ∧
    (frameLength ≤ frame.length → frame.take 4 ≠ frameHeader → decode frame = .error .badHeader) ∧
    (frameLength ≤ frame.length → frame.take 4 = frameHeader → (∀ s, decode frame ≠ .ok s) →
      decode frame =
        .error (.checksum (wordAt frame checksumSpan) (checksum (frame.take checksumSpan)))) ∧
    ∀ other : List UInt8, frameLength ≤ frame.length →
      other.take frameLength = frame.take frameLength → decode other = decode frame := by
  refine ⟨decode_encode, fun s => decode_eq_ok_iff.mp, decode_short, decode_badHeader, ?_, ?_⟩
  · intro long header refused
    have decided := decode_of_header long header
    split at decided
    · exact decided
    · exact absurd decided (refused _)
  · intro other long same
    have long' : frameLength ≤ other.length := by
      have length := congrArg List.length same
      rw [List.length_take, List.length_take_of_le long] at length
      omega
    rw [← decode_take long', same, decode_take long]

end Sample
end Inertial
end FieldbusNode
