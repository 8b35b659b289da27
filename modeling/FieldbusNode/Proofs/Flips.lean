/-
Flipped bits.

A bit of a frame stands for a power of the indeterminate (`exponent`), no two for the same, and
flipping it adds this power to what the two checksums of the frame differ by
(`discrepancy_flipBit`).  They do not differ in an encoding.  One, two or three powers do not cancel
(`powerSum_ne_zero`), so after as many flips they do differ, wherever the bits are: in the header,
in what the checksum covers, or in the checksum itself.
-/
import FieldbusNode.Proofs.FrameCodec
import FieldbusNode.Proofs.Powers
namespace FieldbusNode

namespace Bytes

/-- Numbers one behind another have their bits apart. -/
theorem toNat_append (front rest : List UInt8) :
    toNat (front ++ rest) = toNat front ^^^ toNat rest <<< (8 * front.length) := by
  induction front with
  | nil => exact (Nat.zero_xor _).symm
  | cons b front ih =>
      rw [List.cons_append, toNat_cons, ih, toNat_cons, Nat.shiftLeft_xor_distrib,
        ← Nat.shiftLeft_add, Nat.xor_assoc, List.length_cons, Nat.mul_succ]

/-- What is added to one byte of a number is added to the number. -/
theorem toNatBig_xor (front rest : List UInt8) (a m : UInt8) :
    toNatBig (front ++ (a ^^^ m) :: rest) =
      toNatBig (front ++ a :: rest) ^^^ m.toNat <<< (8 * rest.length) := by
  have cut (a : UInt8) : toNatBig (front ++ a :: rest) = toNat rest.reverse ^^^
      a.toNat <<< (8 * rest.length) ^^^ toNat front.reverse <<< 8 <<< (8 * rest.length) := by
    rw [toNatBig, List.reverse_append, List.reverse_cons, List.append_assoc, List.singleton_append,
      toNat_append, toNat_cons, Nat.shiftLeft_xor_distrib, List.length_reverse, Nat.xor_assoc]
  rw [cut, cut, UInt8.toNat_xor, Nat.shiftLeft_xor_distrib]
  ac_rfl

end Bytes

namespace Inertial

/-! ### Single bits -/

/-- A bit of a frame, counted from the lowest bit of its first byte. -/
def bitAt (frame : List UInt8) (k : Nat) : Bool :=
  (frame.getD (k / 8) 0).toNat.testBit (k % 8)

/-- The byte that has one bit set. -/
def mask (k : Nat) : UInt8 := UInt8.ofNat (2 ^ (k % 8))

/-- A frame with one bit flipped. -/
def flipBit (frame : List UInt8) (k : Nat) : List UInt8 :=
  frame.modify (k / 8) (· ^^^ mask k)

/-- A frame with some bits flipped, one after another. -/
def flipBits (frame : List UInt8) (bits : List Nat) : List UInt8 :=
  bits.foldl flipBit frame

theorem toNat_mask (k : Nat) : (mask k).toNat = 2 ^ (k % 8) := by
  rw [mask, UInt8.toNat_ofNat_of_lt']
  exact Nat.pow_lt_pow_right (by decide) (Nat.mod_lt k (by decide))

variable {frame : List UInt8} {k : Nat}

@[simp] theorem length_flipBit (frame : List UInt8) (k : Nat) :
    (flipBit frame k).length = frame.length :=
  List.length_modify ..

@[simp] theorem length_flipBits (frame : List UInt8) (bits : List Nat) :
    (flipBits frame bits).length = frame.length := by
  induction bits generalizing frame with
  | nil => rfl
  | cons k bits ih => exact (ih (flipBit frame k)).trans (length_flipBit frame k)

/-- Flipping a bit changes that bit and no other. -/
theorem bitAt_flipBit (inside : k < 8 * frame.length) (j : Nat) :
    bitAt (flipBit frame k) j = (bitAt frame j ^^ decide (j = k)) := by
  have mark : (mask k).toNat.testBit (j % 8) = decide (k % 8 = j % 8) := by
    rw [toNat_mask, Nat.testBit_two_pow]
  rw [bitAt, bitAt, flipBit]
  by_cases here : k / 8 = j / 8
  · have byte : j / 8 < frame.length := by omega
    have same : decide (k % 8 = j % 8) = decide (j = k) := decide_eq_decide.mpr (by omega)
    rw [here, List.getD_eq_getElem?_getD, List.getElem?_modify_eq, List.getElem?_eq_getElem byte,
      List.getD_eq_getElem?_getD, List.getElem?_eq_getElem byte, ← same, ← mark,
      ← Nat.testBit_xor, ← UInt8.toNat_xor]
    rfl
  · have other : j ≠ k := fun same => here (by rw [same])
    rw [List.getD_eq_getElem?_getD, List.getElem?_modify_ne _ _ here, ← List.getD_eq_getElem?_getD,
      decide_eq_false other, Bool.xor_false]

theorem bitAt_flipBits {bits : List Nat} (distinct : bits.Nodup)
    (inside : ∀ k ∈ bits, k < 8 * frame.length) (j : Nat) :
    bitAt (flipBits frame bits) j = (bitAt frame j ^^ decide (j ∈ bits)) := by
  induction bits generalizing frame with
  | nil => exact (Bool.xor_false _).symm
  | cons k bits ih =>
      obtain ⟨fresh, distinct⟩ := List.nodup_cons.mp distinct
      obtain ⟨first, others⟩ := List.forall_mem_cons.mp inside
      have others : ∀ l ∈ bits, l < 8 * (flipBit frame k).length := by
        rwa [length_flipBit]
      have rest := ih distinct others
      have once : (decide (j = k) ^^ decide (j ∈ bits)) = decide (j ∈ k :: bits) := by
        by_cases here : j = k
        · subst here
          simp [fresh]
        · simp [here]
      rw [flipBits, List.foldl_cons, ← flipBits, rest, bitAt_flipBit first, Bool.xor_assoc, once]

/-! ### What a flipped bit adds -/

/-- What the carried checksum of a frame and the computed one differ by. -/
def discrepancy (frame : List UInt8) : UInt32 :=
  wordAt frame checksumSpan ^^^ checksum (frame.take checksumSpan)

/-- The power that a bit of a frame stands for.  The bytes of the checksum are sent highest byte
first, those in front of it go into the register lowest bit first. -/
def exponent (k : Nat) : Nat :=
  if k < 8 * checksumSpan then 8 * checksumSpan + 31 - k else 8 * (k / 8 - checksumSpan) + 7 - k % 8

theorem foldl_absorb_xor_byte (front rest : List UInt8) (a m : UInt8) (crc : UInt32) :
    (front ++ (a ^^^ m) :: rest).foldl absorb crc = (front ++ a :: rest).foldl absorb crc ^^^
      shiftRegisterBy (8 * (rest.length + 1)) m.toUInt32 := by
  have one (crc : UInt32) :
      absorb crc (a ^^^ m) = absorb crc a ^^^ shiftRegisterBy 8 m.toUInt32 := by
    rw [absorb, UInt8.toUInt32_xor, ← UInt32.xor_assoc, shiftRegisterBy_xor]
    rfl
  rw [List.foldl_append, List.foldl_cons, one, foldl_absorb_xor, ← shiftRegisterBy_add,
    List.foldl_append, List.foldl_cons, Nat.mul_succ, Nat.add_comm 8]

theorem toUInt32_mask (k : Nat) : (mask k).toUInt32 = power (31 - k % 8) := by
  rw [← ofNat_two_pow (by omega), ← toNat_mask, ← UInt8.toNat_toUInt32, UInt32.ofNat_toNat]

/-- A frame of bytes around the one that a bit is in. -/
theorem flipBit_eq (inside : k < 8 * frame.length) : ∃ front a rest,
    frame = front ++ a :: rest ∧ front.length = k / 8 ∧
      flipBit frame k = front ++ (a ^^^ mask k) :: rest := by
  have byte : k / 8 < frame.length := by omega
  refine ⟨frame.take (k / 8), frame[k / 8], frame.drop (k / 8 + 1), ?_, ?_, ?_⟩
  · rw [← List.drop_eq_getElem_cons byte, List.take_append_drop]
  · exact List.length_take_of_le (Nat.le_of_lt byte)
  · exact List.modify_eq_take_cons_drop byte

theorem checksum_flipBit {bytes : List UInt8} (inside : k < 8 * bytes.length) :
    checksum (flipBit bytes k) = checksum bytes ^^^ power (8 * bytes.length + 31 - k) := by
  obtain ⟨front, a, rest, rfl, place, flipped⟩ := flipBit_eq inside
  have far : 8 * (front ++ a :: rest).length + 31 - k = 31 - k % 8 + 8 * (rest.length + 1) := by
    rw [List.length_append, List.length_cons]
    omega
  rw [flipped, checksum, foldl_absorb_xor_byte, toUInt32_mask, ← power_add, ← far, ← UInt32.not_xor]
  rfl

/-- A flipped bit of a word that is read highest byte first. -/
theorem word_flipBit {bytes : List UInt8} (four : bytes.length = 4) (inside : k < 32) :
    UInt32.ofNat (Bytes.toNatBig (flipBit bytes k)) =
      UInt32.ofNat (Bytes.toNatBig bytes) ^^^ power (8 * (k / 8) + 7 - k % 8) := by
  have within : k < 8 * bytes.length := by rwa [four]
  obtain ⟨front, a, rest, rfl, place, flipped⟩ := flipBit_eq within
  have behind : front.length + (rest.length + 1) = 4 := by
    rwa [List.length_append, List.length_cons] at four
  have bit : (mask k).toNat <<< (8 * rest.length) = 2 ^ (k % 8 + 8 * rest.length) := by
    rw [toNat_mask, Nat.shiftLeft_eq, ← Nat.pow_add]
  have far : 31 - (k % 8 + 8 * rest.length) = 8 * (k / 8) + 7 - k % 8 := by omega
  rw [flipped, Bytes.toNatBig_xor, UInt32.ofNat_xor, bit, ofNat_two_pow (by omega), far]

/-- **A flipped bit adds the power that it stands for.** -/
theorem discrepancy_flipBit (sized : frame.length = frameLength) (inside : k < frameBits) :
    discrepancy (flipBit frame k) = discrepancy frame ^^^ power (exponent k) := by
  have span : (frame.take checksumSpan).length = checksumSpan :=
    List.length_take_of_le (by rw [sized]; decide)
  unfold exponent
  split
  · next covered =>
      have carried : wordAt (flipBit frame k) checksumSpan = wordAt frame checksumSpan := by
        rw [wordAt, flipBit, List.drop_modify_of_lt _ _ _ _ (by omega), wordAt]
      have within : k < 8 * (frame.take checksumSpan).length := by rwa [span]
      have computed := checksum_flipBit within
      rw [span, flipBit, ← List.take_modify, ← flipBit] at computed
      rw [discrepancy, carried, computed, discrepancy, UInt32.xor_assoc]
  · next carried =>
      have covered : (flipBit frame k).take checksumSpan = frame.take checksumSpan := by
        rw [flipBit, List.take_modify, List.modify_eq_self (by omega)]
      have four : ((frame.drop checksumSpan).take 4).length = 4 := by
        rw [List.length_take, List.length_drop, sized]
        decide
      -- The bit's place within the word, with the byte and the mask it had in the frame.
      obtain ⟨j, rfl⟩ : ∃ j, k = 8 * checksumSpan + j :=
        Nat.exists_eq_add_of_le (Nat.not_lt.mp carried)
      have byte : (8 * checksumSpan + j) / 8 = checksumSpan + j / 8 :=
        Nat.mul_add_div (by decide) _ _
      have bit : (8 * checksumSpan + j) % 8 = j % 8 := Nat.mul_add_mod _ _ _
      have word : ((flipBit frame (8 * checksumSpan + j)).drop checksumSpan).take 4 =
          flipBit ((frame.drop checksumSpan).take 4) j := by
        rw [flipBit, byte, List.drop_modify_of_ge _ _ _ _ (Nat.le_add_right _ _),
          Nat.add_sub_cancel_left, List.take_modify, mask, bit]
        rfl
      have inside : j < 32 := by
        unfold frameBits frameLength checksumSpan at inside
        omega
      rw [discrepancy, wordAt, word, word_flipBit four inside, ← wordAt, covered, byte, bit,
        Nat.add_sub_cancel_left, discrepancy]
      ac_rfl

/-- What some flipped bits add up to. -/
theorem discrepancy_flipBits {bits : List Nat} (sized : frame.length = frameLength)
    (inside : ∀ k ∈ bits, k < frameBits) :
    discrepancy (flipBits frame bits) = discrepancy frame ^^^ powerSum (bits.map exponent) := by
  induction bits generalizing frame with
  | nil => exact UInt32.xor_zero.symm
  | cons k bits ih =>
      obtain ⟨first, others⟩ := List.forall_mem_cons.mp inside
      have rest := ih ((length_flipBit frame k).trans sized) others
      rw [flipBits, List.foldl_cons, ← flipBits, rest, discrepancy_flipBit sized first,
        UInt32.xor_assoc, List.map_cons, powerSum_cons]

theorem exponent_lt {k : Nat} (inside : k < frameBits) : exponent k < frameBits := by
  unfold frameBits frameLength exponent checksumSpan at *
  split <;> omega

theorem exponent_inj {j k : Nat} (hj : j < frameBits) (hk : k < frameBits)
    (same : exponent j = exponent k) : j = k := by
  unfold frameBits frameLength exponent checksumSpan at *
  split at same <;> split at same <;> omega

namespace Sample

theorem discrepancy_of_decode {s : Sample} {frame : List UInt8} (accepted : decode frame = .ok s) :
    discrepancy frame = 0 :=
  UInt32.xor_eq_zero_iff.mpr (intact_of_decode accepted).2.2.1

/-- Up to three flipped bits leave no frame that is accepted. -/
theorem decode_flipBits (s : Sample) {bits : List Nat} (distinct : bits.Nodup)
    (inside : ∀ k ∈ bits, k < frameBits) (nonempty : bits ≠ []) (few : bits.length ≤ 3) :
    ∃ e, decode (flipBits s.encode bits) = .error e := by
  cases decoded : decode (flipBits s.encode bits) with
  | error e => exact ⟨e, rfl⟩
  | ok t =>
      exfalso
      have sum := discrepancy_flipBits s.length_encode inside
      rw [discrepancy_of_decode decoded, discrepancy_of_decode s.decode_encode,
        UInt32.zero_xor] at sum
      refine powerSum_ne_zero ?_ ?_ ?_ ?_ sum.symm
      · exact distinct.map_on fun j hj k hk => exponent_inj (inside j hj) (inside k hk)
      · intro e listed
        obtain ⟨k, mem, rfl⟩ := List.mem_map.mp listed
        exact exponent_lt (inside k mem)
      · simpa using nonempty
      · rwa [List.length_map]

/--
**One, two or three flipped bits are refused.**

This is about any encoding and any places for the bits, the header and the checksum included.  Those
bits are flipped and no others, and what comes out is not accepted.
-/
theorem flips_refused (s : Sample) {bits : List Nat} (distinct : bits.Nodup)
    (inside : ∀ k ∈ bits, k < frameBits) (nonempty : bits ≠ []) (few : bits.length ≤ 3) :
    (flipBits s.encode bits).length = frameLength ∧
      (∀ k < frameBits, bitAt (flipBits s.encode bits) k =
        (bitAt s.encode k ^^ decide (k ∈ bits))) ∧
      ∃ e, decode (flipBits s.encode bits) = .error e := by
  have sized := s.length_encode
  refine ⟨(length_flipBits ..).trans sized, ?_, decode_flipBits s distinct inside nonempty few⟩
  exact fun k _ => bitAt_flipBits distinct (by rwa [sized]) k

/-- A bit of the header, one of the payload and one of the checksum. -/
theorem flips_refused_spread : [3, 130, 287].Nodup ∧ (∀ k ∈ [3, 130, 287], k < frameBits) ∧
    (flipBits zero.encode [3, 130, 287]).length = frameLength ∧
    (∀ k < frameBits, bitAt (flipBits zero.encode [3, 130, 287]) k =
      (bitAt zero.encode k ^^ decide (k ∈ [3, 130, 287]))) ∧
    ∃ e, decode (flipBits zero.encode [3, 130, 287]) = .error e := by
  have distinct : [3, 130, 287].Nodup := by decide
  have inside : ∀ k ∈ [3, 130, 287], k < frameBits := by decide
  exact ⟨distinct, inside, flips_refused zero distinct inside (by decide) (by decide)⟩

end Sample
end Inertial
end FieldbusNode
