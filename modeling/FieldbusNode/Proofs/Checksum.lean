/-
A checksum tells strings apart that differ in one place.

One shift of the register loses nothing: the bit that falls out adds the generator, whose highest
bit is set, and nothing else sets the highest bit (`msb_shiftRegister`).  So a register after some
bytes determines the register before them.

A shift is also linear: what is added to a register before it comes out added behind it
(`shiftRegister_xor`), and while the low bits are clear nothing falls out.  So up to four bytes are
taken in as one word (`foldl_absorb_of_short`), two different words leave two registers, and the
difference shows in every register that follows (`checksum_ne_of_burst`).
-/
import Mathlib.Logic.Function.Basic
import FieldbusNode.Inertial.Checksum
import FieldbusNode.Record.Bytes
namespace FieldbusNode

namespace Bytes

/-- The first byte of a number has its bits apart from the others. -/
theorem toNat_cons (b : UInt8) (bytes : List UInt8) :
    toNat (b :: bytes) = b.toNat ^^^ toNat bytes <<< 8 := by
  have low : b.toNat < 2 ^ 8 := b.toNat_lt
  apply Nat.eq_of_testBit_eq
  intro i
  rw [toNat, Nat.add_comm, Nat.testBit_two_pow_mul_add (i := 8) _ low, Nat.testBit_xor,
    Nat.testBit_shiftLeft]
  split
  · next inside => simp [Nat.not_le.mpr inside]
  · next beyond =>
      have beyond := Nat.not_lt.mp beyond
      have none : b.toNat.testBit i = false :=
        Nat.testBit_lt_two_pow (Nat.lt_of_lt_of_le low (Nat.pow_le_pow_right (by decide) beyond))
      simp [none, beyond]

theorem modulus_mono {m n : Nat} (le : m ≤ n) : modulus m ≤ modulus n := by
  induction le with
  | refl => exact Nat.le_refl _
  | step _ ih =>
      rw [modulus]
      omega

end Bytes

namespace Inertial

/-! ### One shift -/

/-- The bit that falls out next. -/
theorem and_one_eq_one_iff (crc : UInt32) : crc &&& 1 = 1 ↔ crc.toBitVec.getLsbD 0 = true := by
  have one : crc.toBitVec &&& 1#32 = _ := BitVec.and_one_eq_setWidth_ofBool_getLsbD
  rw [← UInt32.toBitVec_inj, UInt32.toBitVec_and]
  show crc.toBitVec &&& 1#32 = 1#32 ↔ _
  rw [one]
  cases crc.toBitVec.getLsbD 0 <;> decide

theorem toBitVec_shiftRegister (crc : UInt32) :
    (shiftRegister crc).toBitVec = crc.toBitVec >>> 1 ^^^
      bif crc.toBitVec.getLsbD 0 then reflectedGenerator.toBitVec else 0#32 := by
  have low := and_one_eq_one_iff crc
  rw [shiftRegister]
  cases out : crc.toBitVec.getLsbD 0 with
  | false =>
      rw [out] at low
      rw [if_neg (by simp [low])]
      simp
  | true =>
      rw [if_pos (low.mpr out)]
      simp

/-- What fell out of the register shows in its highest bit. -/
theorem msb_shiftRegister (crc : UInt32) :
    (shiftRegister crc).toBitVec.msb = crc.toBitVec.getLsbD 0 := by
  rw [toBitVec_shiftRegister, BitVec.msb_xor, BitVec.msb_ushiftRight]
  cases crc.toBitVec.getLsbD 0 <;> rfl

theorem shiftRegister_injective : Function.Injective shiftRegister := by
  intro x y same
  have low : x.toBitVec.getLsbD 0 = y.toBitVec.getLsbD 0 := by
    rw [← msb_shiftRegister, ← msb_shiftRegister, same]
  have high : x.toBitVec >>> 1 = y.toBitVec >>> 1 := by
    have shifted := congrArg UInt32.toBitVec same
    rw [toBitVec_shiftRegister, toBitVec_shiftRegister, low] at shifted
    exact (BitVec.xor_left_inj _).mp shifted
  apply UInt32.toBitVec_inj.mp
  apply BitVec.eq_of_getLsbD_eq
  intro i _
  cases i with
  | zero => exact low
  | succ i =>
      have bit := congrArg (BitVec.getLsbD · i) high
      simp only [BitVec.getLsbD_ushiftRight] at bit
      rw [Nat.add_comm]
      exact bit

theorem shiftRegister_xor (x y : UInt32) :
    shiftRegister (x ^^^ y) = shiftRegister x ^^^ shiftRegister y := by
  have fallen (p q : Bool) : (bif p ^^ q then reflectedGenerator.toBitVec else 0#32) =
      (bif p then reflectedGenerator.toBitVec else 0#32) ^^^
        bif q then reflectedGenerator.toBitVec else 0#32 := by
    cases p <;> cases q <;> decide
  apply UInt32.toBitVec_inj.mp
  rw [UInt32.toBitVec_xor, toBitVec_shiftRegister, toBitVec_shiftRegister, toBitVec_shiftRegister,
    UInt32.toBitVec_xor, BitVec.ushiftRight_xor_distrib, BitVec.getLsbD_xor, fallen]
  ac_rfl

/-! ### Many shifts -/

theorem shiftRegisterBy_injective (n : Nat) : Function.Injective (shiftRegisterBy n) := by
  induction n with
  | zero => exact Function.injective_id
  | succ n ih => exact ih.comp shiftRegister_injective

theorem shiftRegisterBy_xor (n : Nat) (x y : UInt32) :
    shiftRegisterBy n (x ^^^ y) = shiftRegisterBy n x ^^^ shiftRegisterBy n y := by
  induction n generalizing x y with
  | zero => rfl
  | succ n ih => rw [shiftRegisterBy, shiftRegister_xor, ih, shiftRegisterBy, shiftRegisterBy]

theorem shiftRegisterBy_add (m n : Nat) (x : UInt32) :
    shiftRegisterBy (m + n) x = shiftRegisterBy n (shiftRegisterBy m x) := by
  induction m generalizing x with
  | zero =>
      rw [Nat.zero_add]
      rfl
  | succ m ih => rw [Nat.succ_add, shiftRegisterBy, ih, shiftRegisterBy]

/-- Nothing falls out of an even register. -/
theorem shiftRegister_double {n : Nat} (fits : 2 * n < UInt32.size) :
    shiftRegister (UInt32.ofNat (2 * n)) = UInt32.ofNat n := by
  have half : (UInt32.ofNat n).toNat = n := UInt32.toNat_ofNat_of_lt' (by omega)
  have even : ¬UInt32.ofNat (2 * n) &&& 1 = 1 := by
    rw [← UInt32.toNat_inj, UInt32.toNat_and, UInt32.toNat_ofNat_of_lt' fits]
    simp
  rw [shiftRegister, if_neg even, ← UInt32.toNat_inj, UInt32.toNat_shiftRight,
    UInt32.toNat_ofNat_of_lt' fits, half]
  simp [Nat.shiftRight_eq_div_pow]

/-- Shifting undoes a shift to the left that keeps every bit. -/
theorem shiftRegisterBy_shiftLeft (k : Nat) {n : Nat} (fits : n <<< k < UInt32.size) :
    shiftRegisterBy k (UInt32.ofNat (n <<< k)) = UInt32.ofNat n := by
  induction k with
  | zero => rfl
  | succ k ih =>
      rw [Nat.shiftLeft_succ] at fits ⊢
      rw [shiftRegisterBy, shiftRegister_double fits, ih (by omega)]

/-! ### A byte, and a string -/

/-- The register before a byte is determined by the register behind it. -/
theorem absorb_left_injective (byte : UInt8) : Function.Injective (absorb · byte) :=
  fun _ _ same => (UInt32.xor_left_inj _).mp (shiftRegisterBy_injective 8 same)

theorem foldl_absorb_injective (bytes : List UInt8) :
    Function.Injective fun crc => bytes.foldl absorb crc := by
  induction bytes with
  | nil => exact Function.injective_id
  | cons byte bytes ih => exact ih.comp (absorb_left_injective byte)

theorem foldl_absorb_xor (bytes : List UInt8) (x e : UInt32) :
    bytes.foldl absorb (x ^^^ e) =
      bytes.foldl absorb x ^^^ shiftRegisterBy (8 * bytes.length) e := by
  induction bytes generalizing x e with
  | nil => rfl
  | cons byte bytes ih =>
      have one : absorb (x ^^^ e) byte = absorb x byte ^^^ shiftRegisterBy 8 e := by
        rw [absorb, UInt32.xor_assoc, UInt32.xor_comm e, ← UInt32.xor_assoc, shiftRegisterBy_xor]
        rfl
      rw [List.foldl_cons, one, ih, ← shiftRegisterBy_add, List.length_cons, Nat.mul_succ,
        Nat.add_comm 8]
      rfl

/-- A string that fits the register is taken in at once, as one word. -/
theorem foldl_absorb_of_short (crc : UInt32) {bytes : List UInt8} (short : bytes.length ≤ 4) :
    bytes.foldl absorb crc =
      shiftRegisterBy (8 * bytes.length) (crc ^^^ UInt32.ofNat (Bytes.toNat bytes)) := by
  induction bytes generalizing crc with
  | nil => exact UInt32.xor_zero.symm
  | cons byte bytes ih =>
      have short : bytes.length + 1 ≤ 4 := short
      have fits : Bytes.toNat bytes <<< 8 < UInt32.size := by
        have small : Bytes.toNat bytes < 2 ^ 24 := Nat.lt_of_lt_of_le (Bytes.toNat_lt bytes)
          (Bytes.modulus_mono (Nat.le_of_succ_le_succ short))
        rw [Nat.shiftLeft_eq]
        exact Nat.mul_lt_mul_of_pos_right small (by decide)
      have word : UInt32.ofNat (Bytes.toNat (byte :: bytes)) =
          byte.toUInt32 ^^^ UInt32.ofNat (Bytes.toNat bytes <<< 8) := by
        rw [Bytes.toNat_cons, UInt32.ofNat_xor, ← UInt8.toNat_toUInt32, UInt32.ofNat_toNat]
      rw [List.foldl_cons, ih _ (by omega), List.length_cons, Nat.mul_succ, Nat.add_comm,
        shiftRegisterBy_add, word, ← UInt32.xor_assoc, shiftRegisterBy_xor 8,
        shiftRegisterBy_shiftLeft 8 fits]
      rfl

theorem foldl_absorb_inj_of_short (crc : UInt32) {a b : List UInt8} (alike : a.length = b.length)
    (short : a.length ≤ 4) (same : a.foldl absorb crc = b.foldl absorb crc) : a = b := by
  have below {bytes : List UInt8} (short : bytes.length ≤ 4) : Bytes.toNat bytes < UInt32.size :=
    Nat.lt_of_lt_of_le (Bytes.toNat_lt bytes) (Bytes.modulus_mono short)
  rw [foldl_absorb_of_short crc short, foldl_absorb_of_short crc (alike ▸ short), alike] at same
  have words := (UInt32.xor_right_inj _).mp (shiftRegisterBy_injective _ same)
  have numbers := congrArg UInt32.toNat words
  rw [UInt32.toNat_ofNat_of_lt' (below short),
    UInt32.toNat_ofNat_of_lt' (below (alike ▸ short))] at numbers
  rw [← Bytes.ofNat_toNat a, numbers, alike, Bytes.ofNat_toNat]

/-- **Other bytes in a window of four, another checksum.** -/
theorem checksum_ne_of_burst (front rest : List UInt8) {a b : List UInt8}
    (alike : a.length = b.length) (short : a.length ≤ 4) (other : a ≠ b) :
    checksum (front ++ (a ++ rest)) ≠ checksum (front ++ (b ++ rest)) := by
  intro same
  have folded := UInt32.not_inj.mp same
  rw [List.foldl_append, List.foldl_append, List.foldl_append, List.foldl_append] at folded
  exact other (foldl_absorb_inj_of_short _ alike short (foldl_absorb_injective rest folded))

end Inertial
end FieldbusNode
