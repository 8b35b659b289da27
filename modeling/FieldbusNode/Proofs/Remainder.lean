/-
The checksum is a remainder of polynomials over two elements.

A row of bits is a polynomial, its first bit the coefficient of the highest power.  Bytes and
registers are both read from their lowest bit on, so the bit that falls out of a register is its
highest coefficient, and to shift is to multiply by `X` and to take the generator away if the
degree allows (`residue_shiftRegister`).  Modulo the generator a byte therefore puts its eight
coefficients behind those that are already in the register, and a string puts all of its own
(`residue_foldl_absorb`).  A register holds no power beyond the thirty-first, so it is the remainder
itself.
-/
import Mathlib.Algebra.CharP.Two
import Mathlib.Algebra.Field.ZMod
import Mathlib.RingTheory.AdjoinRoot
import FieldbusNode.Proofs.Checksum
namespace FieldbusNode.Inertial

open Polynomial

/-! ### Rows of coefficients -/

/-- The polynomial over two elements with these coefficients, that of the highest power first. -/
noncomputable def polynomial (coefficients : List Bool) : (ZMod 2)[X] :=
  coefficients.foldl (fun p c => p * X + if c then 1 else 0) 0

variable (front rest : List Bool)

theorem polynomial_concat (c : Bool) :
    polynomial (front ++ [c]) = polynomial front * X + if c then 1 else 0 := by
  rw [polynomial, List.foldl_append]
  rfl

theorem polynomial_append :
    polynomial (front ++ rest) = polynomial front * X ^ rest.length + polynomial rest := by
  induction rest using List.reverseRecOn with
  | nil => simp [polynomial]
  | append_singleton rest c ih =>
      rw [← List.append_assoc, polynomial_concat, ih, polynomial_concat, List.length_append,
        List.length_singleton, pow_succ]
      ring

theorem polynomial_cons (c : Bool) :
    polynomial (c :: rest) = (if c then X ^ rest.length else 0) + polynomial rest := by
  rw [← List.singleton_append, polynomial_append]
  cases c <;> simp [polynomial]

theorem polynomial_replicate_false (n : Nat) : polynomial (List.replicate n false) = 0 := by
  induction n with
  | zero => rfl
  | succ n ih => simp [List.replicate_succ, polynomial_cons, ih]

theorem polynomial_replicate_true (n : Nat) :
    polynomial (List.replicate n true) = ∑ i ∈ Finset.range n, X ^ i := by
  induction n with
  | zero => rfl
  | succ n ih =>
      rw [List.replicate_succ, polynomial_cons, ih, Finset.sum_range_succ, List.length_replicate,
        add_comm]
      rfl

theorem degree_polynomial_lt (row : List Bool) : (polynomial row).degree < row.length := by
  induction row with
  | nil => simp [polynomial]
  | cons c rest ih =>
      have longer : (rest.length : WithBot Nat) < (rest.length + 1 : Nat) := by
        exact_mod_cast Nat.lt_succ_self _
      have highest : (if c then X ^ rest.length else 0 : (ZMod 2)[X]).degree <
          (rest.length + 1 : Nat) := by
        cases c with
        | false => simp
        | true => rwa [if_pos rfl, degree_X_pow]
      rw [polynomial_cons]
      exact lt_of_le_of_lt (degree_add_le _ _) (max_lt highest (ih.trans longer))

/-- Over two elements adding is telling apart. -/
theorem polynomial_zipWith_xor : ∀ {p q : List Bool}, p.length = q.length →
    polynomial (List.zipWith xor p q) = polynomial p + polynomial q
  | [], [], _ => by simp [polynomial]
  | a :: p, b :: q, alike => by
      have alike : p.length = q.length := Nat.succ.inj alike
      have highest : (if a ^^ b then X ^ q.length else 0 : (ZMod 2)[X]) =
          (if a then X ^ q.length else 0) + if b then X ^ q.length else 0 := by
        cases a <;> cases b <;> simp [CharTwo.add_self_eq_zero (R := (ZMod 2)[X])]
      rw [List.zipWith_cons_cons, polynomial_cons, polynomial_cons, polynomial_cons,
        polynomial_zipWith_xor alike, List.length_zipWith, alike, Nat.min_self, highest]
      ring

/-! ### Words -/

/-- The bits of a word, the least significant one first. -/
def bits {n : Nat} (w : BitVec n) : List Bool := (List.range n).map w.getLsbD

section Bits

variable {n : Nat}

theorem length_bits (w : BitVec n) : (bits w).length = n := by
  simp [bits]

theorem bits_zero (n : Nat) : bits 0#n = List.replicate n false := by
  simp [bits, List.eq_replicate_iff]

/-- A word that is widened has its new bits last. -/
theorem bits_setWidth (w : BitVec n) (k : Nat) :
    bits (w.setWidth (n + k)) = bits w ++ List.replicate k false := by
  rw [bits, List.range_add, List.map_append, List.map_map]
  congr 1
  · refine List.map_congr_left fun i mem => ?_
    have inside : i < n + k := Nat.lt_add_right k (List.mem_range.mp mem)
    simp [inside]
  · simp [List.eq_replicate_iff]

/-- A shift drops the first bit and adds a clear one behind the last. -/
theorem bits_ushiftRight (w : BitVec (n + 1)) :
    ∃ others, others.length = n ∧ bits w = w.getLsbD 0 :: others ∧
      bits (w >>> 1) = others ++ [false] := by
  refine ⟨(List.range n).map fun i => w.getLsbD (i + 1), ?_, ?_, ?_⟩
  · rw [List.length_map, List.length_range]
  · rw [bits, List.range_succ_eq_map, List.map_cons, List.map_map]
    rfl
  · rw [bits, List.range_succ, List.map_append]
    simp [Nat.add_comm 1]

theorem polynomial_bits_xor (v w : BitVec n) :
    polynomial (bits (v ^^^ w)) = polynomial (bits v) + polynomial (bits w) := by
  rw [← polynomial_zipWith_xor (by rw [length_bits, length_bits])]
  refine congrArg polynomial ?_
  simp only [bits, List.zipWith_map, List.zipWith_self]
  exact List.map_congr_left fun i _ => BitVec.getLsbD_xor

end Bits

/-- A word read bit-reversed: its lowest bit is the coefficient of the highest power. -/
noncomputable def wordPolynomial (w : UInt32) : (ZMod 2)[X] := polynomial (bits w.toBitVec)

theorem wordPolynomial_xor (v w : UInt32) :
    wordPolynomial (v ^^^ w) = wordPolynomial v + wordPolynomial w := by
  rw [wordPolynomial, UInt32.toBitVec_xor, polynomial_bits_xor]
  rfl

theorem wordPolynomial_byte (b : UInt8) :
    wordPolynomial b.toUInt32 = polynomial (bits b.toBitVec) * X ^ 24 := by
  have row : bits b.toUInt32.toBitVec = bits b.toBitVec ++ List.replicate 24 false := by
    rw [UInt8.toBitVec_toUInt32]
    exact bits_setWidth b.toBitVec 24
  rw [wordPolynomial, row, polynomial_append, polynomial_replicate_false, List.length_replicate,
    add_zero]

/-! ### The generator -/

/-- The generator polynomial of IEEE 802.3. -/
noncomputable def generator : (ZMod 2)[X] :=
  X ^ 32 + X ^ 26 + X ^ 23 + X ^ 22 + X ^ 16 + X ^ 12 + X ^ 11 + X ^ 10 + X ^ 8 + X ^ 7 + X ^ 5 +
    X ^ 4 + X ^ 2 + X + 1

theorem monic_generator : generator.Monic := by
  rw [generator]
  monicity!

theorem degree_generator : generator.degree = 32 := by
  rw [generator]
  compute_degree!

/-- The constant of the register is the generator without its leading term. -/
theorem generator_eq : generator = X ^ 32 + wordPolynomial reflectedGenerator := by
  have row : bits reflectedGenerator.toBitVec =
      [false, false, false, false, false, true, false, false, true, true, false, false, false,
        false, false, true, false, false, false, true, true, true, false, true, true, false, true,
        true, false, true, true, true] := by decide
  rw [wordPolynomial, row]
  simp only [generator, polynomial, List.foldl_cons, List.foldl_nil, if_true, if_false,
    Bool.false_eq_true]
  ring

theorem degree_wordPolynomial_lt (w : UInt32) : (wordPolynomial w).degree < generator.degree := by
  have below := degree_polynomial_lt (bits w.toBitVec)
  rw [length_bits] at below
  exact below.trans_eq degree_generator.symm

/-! ### Modulo the generator -/

/-- What a polynomial is modulo the generator. -/
noncomputable def residue : (ZMod 2)[X] →+* AdjoinRoot generator := AdjoinRoot.mk generator

theorem residue_top : residue (X ^ 32) = residue (wordPolynomial reflectedGenerator) := by
  apply AdjoinRoot.mk_eq_mk.mpr
  rw [generator_eq, CharTwo.sub_eq_add]

/-- **To shift is to multiply by `X`.** -/
theorem residue_shiftRegister (w : UInt32) :
    residue (wordPolynomial (shiftRegister w)) = residue (wordPolynomial w * X) := by
  obtain ⟨others, length, row, shifted⟩ := bits_ushiftRight w.toBitVec
  rw [wordPolynomial, toBitVec_shiftRegister, polynomial_bits_xor, shifted, polynomial_concat,
    wordPolynomial, row, polynomial_cons, length]
  cases w.toBitVec.getLsbD 0 with
  | false =>
      rw [cond_false, bits_zero, polynomial_replicate_false]
      simp
  | true =>
      have fallen : residue (X ^ 31 * X) = residue (wordPolynomial reflectedGenerator) := by
        rw [← pow_succ, residue_top]
      simp [add_mul, fallen, wordPolynomial, add_comm]

theorem residue_shiftRegisterBy (n : Nat) (w : UInt32) :
    residue (wordPolynomial (shiftRegisterBy n w)) = residue (wordPolynomial w * X ^ n) := by
  induction n generalizing w with
  | zero =>
      rw [pow_zero, mul_one]
      rfl
  | succ n ih =>
      rw [shiftRegisterBy, ih, map_mul, residue_shiftRegister, ← map_mul, mul_assoc, ← pow_succ']

theorem residue_absorb (crc : UInt32) (b : UInt8) :
    residue (wordPolynomial (absorb crc b)) =
      residue (polynomial (bits b.toBitVec) * X ^ 32 + wordPolynomial crc * X ^ 8) := by
  rw [absorb, residue_shiftRegisterBy, wordPolynomial_xor, wordPolynomial_byte]
  ring_nf

/-! ### Strings -/

/-- The polynomial of a byte string: byte after byte, each from its least significant bit on. -/
noncomputable def message (bytes : List UInt8) : (ZMod 2)[X] :=
  polynomial (bytes.flatMap fun b => bits b.toBitVec)

theorem message_cons (b : UInt8) (bytes : List UInt8) :
    message (b :: bytes) =
      polynomial (bits b.toBitVec) * X ^ (8 * bytes.length) + message bytes := by
  have length : (bytes.flatMap fun b => bits b.toBitVec).length = 8 * bytes.length := by
    simp [length_bits, Nat.mul_comm]
  rw [message, List.flatMap_cons, polynomial_append, length]
  rfl

theorem residue_foldl_absorb (crc : UInt32) (bytes : List UInt8) :
    residue (wordPolynomial (bytes.foldl absorb crc)) =
      residue (message bytes * X ^ 32 + wordPolynomial crc * X ^ (8 * bytes.length)) := by
  induction bytes generalizing crc with
  | nil => simp [message, polynomial]
  | cons b bytes ih =>
      rw [List.foldl_cons, ih, message_cons, map_add, map_mul _ (wordPolynomial _), residue_absorb,
        ← map_mul, ← map_add, List.length_cons]
      ring_nf

/-- **The checksum is the one of IEEE 802.3.**  A string of `n` bits is multiplied by `X ^ 32`, and
thirty-two ones are added to its highest coefficients.  What remains of that by the generator is the
complement of the checksum, read bit-reversed. -/
theorem checksum_is_remainder (bytes : List UInt8) :
    wordPolynomial (~~~checksum bytes) =
      (message bytes * X ^ 32 + (∑ i ∈ Finset.range 32, X ^ i) * X ^ (8 * bytes.length)) %
        generator := by
  have ones : wordPolynomial 0xFFFFFFFF = ∑ i ∈ Finset.range 32, X ^ i := by
    rw [← polynomial_replicate_true]
    exact congrArg polynomial (by decide)
  have same := residue_foldl_absorb 0xFFFFFFFF bytes
  rw [ones] at same
  have reduced := (modByMonic_eq_self_iff monic_generator).mpr
    (degree_wordPolynomial_lt (bytes.foldl absorb 0xFFFFFFFF))
  rw [checksum, UInt32.not_not, ← modByMonic_eq_mod _ monic_generator, ← reduced]
  exact modByMonic_eq_of_dvd_sub monic_generator (AdjoinRoot.mk_eq_mk.mp same)

/-- The check value of the checksum: that of the nine digits. -/
example : checksum "123456789".toUTF8.toList = 0xCBF43926 := by decide +kernel

end FieldbusNode.Inertial
