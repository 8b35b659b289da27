/-
Powers of the indeterminate modulo the generator.

A register stands for a polynomial of degree below thirty-two, its highest bit for the constant, and
a shift multiplies by the indeterminate.  So the registers that a single bit runs through are the
powers of the indeterminate, each of them modulo the generator (`power`).

Sums of few powers do not vanish as long as the powers are fewer than the bits of a frame
(`powerSum_ne_zero`).  Dividing by the lowest power leaves one and at most two more, and that these
do not add up to one is a look at all of them (`differBy_powers`).  The look is at all pairs at
once: both sides are split by one bit after another, and what is left of them in the end would be a
pair.
-/
import Mathlib.Data.List.Iterate
import Mathlib.Data.List.Nodup
import FieldbusNode.Inertial.Frame
import FieldbusNode.Proofs.Checksum
namespace FieldbusNode.Inertial

/-- A power of the indeterminate modulo the generator.  The constant one is the highest bit. -/
def power (n : Nat) : UInt32 := shiftRegisterBy n 0x80000000

theorem power_add (m n : Nat) : power (m + n) = shiftRegisterBy n (power m) :=
  shiftRegisterBy_add m n _

/-- A register with one bit set. -/
theorem ofNat_two_pow {b : Nat} (inside : b < 32) : UInt32.ofNat (2 ^ b) = power (31 - b) := by
  have highest : (2 ^ b) <<< (31 - b) = 2 ^ 31 := by
    rw [Nat.shiftLeft_eq, ← Nat.pow_add, Nat.add_sub_cancel' (by omega)]
  rw [← shiftRegisterBy_shiftLeft (31 - b) (by rw [highest]; decide), highest]
  rfl

theorem shiftRegisterBy_zero (n : Nat) : shiftRegisterBy n 0 = 0 := by
  induction n with
  | zero => rfl
  | succ n ih => exact ih

theorem shiftRegisterBy_eq_iterate (n : Nat) (x : UInt32) :
    shiftRegisterBy n x = shiftRegister^[n] x := by
  induction n generalizing x with
  | zero => rfl
  | succ n ih => exact ih (shiftRegister x)

/-! ### Powers apart -/

/-- Whether a number of one list and a number of another one differ in just the bits of `d`.  Both
lists are split by one bit after another, from the highest down. -/
def differBy (d : Nat) : Nat → List Nat → List Nat → Bool
  | 0, as, bs => !as.isEmpty && !bs.isEmpty
  | n + 1, as, bs => !as.isEmpty && !bs.isEmpty &&
    (differBy d n (as.filter (·.testBit n)) (bs.filter fun b => b.testBit n != d.testBit n) ||
      differBy d n (as.filter (!·.testBit n)) (bs.filter fun b => b.testBit n == d.testBit n))

theorem differBy_of_mem {d a b : Nat} (apart : b = a ^^^ d) (n : Nat) {as bs : List Nat}
    (left : a ∈ as) (right : b ∈ bs) : differBy d n as bs = true := by
  have some {as bs : List Nat} (left : a ∈ as) (right : b ∈ bs) :
      (!as.isEmpty && !bs.isEmpty) = true := by
    simp [List.ne_nil_of_mem left, List.ne_nil_of_mem right]
  induction n generalizing as bs with
  | zero => exact some left right
  | succ n ih =>
      have bit : b.testBit n = (a.testBit n ^^ d.testBit n) := by rw [apart, Nat.testBit_xor]
      rw [differBy, some left right, Bool.true_and, Bool.or_eq_true]
      cases high : a.testBit n with
      | true =>
          exact Or.inl (ih (List.mem_filter.mpr ⟨left, high⟩)
            (List.mem_filter.mpr ⟨right, by simp [bit, high]⟩))
      | false =>
          exact Or.inr (ih (List.mem_filter.mpr ⟨left, by simp [high]⟩)
            (List.mem_filter.mpr ⟨right, by simp [bit, high]⟩))

/-- Powers in a row, as numbers. -/
def powersFrom (m n : Nat) : List Nat :=
  (List.iterate shiftRegister (power m) n).map UInt32.toNat

theorem toNat_power_mem {m n k : Nat} (le : m ≤ k) (lt : k < m + n) :
    (power k).toNat ∈ powersFrom m n := by
  refine List.mem_map_of_mem (List.mem_iterate.mpr ⟨k - m, by omega, ?_⟩)
  rw [← shiftRegisterBy_eq_iterate, ← power_add, Nat.add_sub_cancel' le]

/-- How many bits a frame has. -/
def frameBits : Nat := 8 * frameLength

theorem differBy_powers :
    differBy (power 0).toNat 32 (powersFrom 1 (frameBits - 1)) (0 :: powersFrom 0 frameBits) =
      false := by
  decide +kernel

/-- **Within the length of a frame no power is one, and no two differ by one.** -/
theorem powers_apart {m : Nat} (positive : 0 < m) (short : m < frameBits) :
    power m ≠ power 0 ∧ ∀ n < frameBits, power m ^^^ power 0 ≠ power n := by
  have apart {x : UInt32} (listed : x.toNat ∈ 0 :: powersFrom 0 frameBits) :
      power m ^^^ power 0 ≠ x := by
    intro same
    have numbers : x.toNat = (power m).toNat ^^^ (power 0).toNat := by
      rw [← same, UInt32.toNat_xor]
    have positive : (power m).toNat ∈ powersFrom 1 (frameBits - 1) :=
      toNat_power_mem positive (by omega)
    have found := differBy_of_mem numbers 32 positive listed
    rw [differBy_powers] at found
    nomatch found
  refine ⟨fun same => apart (x := 0) List.mem_cons_self (UInt32.xor_eq_zero_iff.mpr same), ?_⟩
  intro n short
  exact apart (List.mem_cons_of_mem _ (toNat_power_mem (Nat.zero_le n) (by omega)))

/-! ### Sums -/

/-- The sum of some powers. -/
def powerSum (exponents : List Nat) : UInt32 :=
  exponents.foldr (fun n sum => power n ^^^ sum) 0

theorem powerSum_cons (e : Nat) (es : List Nat) :
    powerSum (e :: es) = power e ^^^ powerSum es := rfl

theorem powerSum_singleton (e : Nat) : powerSum [e] = power e := UInt32.xor_zero

theorem powerSum_map_add (a : Nat) (es : List Nat) :
    powerSum (es.map (· + a)) = shiftRegisterBy a (powerSum es) := by
  induction es with
  | nil => exact (shiftRegisterBy_zero a).symm
  | cons e es ih =>
      rw [List.map_cons, powerSum_cons, ih, power_add, ← shiftRegisterBy_xor, powerSum_cons]

theorem powerSum_perm {es es' : List Nat} (perm : es.Perm es') : powerSum es = powerSum es' :=
  perm.foldr_eq' (fun _ _ _ _ _ => by ac_rfl) 0

/-- Up to two more powers do not add up to one. -/
theorem powerSum_zero_cons_ne {es : List Nat} (distinct : (0 :: es).Nodup)
    (short : ∀ e ∈ es, e < frameBits) (few : es.length ≤ 2) : powerSum (0 :: es) ≠ 0 := by
  have positive {e : Nat} (mem : e ∈ es) : 0 < e :=
    Nat.pos_of_ne_zero fun zero => (List.nodup_cons.mp distinct).1 (zero ▸ mem)
  match es with
  | [] => decide
  | [m] =>
      obtain ⟨other, -⟩ := powers_apart (positive List.mem_cons_self) (short m List.mem_cons_self)
      rw [powerSum_cons, powerSum_singleton]
      exact fun sum => other (UInt32.xor_eq_zero_iff.mp sum).symm
  | [m, n] =>
      obtain ⟨-, other⟩ := powers_apart (positive List.mem_cons_self) (short m List.mem_cons_self)
      rw [powerSum_cons, powerSum_cons, powerSum_singleton]
      intro sum
      have first : power 0 = power m ^^^ power n := UInt32.xor_eq_zero_iff.mp sum
      apply other n (short n (by simp))
      rw [first, ← UInt32.xor_assoc, UInt32.xor_self, UInt32.zero_xor]

/-- **Up to three powers within the length of a frame do not cancel.** -/
theorem powerSum_ne_zero {es : List Nat} (distinct : es.Nodup) (short : ∀ e ∈ es, e < frameBits)
    (nonempty : es ≠ []) (few : es.length ≤ 3) : powerSum es ≠ 0 := by
  obtain ⟨least, found⟩ : ∃ least, es.min? = some least :=
    Option.ne_none_iff_exists'.mp (mt List.min?_eq_none_iff.mp nonempty)
  obtain ⟨mem, le⟩ := List.min?_eq_some_iff.mp found
  -- Divided by the least of them one of the powers is one.
  have lowered : (es.map (· - least)).map (· + least) = es := by
    rw [List.map_map]
    refine (List.map_congr_left ?_).trans (List.map_id es)
    exact fun e mem => Nat.sub_add_cancel (le e mem)
  have one : 0 ∈ es.map (· - least) := List.mem_map.mpr ⟨least, mem, Nat.sub_self least⟩
  have front := List.perm_cons_erase one
  have distinct : (0 :: (es.map (· - least)).erase 0).Nodup := by
    rw [← front.nodup_iff]
    exact List.Nodup.of_map (· + least) (lowered.symm ▸ distinct)
  rw [← lowered, powerSum_map_add, powerSum_perm front]
  intro sum
  have quotient := shiftRegisterBy_injective least (sum.trans (shiftRegisterBy_zero least).symm)
  refine powerSum_zero_cons_ne distinct ?_ ?_ quotient
  · intro lower listed
    obtain ⟨e, mem, rfl⟩ := List.mem_map.mp (List.mem_of_mem_erase listed)
    exact Nat.lt_of_le_of_lt (Nat.sub_le _ _) (short e mem)
  · have length := front.length_eq
    simp only [List.length_map, List.length_cons] at length
    omega

end FieldbusNode.Inertial
