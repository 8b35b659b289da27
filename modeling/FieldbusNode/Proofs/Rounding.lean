/-
Integers in a binary format, and the way back.

An integer with no more leading bits than a mantissa has is a number of the format.  A longer one
is rounded to the nearest that has, and the result is an integer again (`Format.nearest`), off by
half a unit of its last place at most.  No rounding takes place anywhere else here: a comparison is
one of the rational numbers `mantissa * 2 ^ exponent`, and the cut to an integer drops the fraction
of one.  So what a clamp in floating point does to a number can be said without its mantissa, by the
natural numbers that its magnitude reaches (`Value.Reaches`).
-/
import Mathlib.Algebra.Order.Field.Power
import Mathlib.Algebra.Order.Field.Rat
import Mathlib.Tactic.Linarith
import Mathlib.Tactic.Positivity
import Mathlib.Tactic.Ring
import FieldbusNode.Binary
import FieldbusNode.Word
namespace FieldbusNode.Binary

/-! ### Dividing -/

/-- A rounded quotient is off by half the divisor at most. -/
theorem divideToEven_within (n : Nat) {d : Nat} (pos : 0 < d) :
    2 * n ≤ 2 * (divideToEven n d * d) + d ∧ 2 * (divideToEven n d * d) ≤ 2 * n + d := by
  have whole := Nat.div_add_mod n d
  have rest := Nat.mod_lt n pos
  rw [Nat.mul_comm] at whole
  unfold divideToEven
  dsimp only
  split
  · rw [Nat.add_mul, Nat.one_mul]
    omega
  · omega

/-- A quotient without a remainder is not rounded. -/
theorem divideToEven_of_dvd {n d : Nat} (pos : 0 < d) (whole : d ∣ n) :
    divideToEven n d = n / d := by
  have rest : n % d = 0 := Nat.mod_eq_zero_of_dvd whole
  unfold divideToEven
  rw [rest, if_neg]
  omega

theorem divideToEven_one (n : Nat) : divideToEven n 1 = n :=
  (divideToEven_of_dvd Nat.one_pos (Nat.one_dvd n)).trans (Nat.div_one n)

/-! ### Integers of a format -/

namespace Format

/-- The unit of the last place of an integer; it is one unless the integer is longer than a
mantissa. -/
def unit (f : Format) (n : Nat) : Nat := 2 ^ (n.log2 + 1 - f.precision)

/-- The integer nearest to `n` that is a whole number of its units, a tie going to the even number
of them. -/
def nearest (f : Format) (n : Nat) : Nat := divideToEven n (f.unit n) * f.unit n

variable (f : Format) {n : Nat}

theorem unit_pos (n : Nat) : 0 < f.unit n := Nat.two_pow_pos _

theorem nearest_within (n : Nat) :
    2 * n ≤ 2 * f.nearest n + f.unit n ∧ 2 * f.nearest n ≤ 2 * n + f.unit n :=
  divideToEven_within n (f.unit_pos n)

theorem unit_le {bits : Nat} (pos : n ≠ 0) (short : n < 2 ^ bits) :
    f.unit n ≤ 2 ^ (bits - f.precision) := by
  have size : n.log2 < bits := (Nat.log2_lt pos).mpr short
  exact Nat.pow_le_pow_right (by decide) (by omega)

theorem nearest_of_dvd (whole : f.unit n ∣ n) : f.nearest n = n := by
  rw [nearest, divideToEven_of_dvd (f.unit_pos n) whole, Nat.div_mul_cancel whole]

/-- An integer up to the first that is longer than a mantissa stays as it is. -/
theorem nearest_of_short (room : 0 < f.precision) (short : n ≤ 2 ^ f.precision) :
    f.nearest n = n := by
  apply nearest_of_dvd
  rcases Nat.eq_zero_or_pos n with rfl | pos
  · exact Nat.dvd_zero _
  rcases Nat.lt_or_eq_of_le short with lt | rfl
  · have one : f.unit n ≤ 1 := by
      simpa using f.unit_le (Nat.ne_of_gt pos) lt
    rw [Nat.le_antisymm one (f.unit_pos n)]
    exact Nat.one_dvd n
  · rw [unit, Nat.log2_two_pow]
    exact Nat.pow_dvd_pow 2 (by omega)

/-! ### Rounding an integer -/

/-- A mantissa that was rounded up to the next power of two is halved. -/
def carry (mantissa : Nat) (exponent : Int) : Nat × Int :=
  if mantissa = 1 <<< f.precision then (1 <<< (f.precision - 1), exponent + 1)
  else (mantissa, exponent)

theorem carry_le (mantissa : Nat) (exponent : Int) :
    (f.carry mantissa exponent).2 ≤ exponent + 1 := by
  unfold carry
  split <;> omega

theorem scaled_carry (room : 0 < f.precision) (mantissa : Nat) (exponent : Int) :
    ((f.carry mantissa exponent).1 : ℚ) * 2 ^ (f.carry mantissa exponent).2 =
      mantissa * 2 ^ exponent := by
  unfold carry
  split
  · rename_i full
    obtain ⟨p, eq⟩ : ∃ p, f.precision = p + 1 := ⟨f.precision - 1, by omega⟩
    rw [full, eq, Nat.add_sub_cancel]
    simp only [Nat.one_shiftLeft, pow_succ, zpow_add₀ (two_ne_zero : (2 : ℚ) ≠ 0), zpow_one]
    push_cast
    ring
  · rfl

/-- A ratio in units of its last place, rounded. -/
def significand (n d : Nat) : Nat :=
  divideToEven (scale n d (-f.exponentOf n d)).1 (scale n d (-f.exponentOf n d)).2

/-- A ratio as the format has it, with as large an exponent as it needs. -/
def rounded (n d : Nat) : Nat × Int :=
  f.carry (f.significand n d) (f.exponentOf n d)

theorem round_eq (negative : Bool) (pos : n ≠ 0) (d : Nat) :
    f.round negative n d =
      if f.maxExponent < (f.rounded n d).2 then .infinite negative
      else .finite negative (f.rounded n d).1 (f.rounded n d).2 :=
  if_neg pos

theorem round_of_fitting (negative : Bool) (pos : n ≠ 0) {d : Nat}
    (fits : f.exponentOf n d < f.maxExponent) :
    f.round negative n d = .finite negative (f.rounded n d).1 (f.rounded n d).2 := by
  have carried : (f.rounded n d).2 ≤ f.exponentOf n d + 1 := f.carry_le _ _
  rw [f.round_eq negative pos, if_neg (by omega)]

end Format

variable {n : Nat}

theorem exponentOf_integer (pos : n ≠ 0) : binary32.exponentOf n 1 = (n.log2 : Int) - 23 := by
  have one : Nat.log2 1 = 0 := by decide
  have size : ((n.log2 : Int) - (Nat.log2 1 : Nat)) = n.log2 := by
    rw [one]
    simp
  have least : binary32.minExponent = -149 := rfl
  have precision : binary32.precision = 24 := rfl
  have leading : ¬n * 1 < 1 <<< n.log2 := by
    rw [Nat.mul_one, Nat.one_shiftLeft]
    exact Nat.not_lt.mpr (Nat.log2_self_le pos)
  unfold Format.exponentOf scale
  dsimp only
  rw [size, if_pos (Int.natCast_nonneg _), Int.toNat_natCast, if_neg leading, least, precision]
  omega

/-- The mantissa of an integer, scaled back, is the nearest integer. -/
theorem scaled_significand (pos : n ≠ 0) :
    (binary32.significand n 1 : ℚ) * 2 ^ binary32.exponentOf n 1 = binary32.nearest n := by
  unfold Format.significand scale
  rw [exponentOf_integer pos]
  -- The exponent is negative for a short integer, which then fills the mantissa up exactly.
  by_cases short : n.log2 ≤ 23
  · obtain ⟨k, eq⟩ : ∃ k : Nat, -((n.log2 : Int) - 23) = k := ⟨23 - n.log2, by omega⟩
    have back : (n.log2 : Int) - 23 = -k := by omega
    have fits : n < 2 ^ binary32.precision := (Nat.log2_lt pos).mp (Nat.lt_succ_of_le short)
    rw [eq, back, if_pos (Int.natCast_nonneg k), Int.toNat_natCast]
    dsimp only
    rw [divideToEven_one, binary32.nearest_of_short (by decide) fits.le, Nat.shiftLeft_eq]
    push_cast
    rw [mul_assoc, ← zpow_natCast, ← zpow_add₀ two_ne_zero, add_neg_cancel, zpow_zero, mul_one]
  · obtain ⟨k, eq⟩ : ∃ k : Nat, (n.log2 : Int) - 23 = k := ⟨n.log2 - 23, by omega⟩
    have unit : binary32.unit n = 2 ^ k := by
      rw [Format.unit, show n.log2 + 1 - binary32.precision = k by simp [binary32]; omega]
    rw [eq, if_neg (by omega), Int.neg_neg, Int.toNat_natCast]
    dsimp only
    rw [Nat.one_shiftLeft, Format.nearest, unit]
    push_cast
    rw [zpow_natCast]

/-- **An integer of 32 bits is rounded to the nearest one of the format, and that is finite.** -/
theorem ofInt_eq {i : Int} (small : i.natAbs ≤ uint32Max) :
    ∃ mantissa exponent, binary32.ofInt i = .finite (i < 0) mantissa exponent ∧
      (mantissa : ℚ) * 2 ^ exponent = binary32.nearest i.natAbs := by
  unfold Format.ofInt
  by_cases zero : i.natAbs = 0
  · refine ⟨0, binary32.minExponent, ?_, ?_⟩
    · rw [zero]
      rfl
    · rw [zero, binary32.nearest_of_short (by decide) (Nat.zero_le _)]
      simp
  · have size : i.natAbs.log2 < 32 := (Nat.log2_lt zero).mpr (Nat.lt_succ_of_le small)
    have fits : binary32.exponentOf i.natAbs 1 < binary32.maxExponent := by
      rw [exponentOf_integer zero, show binary32.maxExponent = 104 from rfl]
      omega
    have scaled := binary32.scaled_carry (by decide) (binary32.significand i.natAbs 1)
      (binary32.exponentOf i.natAbs 1)
    exact ⟨_, _, binary32.round_of_fitting _ zero fits, scaled.trans (scaled_significand zero)⟩

/-! ### Comparing -/

theorem cast_shift (k : Int) {low e : Int} (le : low ≤ e) :
    ((k * (1 <<< (e - low).toNat : Nat) : Int) : ℚ) * 2 ^ low = k * 2 ^ e := by
  obtain ⟨d, rfl⟩ := Int.le.dest le
  rw [add_sub_cancel_left, Int.toNat_natCast, Nat.one_shiftLeft, zpow_add₀ two_ne_zero,
    zpow_natCast]
  push_cast
  ring

namespace Value

theorem scaledLess_iff (a e b k : Int) :
    scaledLess a e b k = true ↔ (a : ℚ) * 2 ^ e < b * 2 ^ k := by
  have unit : (0 : ℚ) < 2 ^ min e k := zpow_pos two_pos _
  rw [scaledLess, decide_eq_true_iff, ← cast_shift a (Int.min_le_left e k),
    ← cast_shift b (Int.min_le_right e k), mul_lt_mul_iff_left₀ unit, Int.cast_lt]

def isNan : Value → Bool
  | nan _ => true
  | _ => false

theorem isNan_negate (x : Value) : x.negate.isNan = x.isNan := by
  cases x <;> rfl

theorem isNan_round (f : Format) (negative : Bool) (n d : Nat) :
    (f.round negative n d).isNan = false := by
  by_cases zero : n = 0
  · rw [Format.round, if_pos zero]
    rfl
  · rw [f.round_eq negative zero]
    split <;> rfl

/-- The magnitude of a number is at least a natural number. -/
def Reaches : Value → Nat → Prop
  | nan _, _ => False
  | infinite _, _ => True
  | finite _ mantissa exponent, n => (n : ℚ) ≤ mantissa * 2 ^ exponent

theorem reaches_finite (negative : Bool) (mantissa : Nat) (exponent : Int) (n : Nat) :
    (finite negative mantissa exponent).Reaches n ↔ (n : ℚ) ≤ mantissa * 2 ^ exponent :=
  Iff.rfl

/-! ### Clamping -/

section Window

variable (s : Bool) (m mantissa : Nat) (e exponent : Int)

/-- Only a negative number is below a window around zero. -/
theorem less_negative_iff :
    (finite s m e).less (finite true mantissa exponent) = true ↔
      s = true ∧ (mantissa : ℚ) * 2 ^ exponent < m * 2 ^ e := by
  have size : (0 : ℚ) ≤ m * 2 ^ e := by positivity
  have bound : (0 : ℚ) ≤ mantissa * 2 ^ exponent := by positivity
  rw [less, scaledLess_iff]
  cases s with
  | true => simp [signed]
  | false => simp [signed]; linarith

/-- Only a positive number is above a window around zero. -/
theorem positive_less_iff :
    (finite false mantissa exponent).less (finite s m e) = true ↔
      s = false ∧ (mantissa : ℚ) * 2 ^ exponent < m * 2 ^ e := by
  have size : (0 : ℚ) ≤ m * 2 ^ e := by positivity
  have bound : (0 : ℚ) ≤ mantissa * 2 ^ exponent := by positivity
  rw [less, scaledLess_iff]
  cases s with
  | true => simp [signed]; linarith
  | false => simp [signed]

end Window

/-- **Drawn into a window around zero, a number is finite and reaches what it reached within the
window.** -/
theorem reaches_clamp {x : Value} (number : x.isNan = false) (mantissa : Nat) (exponent : Int) :
    ∃ s m e, x.clamp (finite true mantissa exponent) (finite false mantissa exponent) =
        finite s m e ∧
      ∀ n, (finite s m e).Reaches n ↔
        x.Reaches n ∧ (finite false mantissa exponent).Reaches n := by
  cases x with
  | nan => nomatch number
  | infinite s => cases s <;> exact ⟨_, _, _, rfl, fun n => (and_iff_right trivial).symm⟩
  | finite s m e =>
      simp only [reaches_finite]
      unfold clamp
      by_cases below : (finite s m e).less (finite true mantissa exponent) = true
      · obtain ⟨-, outside⟩ := (less_negative_iff s m mantissa e exponent).mp below
        rw [if_pos below]
        exact ⟨_, _, _, rfl, fun n => (and_iff_right_of_imp (·.trans outside.le)).symm⟩
      by_cases above : (finite false mantissa exponent).less (finite s m e) = true
      · obtain ⟨-, outside⟩ := (positive_less_iff s m mantissa e exponent).mp above
        rw [if_neg below, if_pos above]
        exact ⟨_, _, _, rfl, fun n => (and_iff_right_of_imp (·.trans outside.le)).symm⟩
      · have inside : (m : ℚ) * 2 ^ e ≤ mantissa * 2 ^ exponent := by
          rw [less_negative_iff] at below
          rw [positive_less_iff] at above
          cases s with
          | true => exact not_lt.mp fun outside => below ⟨rfl, outside⟩
          | false => exact not_lt.mp fun outside => above ⟨rfl, outside⟩
        rw [if_neg below, if_neg above]
        exact ⟨_, _, _, rfl, fun n => (and_iff_left_of_imp (·.trans inside)).symm⟩

/-! ### Cutting to an integer -/

/-- A mantissa and an exponent as a natural number, without the fraction. -/
def whole (mantissa : Nat) (exponent : Int) : Nat :=
  if 0 ≤ exponent then mantissa <<< exponent.toNat else mantissa >>> (-exponent).toNat

theorem le_whole_iff (n mantissa : Nat) (exponent : Int) :
    n ≤ whole mantissa exponent ↔ (n : ℚ) ≤ mantissa * 2 ^ exponent := by
  unfold whole
  split
  · rename_i nonneg
    obtain ⟨k, rfl⟩ := Int.eq_ofNat_of_zero_le nonneg
    rw [Int.toNat_natCast, Nat.shiftLeft_eq, zpow_natCast]
    exact_mod_cast Iff.rfl
  · rename_i negative
    obtain ⟨k, eq⟩ : ∃ k : Nat, -exponent = k := ⟨(-exponent).toNat, by omega⟩
    obtain rfl : exponent = -k := by omega
    have unit : (0 : ℚ) < 2 ^ k := pow_pos two_pos k
    rw [Int.neg_neg, Int.toNat_natCast, Nat.shiftRight_eq_div_pow,
      Nat.le_div_iff_mul_le (Nat.two_pow_pos k), zpow_neg, zpow_natCast, ← div_eq_mul_inv,
      le_div_iff₀ unit]
    exact_mod_cast Iff.rfl

/-- Cut to an integer, a finite number reaches what it reached up to the end of the range. -/
theorem le_toInt32_iff (negative : Bool) (mantissa : Nat) (exponent : Int) {n : Nat}
    (small : n ≤ int32Max) :
    n ≤ (finite negative mantissa exponent).toInt32.toInt.natAbs ↔
      (finite negative mantissa exponent).Reaches n := by
  have cut : (finite negative mantissa exponent).toInt32 = Int32.ofInt (max Int32.minValue.toInt
      (min Int32.maxValue.toInt (signed negative (whole mantissa exponent)))) := rfl
  have low : Int32.minValue.toInt = -2147483648 := rfl
  have high : Int32.maxValue.toInt = 2147483647 := rfl
  unfold int32Max at small
  rw [reaches_finite, ← le_whole_iff, cut, low, high,
    Int32.toInt_ofInt_of_le (by simp) (by simp)]
  cases negative with
  | false => simp only [signed]; omega
  | true => simp only [signed]; omega

end Value
end FieldbusNode.Binary
