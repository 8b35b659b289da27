/-
The value types of process-data fields.

Each type is a width and a sign convention; its values are written and read as
little-endian two's complement.
-/
import FieldbusNode.Record.Bytes
namespace FieldbusNode

/-- Type of the value a field holds. -/
inductive ValueType
  | u8
  | i8
  | u16
  | i16
  | u32
  | i32
  deriving DecidableEq

namespace ValueType

/-- Encoded width in bytes. -/
def width : ValueType → Nat
  | u8 | i8 => 1
  | u16 | i16 => 2
  | u32 | i32 => 4

/-- Whether the type has negative values. -/
def signed : ValueType → Bool
  | i8 | i16 | i32 => true
  | u8 | u16 | u32 => false

/-- Every type. -/
def all : List ValueType := [.u8, .i8, .u16, .i16, .u32, .i32]

/-- Name of a type. -/
def name : ValueType → String
  | u8 => "u8"
  | i8 => "i8"
  | u16 => "u16"
  | i16 => "i16"
  | u32 => "u32"
  | i32 => "i32"

/-- How many values the type has. -/
def modulus (t : ValueType) : Nat :=
  Bytes.modulus t.width

/-- The values of the type. -/
def Holds (t : ValueType) (value : Int) : Prop :=
  if t.signed then -(t.modulus / 2 : Int) ≤ value ∧ value < (t.modulus / 2 : Int)
  else 0 ≤ value ∧ value < t.modulus

instance (t : ValueType) (value : Int) : Decidable (t.Holds value) := by
  unfold Holds; infer_instance

/-- The bytes of a value; what does not fit the type wraps around. -/
def encode (t : ValueType) (value : Int) : List UInt8 :=
  Bytes.ofNat t.width (value % t.modulus).toNat

/-- The value in the first bytes of a list, `none` if there are too few. -/
def decode? (t : ValueType) (bytes : List UInt8) : Option Int :=
  if bytes.length < t.width then none
  else
    let n := Bytes.toNat (bytes.take t.width)
    if t.signed ∧ t.modulus ≤ 2 * n then some (n - t.modulus) else some n

@[simp] theorem length_encode (t : ValueType) (value : Int) :
    (t.encode value).length = t.width := by
  simp [encode]

/-- A value that was written reads back. -/
theorem decode?_encode (t : ValueType) (value : Int) (h : t.Holds value) (rest : List UInt8) :
    t.decode? (t.encode value ++ rest) = some value := by
  have wide : t.modulus = Bytes.modulus t.width := rfl
  have pos : (0 : Int) < t.modulus := by cases t <;> decide
  have small : (value % t.modulus).toNat % Bytes.modulus t.width = (value % t.modulus).toNat := by
    apply Nat.mod_eq_of_lt
    have := Int.emod_lt_of_pos value pos
    omega
  have even : (t.modulus : Int) = 2 * (t.modulus / 2 : Int) := by cases t <;> decide
  have taken : (t.encode value ++ rest).take t.width = t.encode value := by
    rw [List.take_append_of_le_length (by simp), List.take_of_length_le (by simp)]
  unfold decode?
  rw [if_neg (by simp), taken]
  simp only [encode, Bytes.toNat_ofNat, small]
  unfold Holds at h
  have nonneg := Int.emod_nonneg value (by omega : (t.modulus : Int) ≠ 0)
  cases hs : t.signed <;> simp only [hs, Bool.false_eq_true, if_true, if_false] at h ⊢
  · rw [Int.emod_eq_of_lt h.1 h.2]
    simp [Int.toNat_of_nonneg h.1]
  · by_cases neg : value < 0
    · have shifted : value % t.modulus = value + t.modulus := by
        rw [← Int.add_emod_right, Int.emod_eq_of_lt (by omega) (by omega)]
      rw [if_pos ⟨trivial, by omega⟩]
      simp only [Option.some.injEq]
      omega
    · have same : value % t.modulus = value := Int.emod_eq_of_lt (by omega) (by omega)
      rw [if_neg (by omega)]
      simp only [Option.some.injEq]
      omega

end ValueType
end FieldbusNode
