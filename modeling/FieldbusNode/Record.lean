/-
One direction of the process data: sixty-four bytes.

`Record.put` writes bytes one after another and drops those behind the end, so it
is total; what may not reach behind the end is checked before it is called.
`getByte_put` says what a write leaves where, and with it reads over writes need
no arithmetic on bytes.
-/
import FieldbusNode.Record.Field
import FieldbusNode.Record.ValueType
import FieldbusNode.Trap
namespace FieldbusNode

/-- The bytes of one direction. -/
structure Record where
  bytes : Vector UInt8 recordCapacity
  deriving DecidableEq

namespace Record

/-- A record of zeros. -/
def zero : Record := ⟨Vector.replicate recordCapacity 0⟩

instance : Inhabited Record := ⟨zero⟩

/-- The byte at an index, zero behind the end. -/
def getByte (r : Record) (i : Nat) : UInt8 :=
  r.bytes[i]?.getD 0

/-- Writes one byte; nothing happens behind the end. -/
def setByte (r : Record) (i : Nat) (b : UInt8) : Record :=
  ⟨r.bytes.setIfInBounds i b⟩

/-- Writes bytes from an index on. -/
def put (r : Record) (offset : Nat) : List UInt8 → Record
  | [] => r
  | b :: bs => (r.setByte offset b).put (offset + 1) bs

/-- The bytes from an index on. -/
def slice (r : Record) (offset width : Nat) : List UInt8 :=
  (List.range width).map fun i => r.getByte (offset + i)

/-- The first bytes of the record. -/
def leading (r : Record) (size : Nat) : List UInt8 :=
  r.slice 0 size

/-- Writes a natural number into a field, little-endian. -/
def putNat (r : Record) (f : Field) (n : Nat) : Record :=
  r.put f.offset (Bytes.ofNat f.width n)

/-- Reads a field as a natural number, little-endian. -/
def getNat (r : Record) (f : Field) : Nat :=
  Bytes.toNat (r.slice f.offset f.width)

/-! ### Checked access -/

/-- Reads a value of a type from the bytes of a field.  The field has to lie in the record and be
at least as wide as the type. -/
def read? (r : Record) (f : Field) (t : ValueType) : Except Trap Int :=
  if recordCapacity < f.stop then .error .sliceBounds
  else
    match t.decode? (r.slice f.offset f.width) with
    | some value => .ok value
    | none => .error .sliceBounds

/-- Writes a value of a type to the first bytes of a field, with the same demands as reading. -/
def write? (r : Record) (f : Field) (t : ValueType) (value : Int) : Except Trap Record :=
  if recordCapacity < f.stop ∨ f.width < t.width then .error .sliceBounds
  else .ok (r.put f.offset (t.encode value))

/-! ### Bytes after a write -/

theorem getByte_setByte (r : Record) (i j : Nat) (b : UInt8) :
    (r.setByte i b).getByte j = if i = j ∧ i < recordCapacity then b else r.getByte j := by
  unfold getByte setByte
  by_cases h : i = j
  · subst h
    by_cases hi : i < recordCapacity
    · simp [hi]
    · simp [hi]
  · simp [h]

/-- A write changes the bytes it covers, as far as they exist, and no others. -/
theorem getByte_put (r : Record) (offset : Nat) (bs : List UInt8) (j : Nat) :
    (r.put offset bs).getByte j =
      if offset ≤ j ∧ j < recordCapacity then (bs[j - offset]?).getD (r.getByte j)
      else r.getByte j := by
  induction bs generalizing r offset with
  | nil => simp [put]
  | cons b bs ih =>
    rw [put, ih, getByte_setByte]
    by_cases hj : j < recordCapacity
    · rcases Nat.lt_trichotomy offset j with h | h | h
      · obtain ⟨k, rfl⟩ : ∃ k, j = offset + 1 + k := ⟨j - offset - 1, by omega⟩
        have e1 : offset + 1 + k - (offset + 1) = k := by omega
        have e2 : offset + 1 + k - offset = k + 1 := by omega
        simp [hj, e1, e2, show offset ≤ offset + 1 + k by omega,
          show ¬offset = offset + 1 + k by omega]
      · subst h
        simp [hj, show ¬offset + 1 ≤ offset by omega]
      · simp [show ¬offset + 1 ≤ j by omega, show ¬offset ≤ j by omega, show ¬offset = j by omega]
    · simp [hj]
      intro h; omega

@[simp] theorem length_slice (r : Record) (offset width : Nat) :
    (r.slice offset width).length = width := by
  simp [slice]

/-- Reading where bytes were just written gives them back. -/
theorem slice_put (r : Record) (offset : Nat) (bs : List UInt8)
    (h : offset + bs.length ≤ recordCapacity) :
    (r.put offset bs).slice offset bs.length = bs := by
  apply List.ext_getElem (by simp)
  intro i _ hi
  simp only [slice, List.getElem_map, List.getElem_range, getByte_put]
  rw [if_pos ⟨by omega, by omega⟩, Nat.add_sub_cancel_left, List.getElem?_eq_getElem hi]
  rfl

/-- Reading beside what was written gives what was there. -/
theorem slice_put_of_disjoint (r : Record) (offset : Nat) (bs : List UInt8) (start width : Nat)
    (h : start + width ≤ offset ∨ offset + bs.length ≤ start) :
    (r.put offset bs).slice start width = r.slice start width := by
  apply List.ext_getElem (by simp)
  intro i hi _
  simp only [length_slice] at hi
  simp only [slice, List.getElem_map, List.getElem_range, getByte_put]
  rcases h with h | h
  · rw [if_neg (by omega)]
  · split
    · rw [List.getElem?_eq_none (by omega)]; rfl
    · rfl

/-- Bytes taken over from the beginning of another record are those of that record. -/
theorem getByte_put_leading (r other : Record) {size i : Nat} (inside : i < size)
    (fits : size ≤ recordCapacity) :
    (r.put 0 (other.leading size)).getByte i = other.getByte i := by
  rw [getByte_put, if_pos ⟨Nat.zero_le _, Nat.lt_of_lt_of_le inside fits⟩]
  simp [leading, slice, inside]

theorem slice_put_leading (r other : Record) {size offset width : Nat}
    (inside : offset + width ≤ size) (fits : size ≤ recordCapacity) :
    (r.put 0 (other.leading size)).slice offset width = other.slice offset width := by
  apply List.ext_getElem (by simp)
  intro i hi _
  rw [length_slice] at hi
  simp only [slice, List.getElem_map, List.getElem_range]
  exact getByte_put_leading r other (by omega) fits

/-- A number written into a field reads back, as far as it fits the field. -/
theorem getNat_putNat (r : Record) (f : Field) (n : Nat) (h : f.stop ≤ recordCapacity) :
    (r.putNat f n).getNat f = n % Bytes.modulus f.width := by
  have := slice_put r f.offset (Bytes.ofNat f.width n) (by simpa [Field.stop] using h)
  simp only [Bytes.length_ofNat] at this
  simp [getNat, putNat, this, Bytes.toNat_ofNat]

end Record
end FieldbusNode
