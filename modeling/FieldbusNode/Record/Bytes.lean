/-
Numbers as bytes.

Process data is little-endian, the inertial sensor's serial line big-endian.  Both
orders are written from one pair of functions on natural numbers; the big-endian
ones are the little-endian ones reversed.
-/
namespace FieldbusNode.Bytes

/-- How many numbers can be written in `width` bytes. -/
def modulus : Nat → Nat
  | 0 => 1
  | width + 1 => 256 * modulus width

/-- The `width` lowest bytes of a number, least significant first. -/
def ofNat : Nat → Nat → List UInt8
  | 0, _ => []
  | width + 1, n => UInt8.ofNat (n % 256) :: ofNat width (n / 256)

/-- The number whose bytes are given, least significant first. -/
def toNat : List UInt8 → Nat
  | [] => 0
  | b :: bs => b.toNat + 256 * toNat bs

/-- The `width` lowest bytes of a number, most significant first. -/
def ofNatBig (width n : Nat) : List UInt8 :=
  (ofNat width n).reverse

/-- The number whose bytes are given, most significant first. -/
def toNatBig (bytes : List UInt8) : Nat :=
  toNat bytes.reverse

@[simp] theorem length_ofNat (width n : Nat) : (ofNat width n).length = width := by
  induction width generalizing n with
  | zero => rfl
  | succ width ih => simp [ofNat, ih]

@[simp] theorem length_ofNatBig (width n : Nat) : (ofNatBig width n).length = width := by
  simp [ofNatBig]

/-- Reading back the bytes of a number gives its remainder. -/
theorem toNat_ofNat (width n : Nat) : toNat (ofNat width n) = n % modulus width := by
  induction width generalizing n with
  | zero => simp [ofNat, toNat, modulus, Nat.mod_one]
  | succ width ih =>
    have low : (UInt8.ofNat (n % 256)).toNat = n % 256 := by
      rw [UInt8.toNat_ofNat']
      exact Nat.mod_eq_of_lt (Nat.mod_lt n (by decide))
    rw [ofNat, toNat, ih, low, modulus, Nat.mod_mul]

theorem toNat_lt (bytes : List UInt8) : toNat bytes < modulus bytes.length := by
  induction bytes with
  | nil => simp [toNat, modulus]
  | cons b bs ih =>
    have hb := b.toNat_lt
    simp only [toNat, List.length_cons, modulus]
    omega

/-- Writing a number that was read gives the bytes back. -/
theorem ofNat_toNat (bytes : List UInt8) : ofNat bytes.length (toNat bytes) = bytes := by
  induction bytes with
  | nil => rfl
  | cons b bs ih =>
    have hb := b.toNat_lt
    have low : (b.toNat + 256 * toNat bs) % 256 = b.toNat := by omega
    have high : (b.toNat + 256 * toNat bs) / 256 = toNat bs := by omega
    simp only [List.length_cons, ofNat, toNat, low, high, ih, UInt8.ofNat_toNat]

theorem toNatBig_ofNatBig (width n : Nat) : toNatBig (ofNatBig width n) = n % modulus width := by
  simp [toNatBig, ofNatBig, toNat_ofNat]

theorem ofNatBig_toNatBig (bytes : List UInt8) :
    ofNatBig bytes.length (toNatBig bytes) = bytes := by
  have h := ofNat_toNat bytes.reverse
  rw [List.length_reverse] at h
  simp [toNatBig, ofNatBig, h]

end FieldbusNode.Bytes
