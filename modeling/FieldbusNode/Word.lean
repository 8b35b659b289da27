/-
The ranges of machine words.

Where a number is kept exactly here but in a word of some size elsewhere, the
bounds of the word decide what is refused, what stays at the end of the range and
what wraps around.
-/
namespace FieldbusNode

/-- The largest unsigned 8-bit number. -/
def uint8Max : Nat := 0xFF

/-- The largest unsigned 16-bit number. -/
def uint16Max : Nat := 0xFFFF

/-- The largest unsigned 32-bit number. -/
def uint32Max : Nat := 0xFFFFFFFF

/-- The largest unsigned 64-bit number. -/
def uint64Max : Nat := 0xFFFFFFFFFFFFFFFF

/-- The largest unsigned 128-bit number. -/
def uint128Max : Nat := 0xFFFFFFFFFFFFFFFFFFFFFFFFFFFFFFFF

/-- The largest signed 32-bit number. -/
def int32Max : Nat := 0x7FFFFFFF

/-- The smallest signed 32-bit number. -/
def int32Min : Int := -0x80000000

/-- The largest signed 64-bit number. -/
def int64Max : Int := 0x7FFFFFFFFFFFFFFF

/-- The smallest signed 64-bit number. -/
def int64Min : Int := -0x8000000000000000

/-- The smallest signed 128-bit number. -/
def int128Min : Int := -0x80000000000000000000000000000000

end FieldbusNode
