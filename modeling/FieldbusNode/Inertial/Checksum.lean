/-
The checksum of an inertial sensor frame: CRC-32 of IEEE 802.3.

The register is shifted one bit at a time, least significant bit first; a bit
that falls out adds the reflected generator polynomial.
-/
namespace FieldbusNode.Inertial

/-- The generator polynomial without its leading term, bit-reversed. -/
def reflectedGenerator : UInt32 := 0xEDB88320

/-- One shift of the register. -/
def shiftRegister (crc : UInt32) : UInt32 :=
  if crc &&& 1 = 1 then (crc >>> 1) ^^^ reflectedGenerator else crc >>> 1

/-- `n` shifts of the register. -/
def shiftRegisterBy : Nat → UInt32 → UInt32
  | 0, crc => crc
  | n + 1, crc => shiftRegisterBy n (shiftRegister crc)

/-- Takes in one byte. -/
def absorb (crc : UInt32) (byte : UInt8) : UInt32 :=
  shiftRegisterBy 8 (crc ^^^ byte.toUInt32)

/-- The checksum of a byte string. -/
def checksum (bytes : List UInt8) : UInt32 :=
  ~~~(bytes.foldl absorb 0xFFFFFFFF)

end FieldbusNode.Inertial
