/-
Frames of the inertial sensor.

The sensor emits one frame of thirty-six bytes per sync pulse, most significant
byte first:

    offset  size  field
         0     4  header FE 81 FF 55
         4    12  angle deltas X, Y, Z
        16    12  accelerations X, Y, Z
        28     1  status
        29     1  sequence
        30     2  temperature
        32     4  checksum of bytes 0 to 31

Decoding looks at length, header and checksum, in this order, and at nothing
behind the thirty-sixth byte.
-/
import FieldbusNode.Inertial.Checksum
import FieldbusNode.Record.Bytes
import FieldbusNode.Text.Hex
import FieldbusNode.Triple
namespace FieldbusNode.Inertial

/-- Length of a frame. -/
def frameLength : Nat := 36

/-- How many bytes the checksum covers. -/
def checksumSpan : Nat := 32

/-- The first four bytes of every frame. -/
def frameHeader : List UInt8 := [0xFE, 0x81, 0xFF, 0x55]

/-- The sequence number published in place of a rejected frame's. -/
def invalidSequence : UInt8 := 255

/-- What one frame says. -/
structure Sample where
  angleDelta : Triple UInt32
  accel : Triple UInt32
  status : UInt8
  sequence : UInt8
  temperature : Int16
  deriving DecidableEq

/-- All readings zero. -/
def Sample.zero : Sample := ⟨.fill 0, .fill 0, 0, 0, 0⟩

instance : Inhabited Sample := ⟨.zero⟩

/-- Why a frame was rejected. -/
inductive FrameError
  /-- Too few bytes arrived. -/
  | short (received : Nat)
  /-- The header is wrong. -/
  | badHeader
  /-- The carried checksum is not the computed one. -/
  | checksum (carried computed : UInt32)
  deriving DecidableEq

/-- The wording of a rejection. -/
def FrameError.message : FrameError → String
  | .short received => "short frame: " ++ toString received ++ " of 36 bytes"
  | .badHeader => "bad frame header"
  | .checksum carried computed =>
    "checksum mismatch: frame says " ++ Text.hex 8 carried.toNat ++ ", computed " ++
      Text.hex 8 computed.toNat

/-- The bytes of a word, most significant first. -/
def wordBytes (w : UInt32) : List UInt8 :=
  Bytes.ofNatBig 4 w.toNat

/-- The word in four bytes of a frame. -/
def wordAt (frame : List UInt8) (offset : Nat) : UInt32 :=
  UInt32.ofNat (Bytes.toNatBig ((frame.drop offset).take 4))

/-- The part of a frame that the checksum covers. -/
def Sample.body (s : Sample) : List UInt8 :=
  frameHeader ++ (s.angleDelta.toList ++ s.accel.toList).flatMap wordBytes ++
    [s.status, s.sequence] ++ Bytes.ofNatBig 2 s.temperature.toUInt16.toNat

/-- The frame that says what a sample holds. -/
def Sample.encode (s : Sample) : List UInt8 :=
  s.body ++ wordBytes (checksum s.body)

/-- The sample in the bytes of an accepted frame. -/
def Sample.ofFrame (frame : List UInt8) : Sample where
  angleDelta := ⟨wordAt frame 4, wordAt frame 8, wordAt frame 12⟩
  accel := ⟨wordAt frame 16, wordAt frame 20, wordAt frame 24⟩
  status := frame.getD 28 0
  sequence := frame.getD 29 0
  temperature :=
    (UInt16.ofNat (Bytes.toNatBig ((frame.drop 30).take 2))).toInt16

/-- Checks a received frame and reads it. -/
def Sample.decode (frame : List UInt8) : Except FrameError Sample :=
  if frame.length < frameLength then .error (.short frame.length)
  else if frame.take 4 ≠ frameHeader then .error .badHeader
  else
    let carried := wordAt frame checksumSpan
    let computed := checksum (frame.take checksumSpan)
    if carried ≠ computed then .error (.checksum carried computed)
    else .ok (Sample.ofFrame frame)

end FieldbusNode.Inertial
