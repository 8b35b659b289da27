/-
Identity of a node.

A node reads one byte from its switches at power-up.  The high nibble says what
kind of device it drives, the low nibble where on the robot it sits.
-/
import FieldbusNode.Text.Blank
import FieldbusNode.Text.Hex
import FieldbusNode.Text.Numeral
namespace FieldbusNode

/-- Kind of hardware a node drives. -/
inductive Kind
  /-- Series-elastic leg actuator. -/
  | leg
  /-- Hip actuator. -/
  | hip
  /-- Boom instrumentation, no outputs. -/
  | boom
  /-- Inertial measurement unit, no outputs. -/
  | imu
  deriving DecidableEq

namespace Kind

/-- Name used in messages and as the name of the kind's record layout. -/
def name : Kind → String
  | .leg => "leg"
  | .hip => "hip"
  | .boom => "boom"
  | .imu => "imu"

/-- Capitalized name. -/
def title : Kind → String
  | .leg => "Leg"
  | .hip => "Hip"
  | .boom => "Boom"
  | .imu => "Imu"

end Kind

/-- Identity byte of a node. -/
structure Identity where
  byte : UInt8
  deriving DecidableEq, Inhabited

namespace Identity

/-- The kind named by the high nibble, if it names one. -/
def kind? (id : Identity) : Option Kind :=
  match id.byte.toNat / 16 with
  | 1 => some .leg
  | 2 => some .hip
  | 3 => some .boom
  | 4 => some .imu
  | _ => none

/-- Position within the kind. -/
def position (id : Identity) : Nat :=
  id.byte.toNat % 16

/-- Two hexadecimal digits behind `0x`. -/
def render (id : Identity) : String :=
  Text.hex 2 id.byte.toNat

/-- A text that names no identity, trimmed, and what is wrong with it. -/
structure ReadError where
  text : String
  cause : Text.NumeralError
  deriving DecidableEq

/-- The wording of a refused identity. -/
def ReadError.message (e : ReadError) : String :=
  "invalid device id '" ++ e.text ++ "': " ++ e.cause.message

/-- The value of a trimmed identity: hexadecimal behind `0x` or `0X`, decimal otherwise. -/
def readValue : List Char → Except Text.NumeralError Nat
  | '0' :: 'x' :: digits => Text.readNumeral 16 255 digits
  | '0' :: 'X' :: digits => Text.readNumeral 16 255 digits
  | digits => Text.readNumeral 10 255 digits

/-- Reads an identity as an operator types it, with any white space around it. -/
def read (text : String) : Except ReadError Identity :=
  let trimmed := Text.trim text.toList
  match readValue trimmed with
  | .ok value => .ok ⟨UInt8.ofNat value⟩
  | .error cause => .error ⟨String.ofList trimmed, cause⟩

end Identity
end FieldbusNode
