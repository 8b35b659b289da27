/-
Process data of a node.

Two records are exchanged with the master once a cycle.  The inbound one holds
what the master asks for, the outbound one what the node reports.  The layout
fixes how much of each is exchanged.

A value is read from a field and written into one with its type.  The functions
whose names end in a question mark refuse a field that lies outside of the layout
and a type that does not fit the field.  Telemetry is written with `report`, which
ends the run where one of them refuses.
-/
import FieldbusNode.Event
import FieldbusNode.Record
import FieldbusNode.State
namespace FieldbusNode

/-- Inbound and outbound record of one node. -/
structure ProcessData where
  layout : Layout
  inbound : Record
  outbound : Record
  /-- How often the outbound record was published. -/
  publishCount : Nat
  /-- How often the inbound record was taken over. -/
  ingestCount : Nat

namespace ProcessData

/-- Two zeroed records of a layout. -/
def ofLayout (layout : Layout) : ProcessData :=
  ⟨layout, .zero, .zero, 0, 0⟩

/-- Two zeroed records of a layout, `none` if the layout is not valid. -/
def ofLayout? (layout : Layout) : Option ProcessData :=
  if layout.Valid then some (ofLayout layout) else none

/-! ### Inbound -/

/-- The state the master asks for, `none` for an unknown byte. -/
def command (p : ProcessData) : Option State :=
  State.ofByte? (p.inbound.getByte Inbound.command.offset)

/-- The master's cycle counter. -/
def masterCounter (p : ProcessData) : UInt16 :=
  UInt16.ofNat (p.inbound.getNat Inbound.masterCounter)

/-- The commanded motor current. -/
def currentCommand (p : ProcessData) : Int32 :=
  Int32.ofNat (p.inbound.getNat Inbound.motorCurrent)

/-- Overwrites the inbound header, as the master would. -/
def loadHeader (p : ProcessData) (command : UInt8) (counter : UInt16) : ProcessData :=
  let asking := p.inbound.setByte Inbound.command.offset command
  { p with inbound := asking.putNat Inbound.masterCounter counter.toNat }

/-- Takes over bytes received from the transport. -/
def ingest (p : ProcessData) (received : List UInt8) : ProcessData :=
  { p with
    inbound := p.inbound.put 0 (received.take p.layout.rxSize)
    ingestCount := p.ingestCount + 1 }

/-! ### Outbound -/

/-- Fills the outbound header. -/
def writeHeader (p : ProcessData) (id : Identity) (state : State) (counter : UInt8)
    (flags : Flags) : ProcessData :=
  { p with outbound := p.outbound.put 0 [id.byte, state.toByte, counter, flags.toByte] }

/-- The outbound bytes that go on the wire. -/
def wireBytes (p : ProcessData) : List UInt8 :=
  p.outbound.leading p.layout.txSize

/-- Counts a publication. -/
def published (p : ProcessData) : ProcessData :=
  { p with publishCount := p.publishCount + 1 }

/-! ### Access to an arbitrary field -/

/-- Reads a field of the inbound record; it has to lie within the layout. -/
def readInbound? (p : ProcessData) (f : Field) (t : ValueType) : Except Trap Int :=
  if p.layout.rxSize < f.stop then .error .fieldBounds else p.inbound.read? f t

/-- Overwrites a field of the inbound record, as the master would. -/
def loadInbound? (p : ProcessData) (f : Field) (t : ValueType) (value : Int) :
    Except Trap ProcessData := do
  let inbound ← p.inbound.write? f t value
  return { p with inbound }

/-- Writes a field of the outbound record; it has to lie within the layout. -/
def writeOutbound? (p : ProcessData) (f : Field) (t : ValueType) (value : Int) :
    Except Trap ProcessData :=
  if p.layout.txSize < f.stop then .error .fieldBounds
  else do
    let outbound ← p.outbound.write? f t value
    return { p with outbound }

/-- Reads back a field of the outbound record. -/
def readOutbound? (p : ProcessData) (f : Field) (t : ValueType) : Except Trap Int :=
  p.outbound.read? f t

/-! ### Telemetry -/

/-- A value of some type for a telemetry field. -/
structure Item where
  field : Field
  type : ValueType
  value : Int

/-- Writes values into their fields, one after another. -/
def writeAll? (p : ProcessData) (items : List Item) : Except Trap ProcessData :=
  items.foldlM (fun p item => p.writeOutbound? item.field item.type item.value) p

/-- Writes telemetry.  A write that is refused is a failed run-time check. -/
def report {σ : Type} [Journal σ] (p : ProcessData) (items : List Item) (s : σ) :
    ProcessData × σ :=
  match p.writeAll? items with
  | .ok written => (written, s)
  | .error t => (p, Journal.trap t s)

end ProcessData
end FieldbusNode
