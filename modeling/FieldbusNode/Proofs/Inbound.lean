/-
What a cycle takes over of the inbound record.

A cycle copies as many bytes of the inbound record on the board as the layout has, and
keeps what is behind them.  It does so once, between its sampling and its tick.  So the
tick runs against the latest record, whichever edge the cycle runs for, and the parts of
the record that a tick looks at can be read on the board (`Controller.command_readied`,
`masterCounter_readied`, `currentCommand_readied`).

On the board the header of the record is what the master has written in its last step.
-/
import FieldbusNode.Proofs.Clockwork
import FieldbusNode.Proofs.Telemetry
namespace FieldbusNode

open Simulation (SimBoard Rig Action Master)

/-! ### Parts of a record -/

namespace Record

/-- The state asked for in an inbound record. -/
def command (r : Record) : Option State :=
  State.ofByte? (r.getByte Inbound.command.offset)

/-- The counter of the master in an inbound record. -/
def masterCounter (r : Record) : UInt16 :=
  UInt16.ofNat (r.getNat Inbound.masterCounter)

/-- The motor current in an inbound record. -/
def motorCurrent (r : Record) : Int32 :=
  Int32.ofNat (r.getNat Inbound.motorCurrent)

/-- Slices are alike if their bytes are. -/
theorem slice_congr {r r' : Record} {offset width : Nat}
    (same : ∀ i, offset ≤ i → i < offset + width → r.getByte i = r'.getByte i) :
    r.slice offset width = r'.slice offset width := by
  apply List.ext_getElem (by simp)
  intro i hi _
  rw [length_slice] at hi
  simp only [slice, List.getElem_map, List.getElem_range]
  exact same _ (Nat.le_add_right _ _) (by omega)

/-- Bytes taken over from the beginning of another record leave those behind them. -/
theorem getByte_put_leading_of_le (r other : Record) {size i : Nat} (behind : size ≤ i) :
    (r.put 0 (other.leading size)).getByte i = r.getByte i := by
  have none : (other.leading size)[i - 0]? = none :=
    List.getElem?_eq_none (by rw [leading, length_slice]; exact behind)
  rw [getByte_put, none]
  exact ite_self _

end Record

namespace Simulation.Master

variable (m : Master)

theorem commandByte_prepared : m.prepared.rx.getByte Inbound.command.offset = m.command := by
  show ((m.rx.setByte Inbound.command.offset m.command).put _ _).getByte _ = _
  rw [Record.getByte_put, if_neg (by decide), Record.getByte_setByte, if_pos (by decide)]

theorem command_prepared : m.prepared.rx.command = State.ofByte? m.command := by
  rw [Record.command, m.commandByte_prepared]

theorem masterCounter_prepared : m.prepared.rx.masterCounter = m.prepared.counter := by
  have written := Record.getNat_putNat (m.rx.setByte Inbound.command.offset m.command)
    Inbound.masterCounter m.prepared.counter.toNat (by decide)
  have fits : m.prepared.counter.toNat % Bytes.modulus Inbound.masterCounter.width =
      m.prepared.counter.toNat := Nat.mod_eq_of_lt m.prepared.counter.toNat_lt
  unfold Record.masterCounter
  rw [show m.prepared.rx.getNat Inbound.masterCounter = _ from written, fits]
  exact UInt16.ofNat_toNat

end Simulation.Master

/-! ### The exchange of a cycle -/

/-- The beginning of the record on the board is taken over, as far as the layout goes. -/
theorem ProcessData.inbound_ingest (p : ProcessData) (fits : p.layout.rxSize ≤ recordCapacity)
    (b : SimBoard) : (p.ingest (Board.receive p.layout.rxSize b).1).inbound =
      p.inbound.put 0 (b.rx.leading p.layout.rxSize) := by
  have received : (Board.receive p.layout.rxSize b).1 = b.rx.leading p.layout.rxSize := by
    show b.rx.leading (min p.layout.rxSize recordCapacity) = _
    rw [Nat.min_eq_left fits]
  have whole : (b.rx.leading p.layout.rxSize).take p.layout.rxSize =
      b.rx.leading p.layout.rxSize :=
    List.take_of_length_le (Nat.le_of_eq (Record.length_slice _ _ _))
  rw [ingest, received, whole]

namespace Controller

variable (c : Controller SimBoard)

theorem inbound_exchange (fits : c.data.layout.rxSize ≤ recordCapacity) :
    c.exchange.data.inbound = c.data.inbound.put 0 (c.board.rx.leading c.data.layout.rxSize) := by
  let sent := c.data.writeHeader c.id c.machine.state c.counter c.device.flags
  exact sent.published.inbound_ingest fits (Board.send sent.wireBytes c.board)

/-- **Whichever edge a cycle runs for, its tick runs against the latest inbound record.** -/
theorem inbound_readied (valid : c.data.layout.Valid) (edge : Edge) :
    (c.readied edge).data.inbound =
      c.data.inbound.put 0 (c.board.rx.leading c.data.layout.rxSize) := by
  let ready := c.accountEdge edge
  have fits : c.data.layout.rxSize ≤ recordCapacity := valid.2.2.1
  have sampled : (ready.sampleInputs (Board.sinceEdge ready.board)).data.inbound =
      c.data.inbound := by
    have kept := congrArg ProcessData.inbound
      (ready.device.outbound_updateInputs (Board.sinceEdge ready.board) ready.data ready.board)
    exact kept
  have layout : (ready.sampleInputs (Board.sinceEdge ready.board)).data.layout = c.data.layout :=
    layout_sampleInputs ready _
  have clockwork := (clockwork_sampleInputs ready (Board.sinceEdge ready.board)).trans
    (c.clockwork_accountEdge edge)
  have rx : (ready.sampleInputs (Board.sinceEdge ready.board)).board.rx = c.board.rx := by
    have erased := congrArg SimBoard.rx clockwork
    exact erased
  have taken := inbound_exchange (ready.sampleInputs (Board.sinceEdge ready.board))
    (by rw [layout]; exact fits)
  rw [sampled, layout, rx] at taken
  rw [(c.settled_readied edge).data]
  exact taken

variable {c}

theorem slice_readied (valid : c.data.layout.Valid) (edge : Edge) {offset width : Nat}
    (inside : offset + width ≤ c.data.layout.rxSize) :
    (c.readied edge).data.inbound.slice offset width = c.board.rx.slice offset width := by
  rw [inbound_readied c valid, Record.slice_put_leading _ _ inside valid.2.2.1]

theorem command_readied (valid : c.data.layout.Valid) (edge : Edge) :
    (c.readied edge).data.command = c.board.rx.command := by
  have inside : Inbound.command.offset < c.data.layout.rxSize :=
    Nat.lt_of_lt_of_le (by decide : Inbound.command.offset < Inbound.headerEnd) valid.1
  unfold ProcessData.command Record.command
  rw [inbound_readied c valid, Record.getByte_put_leading _ _ inside valid.2.2.1]

theorem masterCounter_readied (valid : c.data.layout.Valid) (edge : Edge) :
    (c.readied edge).data.masterCounter = c.board.rx.masterCounter := by
  unfold ProcessData.masterCounter Record.masterCounter Record.getNat
  rw [slice_readied valid edge valid.1]

theorem currentCommand_readied (valid : c.data.layout.Valid) (edge : Edge)
    (inside : Inbound.motorCurrent.stop ≤ c.data.layout.rxSize) :
    (c.readied edge).data.currentCommand = c.board.rx.motorCurrent := by
  unfold ProcessData.currentCommand Record.motorCurrent Record.getNat
  rw [slice_readied valid edge inside]

end Controller
end FieldbusNode
