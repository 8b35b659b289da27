/-
What a cycle publishes.

A cycle publishes once, after it has sampled and before it ticks.  So the flags in the
header are those of the device as the tick will find it, and no hook of the tick
touches the record that has been handed over.

A record holds its header whole, because every kind of device has a valid layout and no
pass changes it.
-/
import FieldbusNode.Proofs.Station
namespace FieldbusNode

open Simulation (SimBoard Rig Action Station Move)

/-! ### The published record -/

theorem Actuator.Monitor.Driven.published {m m' : Monitor} {b b' : SimBoard}
    (driven : m.Driven b m' b') : b'.published = b.published := by
  cases driven with
  | rests | traps | takes => rfl
  | refused => exact SimBoard.published_of_wiring (SimBoard.wiring_noteIf b _ _)

/-- No hook publishes anything. -/
theorem Mounted.published_keeps (record : Record × Nat) :
    Plant.Keeps fun p : Mounted SimBoard => p.board.published = record :=
  board_keeps (fun _ _ h => h) (fun _ _ h => h) (fun driven h => driven.published.trans h)
    (fun _ _ h => h)

theorem Device.published_setUp (d : Device) (data : ProcessData) (b : SimBoard) :
    (d.setUp data b).2.published = b.published := by
  rw [setUp_leaves (f := SimBoard.published) fun _ _ => rfl]
  cases d with
  | boom | imu => rfl
  | actuator joint m =>
      rw [powerUp_actuator]
      rfl

/-! ### The header -/

/-- The flags in the header of a record. -/
def Record.headerFlags (r : Record) : Flags :=
  Flags.ofByte (r.getByte Outbound.errorFlags.offset)

theorem ProcessData.getByte_writeHeader (p : ProcessData) (id : Identity) (state : State)
    (counter : UInt8) (flags : Flags) :
    (p.writeHeader id state counter flags).outbound.getByte Outbound.errorFlags.offset =
      flags.toByte := by
  unfold writeHeader
  rw [Record.getByte_put]
  rfl

theorem Record.getByte_put_wireBytes (r : Record) {p : ProcessData} (valid : p.layout.Valid) :
    (r.put 0 p.wireBytes).getByte Outbound.errorFlags.offset =
      p.outbound.getByte Outbound.errorFlags.offset := by
  obtain ⟨-, holds, -, fits⟩ := valid
  have inside : Outbound.errorFlags.offset < p.layout.txSize := holds
  exact r.getByte_put_leading p.outbound inside fits

namespace Controller

/-! ### The layout of a run -/

section Layout

variable {β : Type} [Board β] (c : Controller β)

theorem layout_exchange : c.exchange.data.layout = c.data.layout := by
  simp only [exchange, publish, ProcessData.layout_ingest, ProcessData.layout_published,
    ProcessData.layout_writeHeader]

theorem layout_sampleInputs (sinceEdge : Nat) :
    (c.sampleInputs sinceEdge).data.layout = c.data.layout :=
  c.device.layout_updateInputs sinceEdge c.data c.board

theorem data_feed (edgeSeen : Bool) : (c.feed edgeSeen).data = c.data := by
  unfold feed
  split <;> rfl

theorem device_feed (edgeSeen : Bool) : (c.feed edgeSeen).device = c.device := by
  unfold feed
  split <;> rfl

theorem layout_readied (edge : Edge) : (c.readied edge).data.layout = c.data.layout := by
  have exchanged : (c.readied edge).data = ((c.accountEdge edge).sampleInputs
      (Board.sinceEdge (c.accountEdge edge).board)).exchange.data := data_feed _ true
  rw [exchanged, layout_exchange, layout_sampleInputs]
  rfl

theorem layout_syncCycle (edge : Edge) : (c.syncCycle edge).data.layout = c.data.layout := by
  rw [syncCycle_eq]
  exact c.layout_readied edge

theorem layout_feed (edgeSeen : Bool) : (c.feed edgeSeen).data.layout = c.data.layout := by
  rw [data_feed]

end Layout

/-! ### The published header -/

variable (c : Controller SimBoard)

/-- The exchange publishes once, under a header with the flags of the device. -/
theorem published_exchange (valid : c.data.layout.Valid) :
    c.exchange.board.tx.headerFlags = c.device.flags ∧
      c.exchange.board.txWrites = c.board.txWrites + 1 := by
  have sent : c.exchange.board.tx = c.board.tx.put 0
      (c.data.writeHeader c.id c.machine.state c.counter c.device.flags).wireBytes := rfl
  have headed : (c.data.writeHeader c.id c.machine.state c.counter c.device.flags).layout.Valid := by
    rwa [ProcessData.layout_writeHeader]
  refine ⟨?_, rfl⟩
  rw [sent, Record.headerFlags, Record.getByte_put_wireBytes _ headed,
    ProcessData.getByte_writeHeader, Flags.ofByte_toByte]

/-! ### From the exchange to the tick -/

/-- Between two controllers nothing was sampled and nothing published. -/
structure Settled (c c' : Controller SimBoard) : Prop where
  device : c'.device = c.device
  data : c'.data = c.data
  published : c'.board.published = c.board.published

theorem Settled.trans {c c₁ c₂ : Controller SimBoard} (first : Settled c c₁)
    (second : Settled c₁ c₂) : Settled c c₂ :=
  ⟨second.device.trans first.device, second.data.trans first.data,
    second.published.trans first.published⟩

theorem settled_afterExchange : Settled c c.afterExchange := by
  obtain ⟨device, -, published⟩ := c.device.postSync_eq c.board
  exact ⟨device, rfl, published⟩

theorem settled_feed (edgeSeen : Bool) : Settled c (c.feed edgeSeen) := by
  unfold feed
  split
  · exact ⟨rfl, rfl, SimBoard.published_of_wiring (SimBoard.wiring_feed c.board)⟩
  · exact ⟨rfl, rfl, rfl⟩

theorem settled_sampleStopLine : Settled c c.sampleStopLine :=
  ⟨rfl, rfl, SimBoard.published_of_wiring (SimBoard.wiring_noteAll c.board _)⟩

/-- The controller of a cycle that has exchanged its records. -/
def exchanged (edge : Edge) : Controller SimBoard :=
  ((c.accountEdge edge).sampleInputs (Board.sinceEdge (c.accountEdge edge).board)).exchange

theorem settled_readied (edge : Edge) : Settled (c.exchanged edge) (c.readied edge) :=
  (settled_afterExchange _).trans ((settled_feed _ true).trans (settled_sampleStopLine _))

/-- The tick of a cycle finds the device that has sampled the board of the pass. -/
theorem device_readied (edge : Edge) : (c.readied edge).device = c.device.sampled c.board := by
  rw [(c.settled_readied edge).device]
  have sampled : (c.exchanged edge).device = (c.device.updateInputs
      (Board.sinceEdge (c.accountEdge edge).board) c.data (c.accountEdge edge).board).1 := rfl
  rw [sampled, Device.device_updateInputs]
  exact Device.sampled_of_wiring (c.wiring_accountEdge edge) c.device

theorem published_sampleInputs (sinceEdge : Nat) :
    (c.sampleInputs sinceEdge).board.published = c.board.published :=
  c.device.published_updateInputs c.board sinceEdge c.data

/-- The header published before a tick shows what the tick finds latched. -/
theorem published_readied (valid : c.data.layout.Valid) (edge : Edge) :
    (c.readied edge).board.tx.headerFlags = (c.readied edge).device.flags ∧
      (c.readied edge).board.txWrites = c.board.txWrites + 1 := by
  have settled := c.settled_readied edge
  have tx : (c.readied edge).board.tx = (c.exchanged edge).board.tx :=
    congrArg Prod.fst settled.published
  have writes : (c.readied edge).board.txWrites = (c.exchanged edge).board.txWrites :=
    congrArg Prod.snd settled.published
  -- Up to the exchange nothing has been published.
  have before := ((c.accountEdge edge).published_sampleInputs
    (Board.sinceEdge (c.accountEdge edge).board)).trans
      (SimBoard.published_of_wiring (c.wiring_accountEdge edge))
  have none := congrArg Prod.snd before
  obtain ⟨header, once⟩ := published_exchange
    ((c.accountEdge edge).sampleInputs (Board.sinceEdge (c.accountEdge edge).board))
    (by rw [layout_sampleInputs]; exact valid)
  rw [tx, writes, settled.device]
  exact ⟨header, once.trans (congrArg (· + 1) none)⟩

/-- A tick publishes nothing. -/
theorem published_tick : c.tick.board.published = c.board.published := by
  have kept := c.tick_way.keeps (Mounted.published_keeps c.board.published) rfl
  exact kept

theorem published_expire : c.expire.2.board.published = c.board.published := by
  have stopped := (Mounted.published_keeps c.board.published).estop c.mounted rfl
  exact stopped

variable {c}

theorem Pass.layout {outcome : Except Expiry Outcome} {c' : Controller SimBoard}
    (pass : Pass c outcome c') : c'.data.layout = c.data.layout := by
  cases pass with
  | expires => rfl
  | syncs alive cycle =>
      obtain ⟨rest, -, -, rfl⟩ := eq_of_cycle? cycle
      exact layout_syncCycle _ _
  | waits => exact layout_feed _ false

end Controller

/-- Nothing from outside publishes. -/
theorem Simulation.Rig.published_act (rig : Rig) (action : Action) :
    (rig.act action).board.published = rig.board.published := by
  cases action with
  | step =>
      exact SimBoard.published_of_wiring
        ((SimBoard.wiring_pushEdge _).trans (SimBoard.wiring_advance _ _))
  | advance nanos => exact SimBoard.published_of_wiring (SimBoard.wiring_advance _ _)
  | setInbound f t value =>
      simp only [act]
      split <;> rfl
  | _ => rfl

theorem Simulation.Station.layout_moves (s : Station) (run : List Move) :
    (s.moves run).controller.data.layout = s.controller.data.layout := by
  induction run generalizing s with
  | nil => rfl
  | cons move rest ih =>
      rw [moves_cons, ih]
      cases move with
      | poll => exact s.controller.poll_pass.layout
      | act action => rfl

end FieldbusNode
