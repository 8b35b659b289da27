/-
What is left of a node without the inbound record.

`SimBoard.veil` is a board without its inbound record and, if that is to be hidden too,
without the current of its motor.  Nothing that a cycle does to a board looks at either, so
all of it commutes with the veil, or nearly so: a current that is commanded is hidden again.
The veil of a controller also hides what it has taken over of the inbound record, and the
phases of a cycle commute with that (`Controller.veil_readied`).

So two controllers under equal veils go through a cycle alike, but for the tick.  A tick
against two records that ask for the same is the same on a plant that takes them for the
same (`Machine.tick_congr`).  A board that hides its current does so up to the veil: it is
like one that applies some preset record, whatever it is handed (`Preset`).
-/
import FieldbusNode.Proofs.Inbound
import FieldbusNode.Proofs.Tick.Commands
namespace FieldbusNode

open Bench (Hook Recorded)
open Simulation (SimBoard Rig Action)

/-! ### Boards -/

namespace Simulation.SimBoard

/-- The board without its inbound record, and without its motor current if that is hidden. -/
def veil (hidden : Bool) (b : SimBoard) : SimBoard :=
  { b with
    rx := .zero
    motorCurrent := if hidden then 0 else b.motorCurrent }

variable (hidden : Bool) (b : SimBoard)

theorem veil_noteAll (events : List Event) :
    (Journal.noteAll events b).veil hidden = Journal.noteAll events (b.veil hidden) := by
  unfold Journal.noteAll
  induction events generalizing b with
  | nil => rfl
  | cons e rest ih => exact ih (Journal.note e b)

theorem veil_noteIf (condition : Bool) (e : Event) :
    (Journal.noteIf condition e b).veil hidden = Journal.noteIf condition e (b.veil hidden) := by
  cases condition <;> rfl

theorem veil_trapIf (condition : Bool) (t : Trap) :
    (Journal.trapIf condition t b).veil hidden = Journal.trapIf condition t (b.veil hidden) := by
  cases condition <;> rfl

theorem veil_latchWatchdog : b.latchWatchdog.veil hidden = (b.veil hidden).latchWatchdog :=
  apply_ite (veil hidden) _ _ _

theorem veil_advance (nanos : Nat) :
    (b.advance nanos).veil hidden = (b.veil hidden).advance nanos := by
  unfold advance
  dsimp only
  rw [veil_latchWatchdog, veil_trapIf]
  rfl

theorem veil_feed : b.feed.veil hidden = (b.veil hidden).feed := by
  unfold feed
  rw [← veil_latchWatchdog]
  rfl

theorem veil_pushEdge : b.pushEdge.veil hidden = (b.veil hidden).pushEdge :=
  apply_ite (veil hidden) _ _ _

theorem veil_setAmplifier (on : Bool) :
    (b.setAmplifier on).veil hidden = (b.veil hidden).setAmplifier on := by
  cases hidden <;> cases on <;> rfl

/-- A current that is commanded is seen if currents are. -/
theorem veil_setCurrent {hidden : Bool} {b b' : SimBoard} (same : b.veil hidden = b'.veil hidden)
    {i i' : Int32} (shown : hidden = false → i = i') :
    (Hardware.setCurrent i b).1 = (Hardware.setCurrent i' b').1 ∧
      (Hardware.setCurrent i b).2.veil hidden = (Hardware.setCurrent i' b').2.veil hidden := by
  have reject : b.amplifierReject = b'.amplifierReject := by
    have erased := congrArg amplifierReject same
    exact erased
  cases rejected : b'.amplifierReject with
  | true =>
      rw [setCurrent_of_rejecting i (reject.trans rejected), setCurrent_of_rejecting i' rejected]
      exact ⟨rfl, same⟩
  | false =>
      rw [setCurrent_of_accepting i (reject.trans rejected), setCurrent_of_accepting i' rejected]
      refine ⟨rfl, ?_⟩
      cases hidden with
      | true => exact same
      | false =>
          obtain rfl := shown rfl
          have carried := congrArg (fun k : SimBoard =>
            { k with motorCurrent := if k.amplifierEnabled then i else 0 }) same
          exact carried

end Simulation.SimBoard

/-! ### Devices -/

/-- Either the clamp is out of order for every current or for none. -/
theorem Actuator.Monitor.clampCurrent_cases (max : Int32) :
    (∃ t, ∀ current, clampCurrent max current = .error t) ∨
      ∀ current, ∃ clamped, clampCurrent max current = .ok clamped := by
  by_cases least : max = Int32.minValue
  · exact Or.inl ⟨.overflow, fun current => if_pos least⟩
  by_cases negative : max < 0
  · refine Or.inl ⟨.clampBounds, fun current => ?_⟩
    rw [clampCurrent, if_neg least, if_pos negative]
  refine Or.inr fun current => ?_
  rw [clampCurrent, if_neg least, if_neg negative]
  split
  · exact ⟨_, rfl⟩
  split <;> exact ⟨_, rfl⟩

/-- Commanding a current on boards under equal veils. -/
theorem Actuator.Monitor.veil_commandCurrent (m : Monitor) {hidden : Bool} {b b' : SimBoard}
    (same : b.veil hidden = b'.veil hidden) {i i' : Int32} (shown : hidden = false → i = i') :
    (m.commandCurrent i b).1 = (m.commandCurrent i' b').1 ∧
      (m.commandCurrent i b).2.1 = (m.commandCurrent i' b').2.1 ∧
      (m.commandCurrent i b).2.2.veil hidden = (m.commandCurrent i' b').2.2.veil hidden := by
  unfold commandCurrent
  split
  · exact ⟨rfl, rfl, same⟩
  -- Whether the clamp is in order does not depend on the current.
  rcases clampCurrent_cases m.limits.maxMotorCurrent with ⟨t, broken⟩ | clamped
  · simp only [broken]
    exact ⟨trivial, trivial, congrArg (Journal.trap t) same⟩
  · obtain ⟨v, clamp⟩ := clamped i
    obtain ⟨v', clamp'⟩ := clamped i'
    have agree : hidden = false → v = v' := by
      intro seen
      rw [shown seen, clamp'] at clamp
      exact (Except.ok.inj clamp).symm
    obtain ⟨answer, after⟩ := SimBoard.veil_setCurrent same agree
    simp only [clamp, clamp']
    generalize Hardware.setCurrent v b = p at answer after
    generalize Hardware.setCurrent v' b' = q at answer after
    obtain ⟨first, b⟩ := p
    obtain ⟨second, b'⟩ := q
    obtain rfl : first = second := answer
    cases first with
    | ok => exact ⟨rfl, rfl, after⟩
    | error e =>
        refine ⟨rfl, rfl, ?_⟩
        simp only [latch, SimBoard.veil_noteIf]
        exact congrArg _ after

theorem Actuator.Monitor.veil_haltStep (m : Monitor) {hidden : Bool} {b b' : SimBoard}
    (same : b.veil hidden = b'.veil hidden) :
    (m.haltStep b).1 = (m.haltStep b').1 ∧ (m.haltStep b).2.1 = (m.haltStep b').2.1 ∧
      (m.haltStep b).2.2.veil hidden = (m.haltStep b').2.2.veil hidden := by
  unfold haltStep
  split
  · exact ⟨rfl, rfl, same⟩
  split
  · split
    · exact ⟨rfl, rfl, congrArg (Journal.trap _) same⟩
    · exact veil_commandCurrent m same fun _ => rfl
  · exact veil_commandCurrent m same fun _ => rfl

namespace Device

variable (hidden : Bool) (d : Device) (b : SimBoard)

theorem veil_enable : d.enable (b.veil hidden) = ((d.enable b).1, (d.enable b).2.veil hidden) := by
  cases d with
  | actuator joint m => exact congrArg (Prod.mk _) (b.veil_setAmplifier hidden true).symm
  | boom | imu => rfl

theorem veil_disable :
    d.disable (b.veil hidden) = ((d.disable b).1, (d.disable b).2.veil hidden) := by
  cases d with
  | actuator joint m => exact congrArg (Prod.mk _) (b.veil_setAmplifier hidden false).symm
  | boom | imu => rfl

theorem veil_estop : d.estop (b.veil hidden) = ((d.estop b).1, (d.estop b).2.veil hidden) := by
  cases d with
  | actuator joint m => exact congrArg (Prod.mk _) (b.veil_setAmplifier hidden false).symm
  | boom | imu => rfl

end Device

/-! ### Plants -/

namespace Mounted

/-- One device on boards under equal veils. -/
structure Alike (hidden : Bool) (p q : Mounted SimBoard) : Prop where
  device : p.device = q.device
  board : p.board.veil hidden = q.board.veil hidden

variable {hidden : Bool} {p q : Mounted SimBoard}

/-- A call that commutes with the veil. -/
theorem Alike.call (h : p.Alike hidden q) {f : Device → SimBoard → Device × SimBoard}
    (veil : ∀ d b, f d (b.veil hidden) = ((f d b).1, (f d b).2.veil hidden)) :
    (ofPair (f p.device p.board)).Alike hidden (ofPair (f q.device q.board)) := by
  have same : f p.device (p.board.veil hidden) = f q.device (q.board.veil hidden) := by
    rw [h.device, h.board]
  rw [veil, veil] at same
  exact ⟨(Prod.mk.inj same).1, (Prod.mk.inj same).2⟩

theorem Alike.enable (h : p.Alike hidden q) :
    (Plant.enableOutputs p).Alike hidden (Plant.enableOutputs q) :=
  h.call (Device.veil_enable hidden)

theorem Alike.disable (h : p.Alike hidden q) :
    (Plant.disableOutputs p).Alike hidden (Plant.disableOutputs q) :=
  h.call (Device.veil_disable hidden)

theorem Alike.estop (h : p.Alike hidden q) : (Plant.estop p).Alike hidden (Plant.estop q) :=
  h.call (Device.veil_estop hidden)

theorem Alike.runHalt (h : p.Alike hidden q) :
    (Plant.runHalt p).1 = (Plant.runHalt q).1 ∧
      (Plant.runHalt p).2.Alike hidden (Plant.runHalt q).2 := by
  obtain ⟨device, b⟩ := p
  obtain ⟨other, b'⟩ := q
  obtain rfl : device = other := h.device
  cases device with
  | actuator joint m =>
      obtain ⟨answer, monitor, board⟩ := m.veil_haltStep h.board
      exact ⟨answer, congrArg (Device.actuator joint) monitor, board⟩
  | boom | imu => exact ⟨rfl, h⟩

/-- Two records are applied alike if currents are hidden, or if both ask for the same current. -/
theorem Alike.update (h : p.Alike hidden q) {data data' : ProcessData}
    (shown : hidden = false → data.currentCommand = data'.currentCommand) :
    (Plant.updateOutputs data p).Alike hidden (Plant.updateOutputs data' q) := by
  obtain ⟨device, b⟩ := p
  obtain ⟨other, b'⟩ := q
  obtain rfl : device = other := h.device
  cases device with
  | actuator joint m =>
      obtain ⟨-, monitor, board⟩ := m.veil_commandCurrent h.board shown
      exact ⟨congrArg (Device.actuator joint) monitor, board⟩
  | boom | imu => exact h

theorem Alike.lineAsserted (h : p.Alike hidden q) :
    Plant.lineAsserted p = Plant.lineAsserted q := by
  have erased := congrArg (fun b : SimBoard => b.externalStop || b.selfAsserted) h.board
  exact erased

theorem alike_simulates (hidden : Bool) : Plant.Simulates (Mounted.Alike hidden) where
  note e _ _ h := ⟨h.device, congrArg (Journal.note e) h.board⟩
  enableOutputs h := h.enable
  disableOutputs h := h.disable
  updateOutputs _ _ _ h := h.update fun _ => rfl
  estop h := h.estop
  resetError h := ⟨congrArg Device.resetError h.device, h.board⟩
  runHalt h := h.runHalt
  assertLine h := ⟨h.device, congrArg (fun b : SimBoard => { b with selfAsserted := true }) h.board⟩
  releaseLine h :=
    ⟨h.device, congrArg (fun b : SimBoard => { b with selfAsserted := false }) h.board⟩
  faulty h := congrArg Device.faulty h.device
  wantsHalt h := congrArg Device.wantsHalt h.device
  lineAsserted h := h.lineAsserted

end Mounted

/-- A plant that applies a preset record, whatever it is handed. -/
structure Preset (σ : Type) (record : ProcessData) where
  plant : σ

namespace Preset

variable {σ : Type} [Plant σ] {record : ProcessData}

instance : Plant (Preset σ record) where
  note e s := ⟨Journal.note e s.plant⟩
  trap t s := ⟨Journal.trap t s.plant⟩
  enableOutputs s := ⟨Plant.enableOutputs s.plant⟩
  disableOutputs s := ⟨Plant.disableOutputs s.plant⟩
  updateOutputs _ s := ⟨Plant.updateOutputs record s.plant⟩
  estop s := ⟨Plant.estop s.plant⟩
  resetError s := ⟨Plant.resetError s.plant⟩
  runHalt s := ((Plant.runHalt s.plant).1, ⟨(Plant.runHalt s.plant).2⟩)
  faulty s := Plant.faulty s.plant
  wantsHalt s := Plant.wantsHalt s.plant
  lineAsserted s := Plant.lineAsserted s.plant
  assertLine s := ⟨Plant.assertLine s.plant⟩
  releaseLine s := ⟨Plant.releaseLine s.plant⟩

/-- As long as currents are hidden it does not matter which record is applied. -/
theorem simulates (record : ProcessData) : Plant.Simulates
    fun (p : Mounted SimBoard) (q : Preset (Mounted SimBoard) record) => p.Alike true q.plant where
  note e _ _ h := (Mounted.alike_simulates true).note e h
  enableOutputs h := h.enable
  disableOutputs h := h.disable
  updateOutputs _ _ _ h := h.update nofun
  estop h := h.estop
  resetError := (Mounted.alike_simulates true).resetError
  runHalt h := h.runHalt
  assertLine := (Mounted.alike_simulates true).assertLine
  releaseLine := (Mounted.alike_simulates true).releaseLine
  faulty := (Mounted.alike_simulates true).faulty
  wantsHalt := (Mounted.alike_simulates true).wantsHalt
  lineAsserted h := h.lineAsserted

end Preset

/-- Two recorded plants whose plants are related, and on which the same hooks were called. -/
structure Bench.Recorded.Related {σ τ : Type} (R : σ → τ → Prop) (r : Recorded σ)
    (t : Recorded τ) : Prop where
  plant : R r.plant t.plant
  hooks : r.hooks = t.hooks

/-- Recording keeps plants related. -/
theorem Plant.Simulates.recorded {σ τ : Type} [Plant σ] [Plant τ] {R : σ → τ → Prop}
    (sim : Plant.Simulates R) : Plant.Simulates (Recorded.Related R) where
  note e _ _ h := ⟨sim.note e h.plant, h.hooks⟩
  enableOutputs h := ⟨sim.enableOutputs h.plant, congrArg _ h.hooks⟩
  disableOutputs h := ⟨sim.disableOutputs h.plant, congrArg _ h.hooks⟩
  updateOutputs data _ _ h := ⟨sim.updateOutputs data h.plant, congrArg _ h.hooks⟩
  estop h := ⟨sim.estop h.plant, congrArg _ h.hooks⟩
  resetError h := ⟨sim.resetError h.plant, congrArg _ h.hooks⟩
  runHalt h := ⟨(sim.runHalt h.plant).1, (sim.runHalt h.plant).2, congrArg _ h.hooks⟩
  assertLine h := ⟨sim.assertLine h.plant, congrArg _ h.hooks⟩
  releaseLine h := ⟨sim.releaseLine h.plant, congrArg _ h.hooks⟩
  faulty h := sim.faulty h.plant
  wantsHalt h := sim.wantsHalt h.plant
  lineAsserted h := sim.lineAsserted h.plant

/-! ### The tick -/

/-- A device looks at nothing of a record but the current. -/
theorem Mounted.updateOutputs_congr {data data' : ProcessData}
    (same : data.currentCommand = data'.currentCommand) (p : Mounted SimBoard) :
    Plant.updateOutputs data p = Plant.updateOutputs data' p := by
  obtain ⟨device, b⟩ := p
  cases device with
  | actuator joint m =>
      show ofPair (Device.updateOutputs _ data b) = ofPair (Device.updateOutputs _ data' b)
      unfold Device.updateOutputs
      rw [same]
  | boom | imu => rfl

/-- **A tick on plants that are alike, against records that ask for the same.** -/
theorem Machine.tick_alike (m : Machine) {hidden : Bool} {p q : Mounted SimBoard}
    (same : p.Alike hidden q) {data data' : ProcessData} (orders : data.SameOrders data')
    (shown : hidden = false → data.currentCommand = data'.currentCommand) :
    Machine.Alike (Recorded.Related (Mounted.Alike hidden))
      (m.tick data (⟨p, []⟩ : Recorded (Mounted SimBoard)))
      (m.tick data' (⟨q, []⟩ : Recorded (Mounted SimBoard))) := by
  cases hidden with
  | false =>
      have applied (r : Recorded (Mounted SimBoard)) :
          Plant.updateOutputs data r = Plant.updateOutputs data' r :=
        congrArg (fun plant => (⟨plant, .updateOutputs :: r.hooks⟩ : Recorded (Mounted SimBoard)))
          (Mounted.updateOutputs_congr (shown rfl) r.plant)
      rw [tick_congr m _ orders applied]
      exact tick_simulates (Mounted.alike_simulates false).recorded m data' ⟨same, rfl⟩
  | true =>
      let preset : Recorded (Preset (Mounted SimBoard) data) := ⟨⟨q⟩, []⟩
      have sim := (Preset.simulates data).recorded
      obtain ⟨left, related⟩ := tick_simulates sim m data (s := ⟨p, []⟩) (t := preset) ⟨same, rfl⟩
      obtain ⟨right, related'⟩ := tick_simulates sim m data' (s := ⟨q, []⟩) (t := preset)
        ⟨⟨rfl, rfl⟩, rfl⟩
      have heard : m.tick data preset = m.tick data' preset :=
        tick_congr m preset orders fun _ => rfl
      rw [heard] at left related
      refine ⟨left.trans right.symm, ⟨?_, ?_⟩, related.hooks.trans related'.hooks.symm⟩
      · exact related.plant.device.trans related'.plant.device.symm
      · exact related.plant.board.trans related'.plant.board.symm

/-! ### Sampling -/

namespace ProcessData

/-- Process data that has not taken over anything. -/
def uninformed (p : ProcessData) : ProcessData :=
  { p with inbound := .zero }

theorem uninformed_writeOutbound? (p : ProcessData) (f : Field) (t : ValueType) (value : Int) :
    p.uninformed.writeOutbound? f t value = (p.writeOutbound? f t value).map uninformed := by
  unfold writeOutbound?
  split
  · rw [if_pos ‹_›]
    rfl
  · rw [if_neg ‹_›]
    show (p.outbound.write? f t value).bind _ = ((p.outbound.write? f t value).bind _).map _
    cases p.outbound.write? f t value <;> rfl

theorem uninformed_writeAll? (p : ProcessData) (items : List Item) :
    p.uninformed.writeAll? items = (p.writeAll? items).map uninformed := by
  induction items generalizing p with
  | nil => rfl
  | cons item rest ih =>
      rw [writeAll?_cons, writeAll?_cons, uninformed_writeOutbound?]
      cases p.writeOutbound? item.field item.type item.value with
      | error t => rfl
      | ok q => exact ih q

/-- A report does not look at the inbound record, and leaves it alone. -/
theorem uninformed_report (p : ProcessData) (items : List Item) {σ : Type} [Journal σ]
    {f : σ → σ} (trap : ∀ (t : Trap) (s : σ), Journal.trap t (f s) = f (Journal.trap t s)) (s : σ) :
    p.uninformed.report items (f s) =
      ((p.report items s).1.uninformed, f (p.report items s).2) := by
  unfold report
  rw [uninformed_writeAll?]
  cases p.writeAll? items with
  | error t => exact congrArg (Prod.mk p.uninformed) (trap t s)
  | ok q => rfl

end ProcessData

/-- Sampling looks neither at the inbound record nor at the current. -/
theorem Device.veil_updateInputs (d : Device) (hidden : Bool) (sinceEdge : Nat)
    (data : ProcessData) (b : SimBoard) :
    d.updateInputs sinceEdge data.uninformed (b.veil hidden) =
      ((d.updateInputs sinceEdge data b).1, (d.updateInputs sinceEdge data b).2.1.uninformed,
        (d.updateInputs sinceEdge data b).2.2.veil hidden) := by
  have told (items : List ProcessData.Item) (events : List Event) (b : SimBoard) :
      data.uninformed.report items (Journal.noteAll events (b.veil hidden)) =
        ((data.report items (Journal.noteAll events b)).1.uninformed,
          (data.report items (Journal.noteAll events b)).2.veil hidden) := by
    rw [← SimBoard.veil_noteAll]
    exact data.uninformed_report items (fun _ _ => rfl) _
  cases d with
  | actuator joint m =>
      rw [updateInputs_actuator, updateInputs_actuator]
      exact congrArg (Prod.mk _) (told _ _ b)
  | boom unit =>
      rw [updateInputs_boom, updateInputs_boom]
      exact congrArg (Prod.mk _) (told _ _ b)
  | imu unit =>
      rw [updateInputs_imu, updateInputs_imu]
      have told := told ((unit.observe b.imuReading).1.telemetry (unit.observe b.imuReading).2.1)
        (unit.observe b.imuReading).2.2
        (Journal.trapIf (unit.observe b.imuReading).1.gapsOverflow .overflow b.fetched)
      rw [SimBoard.veil_trapIf] at told
      exact congrArg (Prod.mk _) told

/-! ### Controllers -/

namespace Controller

/-- The controller without the inbound record, on its board and as it was taken over. -/
def veil (hidden : Bool) (c : Controller SimBoard) : Controller SimBoard :=
  { c with
    board := c.board.veil hidden
    data := c.data.uninformed }

section Phases

variable (hidden : Bool) (c : Controller SimBoard)

theorem veil_accountEdge (edge : Edge) :
    (c.accountEdge edge).veil hidden = (c.veil hidden).accountEdge edge := by
  have board : (c.accountEdge edge).board.veil hidden =
      ((c.veil hidden).accountEdge edge).board := by
    unfold accountEdge
    dsimp only
    rw [SimBoard.veil_noteIf, SimBoard.veil_trapIf]
    rfl
  exact congrArg (fun b => { (c.accountEdge edge).veil hidden with board := b }) board

theorem veil_sampleInputs (sinceEdge : Nat) :
    (c.sampleInputs sinceEdge).veil hidden = (c.veil hidden).sampleInputs sinceEdge := by
  have sampled := c.device.veil_updateInputs hidden sinceEdge c.data c.board
  exact congrArg (fun p : Device × ProcessData × SimBoard =>
    { c.veil hidden with device := p.1, data := p.2.1, board := p.2.2 }) sampled.symm

/-- The exchange takes over the inbound record, so its veil has to be drawn again. -/
theorem veil_exchange : c.exchange.veil hidden = (c.veil hidden).exchange.veil hidden := by
  cases hidden <;> rfl

theorem veil_afterExchange : c.afterExchange.veil hidden = (c.veil hidden).afterExchange := by
  obtain ⟨board, device, _, _, _, _, _, _, _, _⟩ := c
  cases device <;> rfl

theorem veil_feed (edgeSeen : Bool) :
    (c.feed edgeSeen).veil hidden = (c.veil hidden).feed edgeSeen := by
  unfold feed
  rw [apply_ite (veil hidden)]
  have fed := congrArg (fun b => { c.veil hidden with board := b }) (c.board.veil_feed hidden)
  exact congrArg (ite _ · _) fed

theorem veil_sampleStopLine :
    c.sampleStopLine.veil hidden = (c.veil hidden).sampleStopLine := by
  have noted := c.board.veil_noteAll hidden
    (c.machine.supervisor.sampleStopLineEvents (Board.lineAsserted c.board))
  exact congrArg (fun b => { c.sampleStopLine.veil hidden with board := b }) noted

/-- Up to its tick a cycle looks neither at the inbound record nor at the current. -/
theorem veil_readied (edge : Edge) :
    (c.readied edge).veil hidden = ((c.veil hidden).readied edge).veil hidden := by
  have sampled : ((c.accountEdge edge).sampleInputs
      (Board.sinceEdge (c.accountEdge edge).board)).veil hidden =
      ((c.veil hidden).accountEdge edge).sampleInputs
        (Board.sinceEdge ((c.veil hidden).accountEdge edge).board) := by
    rw [veil_sampleInputs, veil_accountEdge, ← veil_accountEdge hidden]
    rfl
  have exchanged := veil_exchange hidden ((c.accountEdge edge).sampleInputs
    (Board.sinceEdge (c.accountEdge edge).board))
  rw [sampled] at exchanged
  unfold readied
  dsimp only
  rw [veil_sampleStopLine, veil_feed, veil_afterExchange, exchanged, veil_sampleStopLine,
    veil_feed, veil_afterExchange]

theorem veil_recordCycle (edge : Edge) (sinceEdge : Nat) :
    (c.recordCycle edge sinceEdge).veil hidden = (c.veil hidden).recordCycle edge sinceEdge := by
  have board : (c.recordCycle edge sinceEdge).board.veil hidden =
      ((c.veil hidden).recordCycle edge sinceEdge).board := by
    show Journal.note _ ((Journal.noteIf _ _ (Journal.trapIf _ _ c.board)).veil hidden) = _
    rw [SimBoard.veil_noteIf, SimBoard.veil_trapIf]
    rfl
  exact congrArg (fun b => { (c.recordCycle edge sinceEdge).veil hidden with board := b }) board

theorem veil_idlePass : c.idlePass.veil hidden = (c.veil hidden).idlePass := by
  unfold idlePass
  dsimp only
  rw [veil_feed]
  rfl

theorem veil_expire : c.expire.2.veil hidden = (c.veil hidden).expire.2 := by
  have stopped := c.device.veil_estop hidden c.board
  exact congrArg (fun p : Device × SimBoard =>
    ({ c.veil hidden with device := p.1, board := Board.assertLine p.2 } : Controller SimBoard).note
      (.watchdogExpired c.machine.state c.statistics.cycleCount)) stopped.symm

end Phases

/-! ### A pass -/

variable {hidden : Bool} {c c' : Controller SimBoard}

theorem machine_of_veil (same : c.veil hidden = c'.veil hidden) : c.machine = c'.machine := by
  have erased := congrArg machine same
  exact erased

theorem mounted_of_veil (same : c.veil hidden = c'.veil hidden) :
    c.mounted.Alike hidden c'.mounted := by
  have device := congrArg device same
  have board := congrArg board same
  exact ⟨device, board⟩

theorem readied_alike (same : c.veil hidden = c'.veil hidden) (edge : Edge) :
    (c.readied edge).veil hidden = (c'.readied edge).veil hidden := by
  rw [veil_readied, same, ← veil_readied]

/-- The ticks of two controllers end alike, and call the same hooks. -/
def TicksAlike (hidden : Bool) (c c' : Controller SimBoard) : Prop :=
  Machine.Alike (Recorded.Related (Mounted.Alike hidden))
    (c.machine.tick c.data (⟨c.mounted, []⟩ : Recorded (Mounted SimBoard)))
    (c'.machine.tick c'.data (⟨c'.mounted, []⟩ : Recorded (Mounted SimBoard)))

theorem ticksAlike_of_orders (same : c.veil hidden = c'.veil hidden)
    (orders : c.data.SameOrders c'.data)
    (shown : hidden = false → c.data.currentCommand = c'.data.currentCommand) :
    c.TicksAlike hidden c' := by
  unfold TicksAlike
  rw [← machine_of_veil same]
  exact c.machine.tick_alike (mounted_of_veil same) orders shown

/-- In `halt` the records need not have anything in common. -/
theorem ticksAlike_of_halt (same : c.veil hidden = c'.veil hidden)
    (here : c.machine.state = .halt) : c.TicksAlike hidden c' := by
  unfold TicksAlike
  rw [← machine_of_veil same, c.machine.tick_of_halt c.data c'.data _ here]
  exact Machine.tick_simulates (Mounted.alike_simulates hidden).recorded _ _
    ⟨mounted_of_veil same, rfl⟩

theorem tick_alike (same : c.veil hidden = c'.veil hidden) (ticks : c.TicksAlike hidden c') :
    c.tick.veil hidden = c'.tick.veil hidden ∧ c.tickHooks = c'.tickHooks := by
  obtain ⟨reached, plants, hooks⟩ := ticks
  -- Recording the hooks has not changed anything else.
  obtain ⟨same₁, plant₁⟩ := c.machine.tick_recorded c.data ⟨c.mounted, []⟩
  obtain ⟨same₂, plant₂⟩ := c'.machine.tick_recorded c'.data ⟨c'.mounted, []⟩
  rw [same₁, same₂] at reached
  rw [plant₁, plant₂] at plants
  refine ⟨?_, congrArg List.reverse hooks⟩
  have left : c.tick.veil hidden = { c.veil hidden with
      machine := (c.machine.tick c.data c.mounted).1
      device := (c.machine.tick c.data c.mounted).2.device
      board := (c.machine.tick c.data c.mounted).2.board.veil hidden } := rfl
  have right : c'.tick.veil hidden = { c'.veil hidden with
      machine := (c'.machine.tick c'.data c'.mounted).1
      device := (c'.machine.tick c'.data c'.mounted).2.device
      board := (c'.machine.tick c'.data c'.mounted).2.board.veil hidden } := rfl
  rw [left, right, reached, plants.device, plants.board, same]

/-- **A cycle for one edge on controllers under equal veils, if their ticks are alike.** -/
theorem syncCycle_alike (same : c.veil hidden = c'.veil hidden) (edge : Edge)
    (ticks : (c.readied edge).TicksAlike hidden (c'.readied edge)) :
    (c.syncCycle edge).veil hidden = (c'.syncCycle edge).veil hidden ∧
      (c.readied edge).tickHooks = (c'.readied edge).tickHooks := by
  obtain ⟨ticked, hooks⟩ := tick_alike (readied_alike same edge) ticks
  have since : Board.sinceEdge (c.accountEdge edge).board =
      Board.sinceEdge (c'.accountEdge edge).board := by
    have accounted : (c.accountEdge edge).veil hidden = (c'.accountEdge edge).veil hidden := by
      rw [veil_accountEdge, same, ← veil_accountEdge]
    have erased := congrArg (fun c : Controller SimBoard => Board.sinceEdge c.board) accounted
    exact erased
  refine ⟨?_, hooks⟩
  rw [syncCycle_eq, syncCycle_eq, veil_recordCycle, veil_recordCycle, ticked, since]

end Controller
end FieldbusNode
