/-
What the master reads is what the device has sampled.

A leg, a hip and a boom fill every field of their telemetry from an input of its own, a `Probe`.
A cycle reads all of them and offers each field what its probe has read.  A joint writes zero for
an input that could not be read, and a boom leaves the field as it was (`Kind.reported`).  The
fields share no byte, so what a field gets is up to its own probe (`Kind.getNat_offers`).

Along a run a field therefore shows the last number that the readings of its probe had reported
(`Kind.shown`), and nothing else of the run has a part in it.
-/
import FieldbusNode.Proofs.Joints
import Mathlib.Data.List.Pairwise
namespace FieldbusNode

open Simulation (SimBoard Station Move)

/-! ### Probes -/

/-- An input that a cycle samples into a field of the telemetry. -/
inductive Probe
  | limitSwitches
  | encoder (channel : EncoderChannel)
  | analog (channel : AnalogChannel)
  /-- The time that has passed since the newest edge. -/
  | timestep
  deriving DecidableEq

namespace Probe

/-- The type of the field that takes the readings. -/
def type : Probe → ValueType
  | .limitSwitches => .u8
  | .encoder _ => .u32
  | .analog _ | .timestep => .u16

/-- What is read on a board, `none` if the read fails. -/
def read (b : SimBoard) : Probe → Option Nat
  | .limitSwitches => some b.limitSwitches.toNat
  | .encoder channel => (Actuator.value? (b.readEncoder channel)).map UInt32.toNat
  | .analog channel => (Actuator.value? (b.readAnalog channel)).map UInt16.toNat
  | .timestep => some (timestepOfNanos (Board.sinceEdge b)).toNat

theorem signed_type (probe : Probe) : probe.type.signed = false := by
  cases probe <;> rfl

/-- A reading has room in its field. -/
theorem read_lt {probe : Probe} {b : SimBoard} {n : Nat} (found : probe.read b = some n) :
    n < probe.type.modulus := by
  cases probe with
  | limitSwitches =>
      obtain rfl := Option.some.inj found
      exact b.limitSwitches.toNat_lt
  | encoder channel =>
      obtain ⟨counts, -, rfl⟩ := Option.map_eq_some_iff.mp found
      exact counts.toNat_lt
  | analog channel =>
      obtain ⟨counts, -, rfl⟩ := Option.map_eq_some_iff.mp found
      exact counts.toNat_lt
  | timestep =>
      obtain rfl := Option.some.inj found
      exact UInt16.toNat_lt _

/-- What is read depends on the wiring and on the clock. -/
theorem read_congr {b b' : SimBoard} (wiring : b'.wiring = b.wiring)
    (clockwork : b'.clockwork = b.clockwork) (probe : Probe) : probe.read b' = probe.read b := by
  cases probe with
  | limitSwitches =>
      have same := congrArg (Probe.limitSwitches.read ·) wiring
      exact same
  | encoder channel =>
      have same := congrArg ((Probe.encoder channel).read ·) wiring
      exact same
  | analog channel =>
      have same := congrArg ((Probe.analog channel).read ·) wiring
      cases channel <;> exact same
  | timestep =>
      have same := congrArg (Probe.timestep.read ·) clockwork
      exact same

end Probe

/-- The fields of an actuator, each behind its probe. -/
def ActuatorFields.probes (f : ActuatorFields) : List (Probe × Field) :=
  (.limitSwitches, f.limitSwitches) :: f.motorEncoder.toList.map (.encoder .motor, ·) ++
    [(.encoder .output, f.outputEncoder), (.timestep, f.timestep),
      (.analog (.thermistor 0), f.thermistors.first),
      (.analog (.thermistor 1), f.thermistors.second),
      (.analog (.thermistor 2), f.thermistors.third),
      (.analog .motorVoltage, f.motorVoltage), (.analog .logicVoltage, f.logicVoltage)]

/-- The fields of a boom, each behind its probe. -/
def BoomFields.probes (f : BoomFields) : List (Probe × Field) :=
  [(.encoder .boomPitch, f.pitch), (.encoder .boomPan, f.pan), (.encoder .boomTilt, f.tilt),
    (.timestep, f.timestep), (.analog .logicVoltage, f.logicVoltage)]

namespace Kind

/-- The telemetry fields of a kind, each behind its probe.  An inertial sensor has no probes: its
telemetry is a frame. -/
def probes : Kind → List (Probe × Field)
  | .leg => (ActuatorFields.ofJoint .leg).probes
  | .hip => (ActuatorFields.ofJoint .hip).probes
  | .boom => BoomFields.standard.probes
  | .imu => []

/-- **No field is left without a probe.** -/
theorem fields_probes {kind : Kind} (other : kind ≠ .imu) :
    kind.probes.map Prod.snd = kind.fields := by
  cases kind with
  | imu => exact absurd rfl other
  | leg | hip | boom => rfl

theorem width_of_mem_probes {kind : Kind} {probe : Probe} {f : Field}
    (mem : (probe, f) ∈ kind.probes) : probe.type.width = f.width := by
  have all : ∀ v ∈ kind.probes, v.1.type.width = v.2.width := by cases kind <;> decide
  exact all _ mem

/-- What a kind reports for a reading.  A boom reports nothing for one that failed. -/
def reported : Kind → Option Nat → Option Nat
  | .boom, reading => reading
  | _, reading => some (reading.getD 0)

/-- What a field shows behind these readings of its probe. -/
def shown (kind : Kind) (readings : List (Option Nat)) : Nat :=
  (readings.filterMap kind.reported).getLast?.getD 0

theorem shown_concat (kind : Kind) (earlier : List (Option Nat)) (reading : Option Nat) :
    kind.shown (earlier ++ [reading]) = (kind.reported reading).getD (kind.shown earlier) := by
  unfold shown
  rw [List.filterMap_append, List.getLast?_append]
  cases reporting : kind.reported reading <;> simp [reporting]

/-- What a cycle on a board offers to each field. -/
def offers (kind : Kind) (b : SimBoard) : List (Field × Option Nat) :=
  kind.probes.map fun v => (v.2, kind.reported (v.1.read b))

end Kind

/-! ### Offers -/

namespace ProcessData

variable (p : ProcessData) {offers : List (Field × Option Nat)}

/-- What is really written of what is offered. -/
def taken (offers : List (Field × Option Nat)) : List (Field × Nat) :=
  offers.filterMap fun v => v.2.map (v.1, ·)

/-- Writes what is offered, field by field. -/
def offerAll (offers : List (Field × Option Nat)) : ProcessData :=
  p.fill (taken offers)

theorem mem_taken {f : Field} {n : Nat} : (f, n) ∈ taken offers ↔ (f, some n) ∈ offers := by
  simp only [taken, List.mem_filterMap, Option.map_eq_some_iff, Prod.mk.injEq]
  constructor
  · rintro ⟨⟨g, offered⟩, listed, n, rfl, rfl, rfl⟩
    exact listed
  · intro listed
    exact ⟨_, listed, n, rfl, rfl, rfl⟩

theorem apart_taken (apart : offers.Pairwise fun v w => v.1.Apart w.1) :
    ((taken offers).map Prod.fst).Pairwise Field.Apart := by
  rw [List.pairwise_map, taken, List.pairwise_filterMap]
  refine apart.imp ?_
  intro v w apart v' written w' written'
  obtain ⟨n, -, rfl⟩ := Option.map_eq_some_iff.mp written
  obtain ⟨n', -, rfl⟩ := Option.map_eq_some_iff.mp written'
  exact apart

/-- **A field shows what it was offered, or what it showed before.** -/
theorem getNat_offerAll (apart : offers.Pairwise fun v w => v.1.Apart w.1)
    (fits : ∀ v ∈ offers, v.1.stop ≤ recordCapacity) {v : Field × Option Nat} (mem : v ∈ offers) :
    (p.offerAll offers).outbound.getNat v.1 =
      (v.2.map (· % Bytes.modulus v.1.width)).getD (p.outbound.getNat v.1) := by
  obtain ⟨f, offered⟩ := v
  cases offered with
  | some n =>
      refine p.outbound.getNat_fill (apart_taken apart) ?_ (mem_taken.mpr mem)
      intro g named
      obtain ⟨w, written, rfl⟩ := List.mem_map.mp named
      exact fits _ (mem_taken.mp written)
  | none =>
      refine p.outbound.getNat_fill_of_apart ?_
      intro w written
      have symmetric : Std.Symm fun v w : Field × Option Nat => v.1.Apart w.1 :=
        ⟨fun _ _ h => h.symm⟩
      exact apart.forall (mem_taken.mp written) mem (by simp)

end ProcessData

namespace Kind

variable {kind : Kind} {probe : Probe} {f : Field}

theorem fields_offers (other : kind ≠ .imu) (b : SimBoard) :
    (kind.offers b).map Prod.fst = kind.fields := by
  rw [offers, List.map_map]
  exact fields_probes other

theorem mem_fields_of_probes (mem : (probe, f) ∈ kind.probes) : kind ≠ .imu ∧ f ∈ kind.fields := by
  have other : kind ≠ .imu := by
    rintro rfl
    nomatch mem
  refine ⟨other, ?_⟩
  rw [← fields_probes other]
  exact List.mem_map_of_mem mem

theorem reported_lt (mem : (probe, f) ∈ kind.probes) {b : SimBoard} {n : Nat}
    (reports : kind.reported (probe.read b) = some n) : n < Bytes.modulus f.width := by
  have room : probe.type.modulus = Bytes.modulus f.width := by
    rw [ValueType.modulus, width_of_mem_probes mem]
  rw [← room]
  have joint (found : some ((probe.read b).getD 0) = some n) : n < probe.type.modulus := by
    obtain rfl := Option.some.inj found
    cases reading : probe.read b with
    | some n => exact Probe.read_lt reading
    | none => exact Nat.pos_of_ne_zero (by cases probe <;> nofun)
  cases kind with
  | boom => exact Probe.read_lt reports
  | leg | hip => exact joint reports
  | imu => exact joint reports

/-- **What a field gets is up to its own probe.** -/
theorem getNat_offers (mem : (probe, f) ∈ kind.probes) (data : ProcessData) (b : SimBoard) :
    (data.offerAll (kind.offers b)).outbound.getNat f =
      (kind.reported (probe.read b)).getD (data.outbound.getNat f) := by
  obtain ⟨other, own⟩ := mem_fields_of_probes mem
  have offered : (f, kind.reported (probe.read b)) ∈ kind.offers b :=
    List.mem_map_of_mem (f := fun v => (v.2, kind.reported (v.1.read b))) mem
  have apart : (kind.offers b).Pairwise fun v w => v.1.Apart w.1 := by
    rw [← List.pairwise_map (f := Prod.fst) (R := Field.Apart), fields_offers other]
    exact kind.fields_apart
  have fits : ∀ v ∈ kind.offers b, v.1.stop ≤ recordCapacity := by
    intro v listed
    have own : v.1 ∈ kind.fields := by
      rw [← fields_offers other b]
      exact List.mem_map_of_mem listed
    exact Nat.le_trans (kind.fields_fit own).2 kind.layout_valid.2.2.2
  rw [data.getNat_offerAll apart fits offered]
  cases reports : kind.reported (probe.read b) with
  | none => rfl
  | some n => exact Nat.mod_eq_of_lt (reported_lt mem reports)

end Kind

/-! ### What a cycle offers -/

theorem Actuator.Sample.toNat_getD (position : Option UInt32) :
    (position.getD 0).toNat = (position.map UInt32.toNat).getD 0 := by
  cases position <;> rfl

theorem Device.written_sample_offers (joint : Joint) (b : SimBoard) :
    (sampleTelemetry joint (b.actuatorReadings joint.motorEncoder).sample
      (timestepOfNanos (Board.sinceEdge b))).map ProcessData.Item.written =
        ProcessData.taken (joint.kind.offers b) := by
  rw [written_sampleTelemetry]
  unfold Actuator.Sample.entries Actuator.Sample.named Actuator.Sample.shown
  rw [Actuator.Sample.toNat_getD, Actuator.Sample.toNat_getD]
  cases joint <;> rfl

theorem Boom.written_offers (b : SimBoard) :
    (telemetry b.boomReadings (timestepOfNanos (Board.sinceEdge b))).map ProcessData.Item.written =
      ProcessData.taken (Kind.boom.offers b) := by
  have offers : Kind.boom.offers b =
      [(BoomFields.standard.pitch, (Actuator.value? (b.readEncoder .boomPitch)).map UInt32.toNat),
        (BoomFields.standard.pan, (Actuator.value? (b.readEncoder .boomPan)).map UInt32.toNat),
        (BoomFields.standard.tilt, (Actuator.value? (b.readEncoder .boomTilt)).map UInt32.toNat),
        (BoomFields.standard.timestep, some (timestepOfNanos (Board.sinceEdge b)).toNat),
        (BoomFields.standard.logicVoltage, some b.logicVoltage.toNat)] := rfl
  have readable {α : Type} (f : Field) (t : ValueType) (number : α → Nat)
      (small : ∀ a, number a < t.modulus) (reading : Option α) :
      (reading.toList.map fun a => (⟨f, t, number a⟩ : ProcessData.Item)).map
        ProcessData.Item.written = (reading.map number).toList.map (f, ·) := by
    cases reading with
    | none => rfl
    | some a => exact congrArg (· :: []) (ProcessData.Item.written_of_lt (small a))
  have word (f : Field) := readable f .u32 UInt32.toNat UInt32.toNat_lt
  have half (f : Field) := readable f .u16 UInt16.toNat UInt16.toNat_lt
  have time : ProcessData.Item.written ⟨BoomFields.standard.timestep, .u16,
      (timestepOfNanos (Board.sinceEdge b)).toNat⟩ = _ :=
    ProcessData.Item.written_of_lt (UInt16.toNat_lt _)
  rw [offers]
  unfold telemetry SimBoard.boomReadings
  dsimp only
  simp only [List.map_append, List.map_cons, word, half, time]
  -- Each encoder is read or not, and writes its field or leaves it.
  generalize b.readEncoder .boomPitch = pitch, b.readEncoder .boomPan = pan,
    b.readEncoder .boomTilt = tilt
  cases pitch <;> cases pan <;> cases tilt <;> rfl

namespace Device

variable {limits : Limits} {kind : Kind} {d : Device}

/-- The device is of a kind and was made from these limits. -/
structure Made (limits : Limits) (kind : Kind) (d : Device) : Prop where
  kind : d.kind = kind
  follows : d.Follows limits

theorem Made.retains {d' : Device} (made : d.Made limits kind) (retains : d.Retains d') :
    d'.Made limits kind :=
  ⟨retains.kind.trans made.kind, retains.follows limits made.follows⟩

theorem Made.driven {joint : Joint} {m m' : Actuator.Monitor} {b b' : SimBoard}
    (made : (Device.actuator joint m).Made limits kind) (driven : m.Driven b m' b') :
    (Device.actuator joint m').Made limits kind := by
  cases driven <;> exact ⟨made.kind, made.follows⟩

/-- **What a cycle writes is what its probes have read.** -/
theorem Made.updateInputs (made : d.Made limits kind) (other : kind ≠ .imu) {data : ProcessData}
    (layout : data.layout = kind.layout) (b : SimBoard) :
    (d.updateInputs (Board.sinceEdge b) data b).2.1 = data.offerAll (kind.offers b) := by
  obtain ⟨rfl, follows⟩ := made
  rw [data_updateInputs layout]
  cases d with
  | actuator joint m =>
      have fitted : m.motorEncoder = joint.motorEncoder := follows.2.1
      rw [reports, fitted, written_sample_offers]
      rfl
  | boom unit =>
      rw [reports, Boom.written_offers]
      rfl
  | imu unit => exact absurd rfl other

end Device

/-- No hook changes the kind of a device or its limits. -/
theorem Mounted.made_keeps (limits : Limits) (kind : Kind) :
    Plant.Keeps fun p : Mounted SimBoard => p.device.Made limits kind where
  note _ _ h := h
  enableOutputs := by
    intro ⟨device, b⟩ h
    cases device <;> exact ⟨h.kind, h.follows⟩
  disableOutputs := by
    intro ⟨device, b⟩ h
    cases device <;> exact ⟨h.kind, h.follows⟩
  updateOutputs := by
    intro data ⟨device, b⟩ h
    cases device with
    | actuator joint m => exact h.driven (m.commandCurrent_driven data.currentCommand b)
    | boom | imu => exact h
  estop := by
    intro ⟨device, b⟩ h
    cases device <;> exact ⟨h.kind, h.follows⟩
  resetError := by
    intro ⟨device, b⟩ h
    cases device <;> exact ⟨h.kind, h.follows⟩
  runHalt := by
    intro ⟨device, b⟩ h
    cases device with
    | actuator joint m => exact h.driven (m.haltStep_driven b)
    | boom | imu => exact h
  assertLine _ h := h
  releaseLine _ h := h

/-! ### A pass -/

namespace Controller

variable {c : Controller SimBoard} {limits : Limits} {kind : Kind} {probe : Probe} {f : Field}

theorem made_syncCycle (made : c.device.Made limits kind) (edge : Edge) :
    (c.syncCycle edge).device.Made limits kind := by
  have ready : (c.readied edge).device.Made limits kind :=
    made.retains (c.quiet_readied edge).device
  have ticked := (c.readied edge).tick_way.keeps (Mounted.made_keeps limits kind) ready
  rw [syncCycle_eq]
  exact ticked

theorem Pass.made {outcome : Except Expiry Outcome} {c' : Controller SimBoard}
    (pass : Pass c outcome c') (made : c.device.Made limits kind) : c'.device.Made limits kind := by
  cases pass with
  | expires =>
      have stopped := (Mounted.made_keeps limits kind).estop
        ⟨c.device, (Board.expired c.board).2⟩ made
      exact stopped
  | syncs alive cycle => exact made_syncCycle (made.retains (quiet_cycle? cycle).device) _
  | waits => exact made.retains c.quiet_waits.device

/-- The telemetry of a cycle is what the probes read on the board before it. -/
theorem getNat_inputsSampled (made : c.device.Made limits kind)
    (layout : c.data.layout = kind.layout) (mem : (probe, f) ∈ kind.probes) (edge : Edge) :
    (c.inputsSampled edge).data.outbound.getNat f =
      (kind.reported (probe.read c.board)).getD (c.data.outbound.getNat f) := by
  obtain ⟨other, -⟩ := Kind.mem_fields_of_probes mem
  have sampled : (c.inputsSampled edge).data =
      c.data.offerAll (kind.offers (c.accountEdge edge).board) :=
    made.updateInputs other layout (c.accountEdge edge).board
  rw [sampled, Kind.getNat_offers mem,
    Probe.read_congr (c.wiring_accountEdge edge) (c.clockwork_accountEdge edge)]

/-- Behind a cycle the record of the device and the published one have the same telemetry. -/
theorem getNat_published (layout : c.data.layout = kind.layout) (edge : Edge)
    (own : f ∈ kind.fields) : (c.syncCycle edge).data.outbound.getNat f =
      (c.inputsSampled edge).data.outbound.getNat f ∧
    (c.syncCycle edge).board.tx.getNat f = (c.inputsSampled edge).data.outbound.getNat f := by
  have exchanged : (c.syncCycle edge).data = (c.exchanged edge).data := by
    rw [syncCycle_eq]
    exact (c.settled_readied edge).data
  refine ⟨?_, getNat_syncCycle layout edge own⟩
  rw [exchanged]
  exact ProcessData.getNat_writeHeader _ _ _ _ _ (kind.fields_fit own).1

/-- A pass that runs no cycle leaves the records of the device. -/
theorem data_rest (none : c.edge? = none) : c.poll.2.data = c.data := by
  have pass := c.poll_pass
  generalize c.poll.1 = outcome, c.poll.2 = c' at pass
  cases pass with
  | expires => rfl
  | @syncs _ edge alive cycle =>
      rw [edge?, cycle] at none
      exact absurd none (Option.some_ne_none edge)
  | waits => exact data_feed _ false

/-- **A cycle shows what its own board shows.** -/
theorem getNat_poll (made : c.device.Made limits kind) (layout : c.data.layout = kind.layout)
    (mem : (probe, f) ∈ kind.probes) {edge : Edge} (observed : c.edge? = some edge) :
    c.poll.2.data.outbound.getNat f =
      (kind.reported (probe.read c.board)).getD (c.data.outbound.getNat f) ∧
    c.poll.2.board.tx.getNat f = c.poll.2.data.outbound.getNat f := by
  obtain ⟨rest, -, cycle⟩ := poll_of_observed observed
  let ready : Controller SimBoard := { c with board := { c.board with edges := rest } }
  have same : probe.read ready.board = probe.read c.board := by cases probe <;> rfl
  have sampled : (ready.inputsSampled edge).data.outbound.getNat f =
      (kind.reported (probe.read ready.board)).getD (c.data.outbound.getNat f) :=
    getNat_inputsSampled (c := ready) made layout mem edge
  obtain ⟨kept, sent⟩ := getNat_published (c := ready) layout edge
    (Kind.mem_fields_of_probes mem).2
  rw [cycle, sent, kept, sampled, same]
  exact ⟨rfl, rfl⟩

end Controller

/-! ### Runs -/

/-- A device of a kind with probes has written no number but zero when it is set up. -/
theorem Device.blank_setUp {kind : Kind} (other : kind ≠ .imu) {limits : Limits} {b b' : SimBoard}
    {data : ProcessData} (setUp : (Device.ofKind kind limits).setUp (.ofLayout kind.layout) b =
      (.ok data, b')) {f : Field} (own : f ∈ kind.fields) : data.outbound.getNat f = 0 := by
  obtain ⟨ready, -, written⟩ := of_setUp setUp
  have same : (Device.ofKind kind limits).kind = kind := by cases kind <;> rfl
  have first : (Device.ofKind kind limits).firstTelemetry =
      (Device.ofKind kind {}).firstTelemetry := by cases kind <;> rfl
  rw [ProcessData.report_eq_fill (congrArg Kind.layout same.symm) (slots_firstTelemetry _),
    first] at written
  have blank : ∀ f ∈ kind.fields, ((ProcessData.ofLayout kind.layout).fill
      ((Device.ofKind kind {}).firstTelemetry.map
        ProcessData.Item.written)).outbound.getNat f = 0 := by
    cases kind with
    | imu => exact absurd rfl other
    | leg | hip | boom => decide +kernel
  rw [← (Prod.mk.inj written).1]
  exact blank f own

namespace Simulation.Station

variable {limits : Limits} {kind : Kind} {probe : Probe} {f : Field} {s : Station}

/-- What the cycles of a run read with a probe, in order. -/
def readings (s : Station) (probe : Probe) (run : List Move) : List (Option Nat) :=
  s.gather (fun c => c.edge?.map fun _ => probe.read c.board) run

/-- A device of a kind shows in a field what these readings had it report. -/
structure Shows (limits : Limits) (kind : Kind) (f : Field) (readings : List (Option Nat))
    (s : Station) : Prop where
  made : s.controller.device.Made limits kind
  layout : s.controller.data.layout = kind.layout
  shown : s.controller.data.outbound.getNat f = kind.shown readings

theorem Shows.poll {readings : List (Option Nat)} (shows : Shows limits kind f readings s)
    (mem : (probe, f) ∈ kind.probes) :
    Shows limits kind f
      (readings ++ (s.controller.edge?.map fun _ => probe.read s.board).toList) s.poll.2 := by
  obtain ⟨made, layout, shown⟩ := shows
  have pass := s.controller.poll_pass
  refine ⟨pass.made made, pass.layout.trans layout, ?_⟩
  cases observed : s.controller.edge? with
  | none =>
      rw [Option.map_none, Option.toList_none, List.append_nil, ← shown]
      exact congrArg (·.outbound.getNat f) (Controller.data_rest observed)
  | some edge =>
      obtain ⟨kept, -⟩ := Controller.getNat_poll made layout mem observed
      rw [Option.map_some, Option.toList_some, Kind.shown_concat, ← shown]
      exact kept

theorem shows_moves (start : Shows limits kind f [] s) (mem : (probe, f) ∈ kind.probes)
    (run : List Move) : Shows limits kind f (s.readings probe run) (s.moves run) :=
  gather_keeps (P := Shows limits kind f) (fun _ _ _ h => ⟨h.made, h.layout, h.shown⟩)
    (fun _ _ h => h.poll mem) start run

theorem Started.shows {config : Config} (started : Started config s)
    (named : config.device.id.kind? = some kind) (mem : (probe, f) ∈ kind.probes) :
    Shows config.limits kind f [] s := by
  obtain ⟨period, before, h⟩ := started
  obtain ⟨b, found, -⟩ := controller_of_start h
  obtain ⟨other, own⟩ := Kind.mem_fields_of_probes mem
  obtain ⟨kind', data, board, named', setUp, made⟩ := Controller.eq_of_start found
  obtain rfl : kind = kind' := Option.some.inj (named.symm.trans named')
  obtain ⟨same, follows, -⟩ := Device.follows_ofKind kind config.limits
  have layout : data.layout = kind.layout := Device.layout_setUp setUp
  have shown : s.controller.data.outbound.getNat f = data.outbound.getNat f := by
    rw [made]
    exact data.getNat_writeHeader _ _ _ _ (kind.fields_fit own).1
  refine ⟨?_, ?_, shown.trans (Device.blank_setUp other setUp own)⟩
  · rw [made]
    exact ⟨same, follows⟩
  · rw [made, Controller.layout_assembled, layout]

/-- What a field shows behind a cycle, by the reading of the cycle and those of earlier ones. -/
structure Tells (kind : Kind) (earlier : List (Option Nat)) (reading : Option Nat)
    (value : Except Trap Int) : Prop where
  read : ∀ n, reading = some n → value = .ok n
  /-- A joint shows zero for an input that could not be read. -/
  zero : kind ≠ .boom → reading = none → value = .ok 0
  /-- A boom shows what it has read last, or zero. -/
  kept : kind = .boom → reading = none → value = .ok ((earlier.filterMap id).getLast?.getD 0 : Nat)

theorem tells_shown (kind : Kind) (earlier : List (Option Nat)) (reading : Option Nat) :
    Tells kind earlier reading (.ok (kind.shown (earlier ++ [reading]))) := by
  rw [Kind.shown_concat]
  refine ⟨?_, ?_, ?_⟩
  · rintro n rfl
    cases kind <;> rfl
  · rintro other rfl
    cases kind with
    | boom => exact absurd rfl other
    | leg | hip | imu => rfl
  · rintro rfl rfl
    rfl

theorem read?_poll {config : Config} (started : Started config s)
    (named : config.device.id.kind? = some kind) (mem : (probe, f) ∈ kind.probes)
    (run : List Move) {edge : Edge} (cycle : (s.moves run).controller.edge? = some edge) :
    (s.moves run).poll.2.board.tx.read? f probe.type =
      .ok (kind.shown (s.readings probe run ++ [probe.read (s.moves run).board])) := by
  obtain ⟨made, layout, shown⟩ := shows_moves (started.shows named mem) mem run
  obtain ⟨kept, published⟩ := Controller.getNat_poll made layout mem cycle
  have own := (Kind.mem_fields_of_probes mem).2
  have within : f.stop ≤ recordCapacity :=
    Nat.le_trans (kind.fields_fit own).2 kind.layout_valid.2.2.2
  have number : (s.moves run).poll.2.board.tx.getNat f =
      kind.shown (s.readings probe run ++ [probe.read (s.moves run).board]) := by
    rw [Kind.shown_concat, ← shown]
    exact published.trans kept
  rw [Record.read?_of_inside _ within (Kind.width_of_mem_probes mem), probe.signed_type,
    if_neg (by simp), number]

/--
**What the master reads is what the device has sampled.**

This is for a leg, a hip or a boom, any run and any cycle behind it.  Every telemetry field
has its probe, and read with the type of the field it shows what the probe has read in this
cycle.  If that failed, a joint shows zero and a boom what was read last.  The other inputs
have no part in it: in any other run of such a device, whatever else it has read, the field
shows the same if its probe has read the same.
-/
theorem fields_show_readings {config : Config} (started : Started config s)
    (named : config.device.id.kind? = some kind) (other : kind ≠ .imu) (run : List Move)
    {edge : Edge} (cycle : (s.moves run).controller.edge? = some edge) :
    kind.probes.map Prod.snd = kind.fields ∧ ∀ v ∈ kind.probes,
      Tells kind (s.readings v.1 run) (v.1.read (s.moves run).board)
          ((s.moves run).poll.2.board.tx.read? v.2 v.1.type) ∧
        ∀ {config' : Config} {s' : Station}, Started config' s' →
          config'.device.id.kind? = some kind → ∀ (run' : List Move) {edge' : Edge},
          (s'.moves run').controller.edge? = some edge' →
          s'.readings v.1 run' = s.readings v.1 run →
          v.1.read (s'.moves run').board = v.1.read (s.moves run).board →
          (s'.moves run').poll.2.board.tx.read? v.2 v.1.type =
            (s.moves run).poll.2.board.tx.read? v.2 v.1.type := by
  refine ⟨Kind.fields_probes other, ?_⟩
  intro v mem
  have shows := read?_poll started named mem run cycle
  refine ⟨?_, ?_⟩
  · rw [shows]
    exact tells_shown _ _ _
  · intro config' s' started' named' run' edge' cycle' earlier now
    rw [shows, read?_poll started' named' mem run' cycle', earlier, now]

/-- A boom under the default settings. -/
def boomConfig : Config where
  shared := { serviceName := "boom" }
  device := { id := ⟨0x30⟩ }

/-- A cycle that reads the pitch of a boom, then the encoder breaks, and the pan turns. -/
def blinked : List Move :=
  [.act (.encoder .boomPitch 777), .act .step, .poll, .act (.encoderFault .boomPitch true),
    .act (.encoder .boomPan 42), .act .step]

/-- The pitch stays what it was, and the pan shows where it has turned. -/
theorem fields_show_readings_blinked : ∃ s, Started boomConfig s ∧
    (s.moves blinked).controller.edge? = some ⟨2, 2000000⟩ ∧
    (s.moves blinked).poll.2.board.tx.read? BoomFields.standard.pitch .u32 = .ok 777 ∧
    (s.moves blinked).poll.2.board.tx.read? BoomFields.standard.pan .u32 = .ok 42 := by
  obtain ⟨s, started, cycle, earlier, lost, turned⟩ : ∃ s, Started boomConfig s ∧
      (s.moves blinked).controller.edge? = some ⟨2, 2000000⟩ ∧
      s.readings (.encoder .boomPitch) blinked = [some 777] ∧
      (Probe.encoder .boomPitch).read (s.moves blinked).board = none ∧
      (Probe.encoder .boomPan).read (s.moves blinked).board = some 42 :=
    ⟨_, ⟨1000000, [], rfl⟩, by decide +kernel, by decide +kernel, by decide +kernel,
      by decide +kernel⟩
  have named : boomConfig.device.id.kind? = some .boom := rfl
  obtain ⟨-, shows⟩ := fields_show_readings started named (by decide) blinked cycle
  have pitch := (shows (.encoder .boomPitch, BoomFields.standard.pitch) (by decide)).1.kept rfl lost
  have pan := (shows (.encoder .boomPan, BoomFields.standard.pan) (by decide)).1.read 42 turned
  rw [earlier] at pitch
  exact ⟨s, started, cycle, pitch, pan⟩

end Simulation.Station
end FieldbusNode
