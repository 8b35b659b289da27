/-
Where a device writes, and what it reads.

Every read and every write of a record is checked, and for the fields of a device no check
fails.  The fields of a kind lie behind the header and inside the layout (`Kind.fields_fit`),
and each holds values of a type of its width (`Kind.slots`).  The telemetry of a device names
only these fields, each with its type, so a report is the same as filling numbers into the
outbound record (`ProcessData.report_eq_fill`), and what it leaves of the board is left whether
it was refused or not.
-/
import FieldbusNode.Proofs.Publishing
namespace FieldbusNode

open Simulation (SimBoard)

theorem Kind.fields_fit (kind : Kind) {f : Field} (mem : f ∈ kind.fields) :
    Outbound.headerEnd ≤ f.offset ∧ f.stop ≤ kind.layout.txSize := by
  have all : ∀ f ∈ kind.fields, Outbound.headerEnd ≤ f.offset ∧ f.stop ≤ kind.layout.txSize := by
    cases kind <;> decide
  exact all f mem

namespace Kind

/-- The types of the values in the fields of a kind, in the same order. -/
def types : Kind → List ValueType
  | .leg => [.u8, .u32, .u32, .u16, .u16, .u16, .u16, .u16, .u16]
  | .hip => [.u8, .u32, .u16, .u16, .u16, .u16, .u16, .u16]
  | .boom => [.u32, .u32, .u32, .u16, .u16]
  | .imu => [.u32, .u32, .u32, .u32, .u32, .u32, .u8, .u8, .i16, .u32]

/-- The fields of a kind, each with the type of its values. -/
def slots (kind : Kind) : List (Field × ValueType) :=
  kind.fields.zip kind.types

theorem fields_slots (kind : Kind) : kind.slots.map Prod.fst = kind.fields := by
  cases kind <;> rfl

theorem width_of_mem_slots {kind : Kind} {f : Field} {t : ValueType} (mem : (f, t) ∈ kind.slots) :
    t.width = f.width := by
  have all : ∀ v ∈ kind.slots, v.2.width = v.1.width := by cases kind <;> decide
  exact all _ mem

end Kind

/-- A field that lies in the record has its number read, with the sign of the type. -/
theorem Record.read?_of_inside (r : Record) {f : Field} {t : ValueType}
    (within : f.stop ≤ recordCapacity) (wide : t.width = f.width) :
    r.read? f t = .ok (if t.signed = true ∧ t.modulus ≤ 2 * r.getNat f
      then (r.getNat f : Int) - t.modulus else r.getNat f) := by
  have length := r.length_slice f.offset f.width
  have whole : (r.slice f.offset f.width).take t.width = r.slice f.offset f.width :=
    List.take_of_length_le (Nat.le_of_eq (length.trans wide.symm))
  have enough : ¬(r.slice f.offset f.width).length < t.width := by
    rw [length, wide]
    exact Nat.lt_irrefl _
  have decoded : t.decode? (r.slice f.offset f.width) =
      some (if t.signed = true ∧ t.modulus ≤ 2 * r.getNat f
        then (r.getNat f : Int) - t.modulus else r.getNat f) := by
    rw [ValueType.decode?, if_neg enough, whole]
    exact (apply_ite some _ _ _).symm
  rw [read?, if_neg (Nat.not_lt.mpr within), decoded]

/-- A field that lies in the record takes any value that is not wider. -/
theorem Record.write?_of_inside (r : Record) {f : Field} {t : ValueType}
    (within : f.stop ≤ recordCapacity) (narrow : t.width ≤ f.width) (value : Int) :
    r.write? f t value = .ok (r.put f.offset (t.encode value)) :=
  if_neg (not_or.mpr ⟨Nat.not_lt.mpr within, Nat.not_lt.mpr narrow⟩)

/-- Writes numbers into fields, one after another. -/
def Record.fill (r : Record) (values : List (Field × Nat)) : Record :=
  values.foldl (fun r v => r.putNat v.1 v.2) r

namespace ProcessData

/-! ### Writes -/

namespace Item

/-- The number that an item leaves in its field. -/
def number (item : Item) : Nat := (item.value % item.type.modulus).toNat

/-- The field of an item with the type of the value. -/
def slot (item : Item) : Field × ValueType := (item.field, item.type)

/-- The field of an item with the number that is left in it. -/
def written (item : Item) : Field × Nat := (item.field, item.number)

/-- A number that the type has a value for is left as it is. -/
theorem written_of_lt {f : Field} {t : ValueType} {n : Nat} (small : n < t.modulus) :
    (⟨f, t, n⟩ : Item).written = (f, n) := by
  have left : (⟨f, t, n⟩ : Item).number = n := by
    unfold number
    rw [← Int.natCast_emod, Nat.mod_eq_of_lt small, Int.toNat_natCast]
  exact congrArg (Prod.mk f) left

end Item

/-- Writes numbers into fields of the outbound record. -/
def fill (p : ProcessData) (values : List (Field × Nat)) : ProcessData :=
  { p with outbound := p.outbound.fill values }

@[simp] theorem layout_fill (p : ProcessData) (values : List (Field × Nat)) :
    (p.fill values).layout = p.layout := rfl

variable {p : ProcessData} {items : List Item}

/-- A value of the width of its field goes into it if the field lies in the layout. -/
theorem writeOutbound?_eq_fill {item : Item} (inside : item.field.stop ≤ p.layout.txSize)
    (fits : p.layout.txSize ≤ recordCapacity) (wide : item.type.width = item.field.width) :
    p.writeOutbound? item.field item.type item.value = .ok (p.fill [item.written]) := by
  have taken := p.outbound.write?_of_inside (Nat.le_trans inside fits) (Nat.le_of_eq wide)
    item.value
  have encoded : item.type.encode item.value = Bytes.ofNat item.field.width item.number := by
    rw [ValueType.encode, wide]
    rfl
  rw [writeOutbound?, if_neg (Nat.not_lt.mpr inside), taken, encoded]
  rfl

theorem writeAll?_eq_fill {kind : Kind} (layout : p.layout = kind.layout)
    (own : items.map Item.slot ⊆ kind.slots) :
    p.writeAll? items = .ok (p.fill (items.map Item.written)) := by
  induction items generalizing p with
  | nil => rfl
  | cons item rest ih =>
      obtain ⟨slot, rest'⟩ := List.cons_subset.mp own
      obtain ⟨-, -, -, fits⟩ := kind.layout_valid
      have field : item.field ∈ kind.fields := by
        rw [← kind.fields_slots]
        exact List.mem_map_of_mem (f := Prod.fst) slot
      have inside := (kind.fields_fit field).2
      rw [← layout] at inside fits
      rw [writeAll?_cons, writeOutbound?_eq_fill inside fits (Kind.width_of_mem_slots slot)]
      exact ih (p := p.fill [item.written]) layout rest'

/-- **A report of a kind is never refused.** -/
theorem report_eq_fill {σ : Type} [Journal σ] {kind : Kind} (layout : p.layout = kind.layout)
    (own : items.map Item.slot ⊆ kind.slots) (s : σ) :
    p.report items s = (p.fill (items.map Item.written), s) := by
  rw [report, writeAll?_eq_fill layout own]

/-! ### Reads -/

/-- A read with the check gives the number in the field, with the sign of the type. -/
theorem readInbound?_of_inside {f : Field} {t : ValueType} (inside : f.stop ≤ p.layout.rxSize)
    (within : f.stop ≤ recordCapacity) (wide : t.width = f.width) :
    p.readInbound? f t = .ok (if t.signed = true ∧ t.modulus ≤ 2 * p.inbound.getNat f
      then (p.inbound.getNat f : Int) - t.modulus else p.inbound.getNat f) := by
  rw [readInbound?, if_neg (Nat.not_lt.mpr inside), Record.read?_of_inside _ within wide]

theorem getNat_lt (r : Record) (f : Field) : r.getNat f < Bytes.modulus f.width := by
  have small := Bytes.toNat_lt (r.slice f.offset f.width)
  rwa [Record.length_slice] at small

/-- The counter of the master is what a read with the check gives. -/
theorem readInbound?_masterCounter (inside : Inbound.masterCounter.stop ≤ p.layout.rxSize) :
    p.readInbound? Inbound.masterCounter .u16 = .ok p.masterCounter.toNat := by
  have read : p.masterCounter.toNat = p.inbound.getNat Inbound.masterCounter := by
    unfold masterCounter
    rw [UInt16.toNat_ofNat']
    exact Nat.mod_eq_of_lt (getNat_lt p.inbound Inbound.masterCounter)
  rw [readInbound?_of_inside inside (by decide) rfl, if_neg (by simp [ValueType.signed]), read]

/-- The commanded current is what a read with the check gives. -/
theorem readInbound?_motorCurrent (inside : Inbound.motorCurrent.stop ≤ p.layout.rxSize) :
    p.readInbound? Inbound.motorCurrent .i32 = .ok p.currentCommand.toInt := by
  have small := getNat_lt p.inbound Inbound.motorCurrent
  change p.inbound.getNat Inbound.motorCurrent < 4294967296 at small
  have read : p.currentCommand.toInt = Int.bmod (p.inbound.getNat Inbound.motorCurrent) (2 ^ 32) :=
    Int32.toInt_ofNat'
  have modulus : ValueType.i32.modulus = 4294967296 := by decide
  rw [readInbound?_of_inside inside (by decide) rfl, read, modulus]
  generalize p.inbound.getNat Inbound.motorCurrent = n at small
  by_cases high : 4294967296 ≤ 2 * n
  · have wraps : Int.bmod n (2 ^ 32) = n - 4294967296 := by
      rw [← Int.sub_bmod_right]
      exact Int.bmod_eq_of_le (by omega) (by omega)
    rw [if_pos ⟨rfl, high⟩, wraps]
    rfl
  · have stays : Int.bmod n (2 ^ 32) = n := Int.bmod_eq_of_le (by omega) (by omega)
    rw [if_neg (fun h => high h.2), stays]

end ProcessData

namespace Device

/-! ### Reports -/

open ProcessData (Item)

/-- A joint reports all of its fields. -/
theorem slots_sampleTelemetry (joint : Joint) (s : Actuator.Sample) (timestep : UInt16) :
    (sampleTelemetry joint s timestep).map Item.slot = joint.kind.slots := by
  cases joint <;> rfl

theorem own_sampleTelemetry (joint : Joint) (s : Actuator.Sample) (timestep : UInt16) :
    (sampleTelemetry joint s timestep).map Item.slot ⊆ joint.kind.slots := by
  rw [slots_sampleTelemetry]
  exact List.Subset.refl _

/-- So does an inertial sensor. -/
theorem own_imuTelemetry (unit : Imu) (sequence : UInt8) :
    (unit.telemetry sequence).map Item.slot ⊆ Kind.imu.slots := by
  have all : (unit.telemetry sequence).map Item.slot = Kind.imu.slots := rfl
  rw [all]
  exact List.Subset.refl _

/-- A boom reports the time and, in their order, the fields of which the reading succeeded. -/
theorem slots_boomTelemetry (r : BoomReadings) (timestep : UInt16) :
    ((Boom.telemetry r timestep).map Item.slot).Sublist Kind.boom.slots := by
  have readable {α : Type} (f : Field) (t : ValueType) (value : α → Int) (reading : Option α) :
      ((reading.toList.map fun a => (⟨f, t, value a⟩ : Item)).map Item.slot).Sublist
        [(f, t)] := by
    cases reading with
    | none => exact List.nil_sublist _
    | some a => exact List.Sublist.refl _
  unfold Boom.telemetry
  dsimp only
  simp only [List.map_append, List.map_cons]
  exact (((readable _ .u32 _ _).append (readable _ .u32 _ _)).append (readable _ .u32 _ _)).append
    ((readable _ .u16 _ _).cons_cons _)

/-- What a device reports in a cycle on a board. -/
def reports (d : Device) (sinceEdge : Nat) (b : SimBoard) : List Item :=
  match d with
  | .actuator joint m => sampleTelemetry joint (b.actuatorReadings m.motorEncoder).sample
      (timestepOfNanos sinceEdge)
  | .boom _ => Boom.telemetry b.boomReadings (timestepOfNanos sinceEdge)
  | .imu unit => (unit.observe b.imuReading).1.telemetry (unit.observe b.imuReading).2.1

theorem slots_reports (d : Device) (sinceEdge : Nat) (b : SimBoard) :
    (d.reports sinceEdge b).map Item.slot ⊆ d.kind.slots := by
  cases d with
  | actuator joint m => exact own_sampleTelemetry joint _ _
  | boom unit => exact (slots_boomTelemetry _ _).subset
  | imu unit => exact own_imuTelemetry _ _

theorem slots_firstTelemetry (d : Device) :
    d.firstTelemetry.map Item.slot ⊆ d.kind.slots := by
  cases d with
  | actuator joint m =>
      cases joint with
      | leg =>
          show [((ActuatorFields.ofJoint .leg).limitSwitches, ValueType.u8)] ⊆ Kind.leg.slots
          decide
      | hip => exact List.nil_subset _
  | boom unit => exact List.nil_subset _
  | imu unit => exact own_imuTelemetry unit _

/-- Frames that the sensor of a device has skipped. -/
def sequenceGaps : Device → Nat
  | .imu unit => unit.sequenceGaps
  | .actuator .. | .boom _ => 0

variable (d : Device) {data : ProcessData}

/-- Sampling reports, on a board on which at most the skipped frames have failed a check. -/
theorem exists_updateInputs (data : ProcessData) (sinceEdge : Nat) (b : SimBoard) :
    ∃ noted : SimBoard,
      (d.updateInputs sinceEdge data b).2 = data.report (d.reports sinceEdge b) noted ∧
      noted.trapped = (Journal.trapIf (decide (uint64Max < (d.sampled b).sequenceGaps)) .overflow
        b).trapped := by
  have told (events : List Event) (b : SimBoard) :
      (Journal.noteAll events b).trapped = b.trapped :=
    Journal.noteAll_leaves (f := SimBoard.trapped) (fun _ _ => rfl) events b
  cases d with
  | actuator joint m =>
      rw [updateInputs_actuator]
      exact ⟨_, rfl, told _ b⟩
  | boom unit =>
      rw [updateInputs_boom]
      exact ⟨_, rfl, told _ b⟩
  | imu unit =>
      rw [updateInputs_imu]
      refine ⟨_, rfl, (told _ _).trans ?_⟩
      show _ = (Journal.trapIf (unit.observe b.imuReading).1.gapsOverflow _ b).trapped
      cases (unit.observe b.imuReading).1.gapsOverflow <;> rfl

variable {d}

/-- **What a cycle writes is what the device reports.** -/
theorem data_updateInputs (layout : data.layout = d.kind.layout) (sinceEdge : Nat)
    (b : SimBoard) : (d.updateInputs sinceEdge data b).2.1 =
      data.fill ((d.reports sinceEdge b).map Item.written) := by
  obtain ⟨noted, sampled, -⟩ := d.exists_updateInputs data sinceEdge b
  rw [sampled, ProcessData.report_eq_fill layout (d.slots_reports sinceEdge b)]

/-- **The only check that can fail in sampling is that of the skipped frames.** -/
theorem trapped_updateInputs (layout : data.layout = d.kind.layout) (sinceEdge : Nat)
    (b : SimBoard) : (d.updateInputs sinceEdge data b).2.2.trapped =
      (Journal.trapIf (decide (uint64Max < (d.sampled b).sequenceGaps)) .overflow b).trapped := by
  obtain ⟨noted, sampled, trapped⟩ := d.exists_updateInputs data sinceEdge b
  rw [sampled, ProcessData.report_eq_fill layout (d.slots_reports sinceEdge b)]
  exact trapped

/-- A set-up writes what there is to report before the first cycle, and no check fails. -/
theorem setUp_eq {β : Type} [Hardware β] (layout : data.layout = d.kind.layout) (b : β) :
    d.setUp data b = ((d.powerUp b).1.map
      fun _ => data.fill (d.firstTelemetry.map Item.written), (d.powerUp b).2) := by
  unfold setUp
  rcases d.powerUp b with ⟨e | -, ready⟩
  · rfl
  · simp only [ProcessData.report_eq_fill layout d.slots_firstTelemetry]
    rfl

end Device
end FieldbusNode
