/-
An inertial measurement unit under any calls.

The unit is sampled, asked for its next frame, stopped and cleared in any order, on a board that
may change in any way before each call.  `Imu.Deed` is what became of a call.  The deeds so far
decide what the unit publishes and latches (`Duty.Lawful`): the frame that was accepted last, the
sequence number of the read that came last, the number of reads that were not accepted, and the
faults since the flags were cleared.

The buffer has no part in it.  A read decodes what it has received and nothing behind that, so
whatever is left in the buffer could as well be anything else (`Duty.emptied_after`).
-/
import FieldbusNode.Bench.Sensors
import FieldbusNode.Proofs.Republication
namespace FieldbusNode

open Inertial (invalidSequence frameLength checksumSpan)
open Simulation.Station (turned)

namespace Imu

/-! ### Deeds -/

/-- What became of a call. -/
inductive Deed
  /-- The sensor was read. -/
  | reads (reading : Except HardwareError (List UInt8))
  /-- The sensor was asked for its next frame. -/
  | asks (answer : Except HardwareError Unit)
  /-- The unit was stopped in an emergency. -/
  | stops
  /-- The flags were cleared. -/
  | clears

namespace Deed

/-- What a read says, if decoding accepts the received bytes. -/
def accepted? : Deed → Option Telemetry
  | .reads (.ok bytes) =>
    (Inertial.Sample.decode bytes).toOption.map (⟨·, Inertial.checksum (bytes.take checksumSpan)⟩)
  | _ => none

/-- The sequence number that a read publishes. -/
def number? : Deed → Option UInt8
  | .reads reading =>
    some (((reads reading).accepted?.map (·.sample.sequence)).getD invalidSequence)
  | _ => none

/-- Whether this is a read that was not accepted. -/
def rejected : Deed → Bool
  | .reads reading => (reads reading).accepted?.isNone
  | _ => false

/-- Whether this is a read that was not accepted, or a call that the sensor failed. -/
def faulty : Deed → Bool
  | .asks (.error _) => true
  | deed => deed.rejected

def isClear : Deed → Bool
  | .clears => true
  | _ => false

theorem of_unread {deed : Deed} (unread : deed.number? = none) :
    deed.accepted? = none ∧ deed.rejected = false := by
  cases deed with
  | reads => nomatch unread
  | asks | stops | clears => exact ⟨rfl, rfl⟩

end Deed

variable (deeds : List Deed)

/-- The telemetry accepted last, all zero if none was; the deeds are listed newest first. -/
def lastAccepted : Telemetry :=
  (deeds.findSome? Deed.accepted?).getD ⟨.zero, 0⟩

/-- The sequence number of the read that came last. -/
def lastNumber : UInt8 :=
  (deeds.findSome? Deed.number?).getD invalidSequence

/-- The deeds since the flags were cleared. -/
def sinceClear : List Deed :=
  deeds.takeWhile (!·.isClear)

theorem lastAccepted_cons (deed : Deed) :
    lastAccepted (deed :: deeds) = deed.accepted?.getD (lastAccepted deeds) := by
  unfold lastAccepted
  rw [List.findSome?_cons]
  cases deed.accepted? <;> rfl

theorem lastNumber_cons (deed : Deed) :
    lastNumber (deed :: deeds) = deed.number?.getD (lastNumber deeds) := by
  unfold lastNumber
  rw [List.findSome?_cons]
  cases deed.number? <;> rfl

theorem countP_rejected_cons (deed : Deed) :
    (deed :: deeds).countP Deed.rejected = deeds.countP Deed.rejected + deed.rejected.toNat := by
  rw [List.countP_cons]
  cases deed.rejected <;> rfl

/-! ### What a read does to the unit -/

variable (unit : Imu)

/-- A read that failed is a frame of no bytes. -/
theorem observe_error (e : HardwareError) :
    (unit.observe (.error e)).1 = unit.transportFault.reject ∧
      (unit.observe (.error e)).2.1 = invalidSequence :=
  ⟨rfl, rfl⟩

theorem sensor_reject : unit.reject.flags.sensor = true :=
  unit.flags.has_raise_self .sensor

/-- **A read is judged by what was received.** -/
theorem observe_reads {reading : Except HardwareError (List UInt8)}
    (whole : ∀ bytes, reading = .ok bytes → bytes.length ≤ frameLength) :
    (unit.observe reading).1.account =
        ((Deed.reads reading).accepted?.getD unit.account.1,
          unit.account.2 + (Deed.reads reading).rejected.toNat) ∧
      (Deed.reads reading).number? = some (unit.observe reading).2.1 ∧
      (unit.observe reading).1.flags.sensor =
        (unit.flags.sensor || (Deed.reads reading).rejected) := by
  cases reading with
  | error e =>
      obtain ⟨behind, number⟩ := unit.observe_error e
      rw [behind, number, sensor_reject]
      exact ⟨rfl, rfl, (Bool.or_true _).symm⟩
  | ok bytes =>
      have short := whole bytes rfl
      have received : bytes.take frameLength = bytes := List.take_of_length_le short
      cases decoded : Inertial.Sample.decode bytes with
      | ok s =>
          obtain ⟨account, number⟩ := unit.observe_accepted short decoded
          have flags := unit.flags_observe (received.symm ▸ decoded)
          have accepted : (Deed.reads (.ok bytes)).accepted? =
              some ⟨s, Inertial.checksum (bytes.take checksumSpan)⟩ := by
            simp [Deed.accepted?, decoded, Except.toOption]
          rw [account, number, flags]
          simp [Deed.rejected, Deed.number?, accepted]
      | error e =>
          obtain ⟨account, number⟩ := unit.observe_rejected short decoded
          have sensor := unit.sensor_observe (received.symm ▸ decoded)
          have refused : (Deed.reads (.ok bytes)).accepted? = none := by
            simp [Deed.accepted?, decoded, Except.toOption]
          have sensor : (unit.observe (.ok bytes)).1.flags.sensor = true := sensor
          rw [account, number, sensor]
          simp [Deed.rejected, Deed.number?, refused]

/-! ### The buffer -/

/-- The unit without what is in its buffer. -/
def emptied : Imu := { unit with buffer := [] }

theorem emptied_observe (reading : Except HardwareError (List UInt8)) :
    (unit.observe reading).1.emptied = (unit.emptied.observe reading).1.emptied ∧
      (unit.observe reading).2 = (unit.emptied.observe reading).2 := by
  cases reading with
  | error e => exact ⟨rfl, rfl⟩
  | ok bytes =>
      unfold observe
      simp only [take_store]
      cases Inertial.Sample.decode (bytes.take frameLength) <;> exact ⟨rfl, rfl⟩

end Imu

/-! ### A unit on duty -/

/-- The device without what is in the buffer of an inertial measurement unit. -/
def Device.emptied : Device → Device
  | .imu unit => .imu unit.emptied
  | other => other

/-- A call of a device. -/
inductive Imu.Call
  | updateInputs (sinceEdge : Nat)
  | postSync
  | estop
  | resetError

/-- What happens to a board before a call, and the call. -/
structure Imu.Turn (β : Type) where
  stir : β → β
  call : Imu.Call

/-- A device with its records on a board, and what became of the calls so far, newest first. -/
structure Imu.Duty (β : Type) where
  device : Device
  data : ProcessData
  board : β
  deeds : List Imu.Deed

namespace Imu.Duty

variable {β : Type}

/-- The same without what is in the buffer. -/
def emptied (d : Duty β) : Duty β :=
  { d with device := d.device.emptied }

theorem emptied_emptied (d : Duty β) : d.emptied.emptied = d.emptied := by
  obtain ⟨_ | _ | _, _, _, _⟩ := d <;> rfl

/-- What a unit publishes and latches is decided by its deeds. -/
structure Lawful (d : Duty β) (unit : Imu) : Prop where
  device : d.device = .imu unit
  layout : d.data.layout = Kind.imu.layout
  kept : unit.account.1 = lastAccepted d.deeds
  /-- The frame that was accepted last is published, under the number of the last read. -/
  telemetry : d.data.outbound.imuTelemetry = (lastAccepted d.deeds).numbered (lastNumber d.deeds)
  rejected : unit.framesRejected = d.deeds.countP Deed.rejected
  sensor : unit.flags.sensor = (sinceClear d.deeds).any Deed.faulty

/-- **A call that does not read leaves what is published.** -/
theorem Lawful.aside {d : Duty β} {unit : Imu} (lawful : d.Lawful unit) (deed : Deed)
    (unread : deed.number? = none) (unit' : Imu) (account : unit'.account = unit.account)
    (sensor : unit'.flags.sensor = (sinceClear (deed :: d.deeds)).any Deed.faulty) {b : β} :
    Lawful ⟨.imu unit', d.data, b, deed :: d.deeds⟩ unit' := by
  obtain ⟨refused, counted⟩ := Deed.of_unread unread
  refine ⟨rfl, lawful.layout, ?_, ?_, ?_, sensor⟩
  · rw [account, lastAccepted_cons, refused]
    exact lawful.kept
  · rw [lastAccepted_cons, lastNumber_cons, refused, unread]
    exact lawful.telemetry
  · rw [countP_rejected_cons, counted, ← lawful.rejected]
    exact congrArg Prod.snd account

/-! ### What calls do -/

variable [Hardware β]

/-- A unit that has just been set up. -/
def begin (data : ProcessData) (b : β) : Duty β := ⟨.imu .fresh, data, b, []⟩

/-- What a call makes of it. -/
def call (d : Duty β) : Call → Duty β
  | .updateInputs sinceEdge =>
    let (device, data, board) := d.device.updateInputs sinceEdge d.data d.board
    ⟨device, data, board, .reads (Hardware.readImu frameLength d.board).1 :: d.deeds⟩
  | .postSync =>
    let (device, board) := d.device.postSync d.board
    ⟨device, d.data, board, .asks (Hardware.pulseImu d.board).1 :: d.deeds⟩
  | .estop =>
    let (device, board) := d.device.estop d.board
    ⟨device, d.data, board, .stops :: d.deeds⟩
  | .resetError => ⟨d.device.resetError, d.data, d.board, .clears :: d.deeds⟩

/-- What a turn makes of it. -/
def turn (d : Duty β) (t : Turn β) : Duty β :=
  { d with board := t.stir d.board }.call t.call

/-- What turns make of it, one after another. -/
def after (d : Duty β) (turns : List (Turn β)) : Duty β :=
  turns.foldl turn d

variable {d : Duty β} {unit : Imu}

/-- What a read makes of a unit, its records and its board. -/
theorem call_updateInputs (device : d.device = .imu unit) (sinceEdge : Nat)
    {observed : Imu × UInt8 × List Event}
    (read : unit.observe (Hardware.readImu frameLength d.board).1 = observed) :
    d.call (.updateInputs sinceEdge) =
      let reported := d.data.report (observed.1.telemetry observed.2.1)
        (Journal.noteAll observed.2.2 (Journal.trapIf observed.1.gapsOverflow .overflow
          (Hardware.readImu frameLength d.board).2))
      ⟨.imu observed.1, reported.1, reported.2,
        .reads (Hardware.readImu frameLength d.board).1 :: d.deeds⟩ := by
  obtain ⟨_, data, board, deeds⟩ := d
  obtain rfl : _ = Device.imu unit := device
  subst read
  rfl

/-- **A read is published under its own number, and the rest is as it was.** -/
theorem Lawful.updateInputs (lawful : d.Lawful unit)
    (bounded : ∀ bytes, (Hardware.readImu frameLength d.board).1 = .ok bytes →
      bytes.length ≤ frameLength) (sinceEdge : Nat) :
    (d.call (.updateInputs sinceEdge)).Lawful
      (unit.observe (Hardware.readImu frameLength d.board).1).1 := by
  obtain ⟨account, number, latched⟩ := unit.observe_reads bounded
  rw [call_updateInputs lawful.device sinceEdge rfl]
  dsimp only
  rw [ProcessData.report_eq_fill lawful.layout (Device.own_imuTelemetry _ _)]
  generalize (Hardware.readImu frameLength d.board).1 = reading at account number latched ⊢
  generalize unit.observe reading = observed at account number latched ⊢
  have kept : observed.1.account.1 = lastAccepted (.reads reading :: d.deeds) := by
    rw [account, lawful.kept, lastAccepted_cons]
  refine ⟨rfl, (ProcessData.layout_fill _ _).trans lawful.layout, kept, ?_, ?_, ?_⟩
  · have told : (d.data.fill ((observed.1.telemetry observed.2.1).map
        ProcessData.Item.written)).outbound.imuTelemetry =
          observed.1.account.1.numbered observed.2.1 :=
      observed.1.telemetry_of_report d.data fun _ _ => rfl
    refine told.trans ?_
    rw [kept, lastNumber_cons, number, Option.getD_some]
  · rw [countP_rejected_cons, ← lawful.rejected]
    exact congrArg Prod.snd account
  · rw [latched, lawful.sensor, Bool.or_comm]
    rfl

theorem Lawful.postSync (lawful : d.Lawful unit) : ∃ unit', (d.call .postSync).Lawful unit' := by
  obtain ⟨device, data, board, deeds⟩ := d
  obtain rfl : device = .imu unit := lawful.device
  unfold Duty.call Device.postSync
  rcases Hardware.pulseImu board with ⟨⟨⟩ | ⟨⟩, behind⟩
  · exact ⟨_, lawful.aside (.asks (.error _)) rfl unit.transportFault rfl
      (unit.flags.has_raise_self .sensor)⟩
  · exact ⟨_, lawful.aside (.asks (.ok _)) rfl unit rfl lawful.sensor⟩

theorem Lawful.estop (lawful : d.Lawful unit) : (d.call .estop).Lawful unit.estop := by
  obtain ⟨device, data, board, deeds⟩ := d
  obtain rfl : device = .imu unit := lawful.device
  have marked : unit.estop.flags.has .sensor = unit.flags.has .sensor := by
    rw [Imu.estop, Flags.has_raise, decide_eq_false (by decide), Bool.or_false]
  exact lawful.aside .stops rfl unit.estop rfl (marked.trans lawful.sensor)

theorem Lawful.resetError (lawful : d.Lawful unit) : (d.call .resetError).Lawful unit.reset := by
  obtain ⟨device, data, board, deeds⟩ := d
  obtain rfl : device = .imu unit := lawful.device
  exact lawful.aside .clears rfl unit.reset rfl rfl

theorem Lawful.call (lawful : d.Lawful unit)
    (bounded : ∀ bytes, (Hardware.readImu frameLength d.board).1 = .ok bytes →
      bytes.length ≤ frameLength) (c : Call) : ∃ unit', (d.call c).Lawful unit' := by
  cases c with
  | updateInputs sinceEdge => exact ⟨_, lawful.updateInputs bounded sinceEdge⟩
  | postSync => exact lawful.postSync
  | estop => exact ⟨_, lawful.estop⟩
  | resetError => exact ⟨_, lawful.resetError⟩

theorem Lawful.after (bounded : ∀ (b : β) bytes,
    (Hardware.readImu frameLength b).1 = .ok bytes → bytes.length ≤ frameLength)
    (lawful : d.Lawful unit) (turns : List (Turn β)) : ∃ unit', (d.after turns).Lawful unit' := by
  induction turns generalizing d unit with
  | nil => exact ⟨unit, lawful⟩
  | cons t rest ih =>
      have stirred : Lawful { d with board := t.stir d.board } unit :=
        ⟨lawful.device, lawful.layout, lawful.kept, lawful.telemetry, lawful.rejected,
          lawful.sensor⟩
      obtain ⟨unit', next⟩ := stirred.call (bounded _) t.call
      exact ih next

/-- A unit that is set up has published zeros without a valid sequence number. -/
theorem lawful_begin {limits : Limits} {b b' : β} {data : ProcessData}
    (setUp : (Device.ofKind .imu limits).setUp (.ofLayout Kind.imu.layout) b = (.ok data, b')) :
    (begin data b').Lawful .fresh := by
  have layout : data.layout = Kind.imu.layout := Device.layout_setUp setUp
  have reported : data = (ProcessData.ofLayout Kind.imu.layout).fill
      ((Imu.fresh.telemetry Inertial.invalidSequence).map ProcessData.Item.written) := by
    obtain ⟨ready, -, written⟩ := Device.of_setUp setUp
    rw [ProcessData.report_eq_fill rfl (Device.slots_firstTelemetry _)] at written
    exact (Prod.mk.inj written).1.symm
  have telemetry := Imu.fresh.telemetry_of_report (.ofLayout Kind.imu.layout)
    (fun f _ => congrArg (·.outbound.getNat f) reported)
  exact ⟨rfl, layout, rfl, telemetry, rfl, rfl⟩

/-! ### Without the buffer -/

theorem emptied_call (d : Duty β) (c : Call) :
    (d.call c).emptied = (d.emptied.call c).emptied := by
  obtain ⟨device, data, board, deeds⟩ := d
  cases device with
  | actuator joint m => rfl
  | boom unit => rfl
  | imu unit =>
    cases c with
    | updateInputs sinceEdge =>
      -- what is published does not mention the buffer
      have reported (unit : Imu) (sequence : UInt8) :
          unit.telemetry sequence = unit.emptied.telemetry sequence := rfl
      have counted (unit : Imu) : unit.gapsOverflow = unit.emptied.gapsOverflow := rfl
      obtain ⟨same, said⟩ := unit.emptied_observe (Hardware.readImu frameLength board).1
      rw [call_updateInputs rfl sinceEdge rfl, call_updateInputs rfl sinceEdge rfl]
      simp only [Duty.emptied, Device.emptied]
      rw [reported, counted, same, said, ← reported, ← counted]
    | postSync =>
      unfold Duty.call Duty.emptied Device.postSync
      rcases Hardware.pulseImu board with ⟨⟨⟩ | ⟨⟩, behind⟩ <;> rfl
    | estop => rfl
    | resetError => rfl

theorem emptied_turn (d : Duty β) (t : Turn β) :
    (d.turn t).emptied = (d.emptied.turn t).emptied :=
  emptied_call { d with board := t.stir d.board } t.call

/-- **What is left in the buffer decides nothing.** -/
theorem emptied_after {d d' : Duty β} (same : d.emptied = d'.emptied) (turns : List (Turn β)) :
    (d.after turns).emptied = (d'.after turns).emptied := by
  induction turns generalizing d d' with
  | nil => exact same
  | cons t rest ih =>
      have turned : (d.turn t).emptied = (d'.turn t).emptied := by
        rw [emptied_turn, same, ← emptied_turn]
      exact ih turned

/-! ### Any calls -/

/-- **An inertial measurement unit republishes the last frame it accepted.**  After any calls, on
a board that may change in any way between them and never hands over more bytes than it was asked
for, the deeds decide the telemetry, the count of rejected frames and the sensor flag; and a unit
that differs in what is left in its buffer goes on in the same way. -/
theorem decided_by_deeds {limits : Limits} {b b' : β} {data : ProcessData}
    (bounded : ∀ (b : β) bytes, (Hardware.readImu frameLength b).1 = .ok bytes →
      bytes.length ≤ frameLength)
    (setUp : (Device.ofKind .imu limits).setUp (.ofLayout Kind.imu.layout) b = (.ok data, b'))
    (turns : List (Turn β)) :
    (∃ unit, ((begin data b').after turns).Lawful unit) ∧
      ∀ other : Duty β, other.emptied = ((begin data b').after turns).emptied → ∀ later,
        (other.after later).emptied = (((begin data b').after turns).after later).emptied :=
  ⟨(lawful_begin setUp).after bounded turns, fun _ same => emptied_after same⟩

/-- A frame arrives, the sensor is asked for the next one, and of that only the front arrives.  The
rest of the first frame is still in the buffer. -/
def cutShort : List (Turn Bench.Sensors) :=
  [⟨fun s => { s with frame := some turned.encode }, .updateInputs 0⟩, ⟨id, .postSync⟩,
    ⟨fun s => { s with frame := some (turned.encode.take 20) }, .updateInputs 0⟩]

/-- The front alone is rejected, and the unit would go on in the same way with an empty buffer. -/
theorem decided_by_deeds_cutShort :
    ∃ data b' unit,
      (Device.ofKind .imu {}).setUp (.ofLayout Kind.imu.layout) ({} : Bench.Sensors) =
        (.ok data, b') ∧
      ((begin data b').after cutShort).device = .imu unit ∧
      ((begin data b').after cutShort).data.outbound.imuTelemetry.sample =
        { turned with sequence := invalidSequence } ∧
      unit.framesRejected = 1 ∧ unit.flags.sensor = true ∧
      ∀ later, (((begin data b').after cutShort).emptied.after later).emptied =
        (((begin data b').after cutShort).after later).emptied := by
  have bounded (b : Bench.Sensors) (bytes : List UInt8)
      (read : (Hardware.readImu frameLength b).1 = .ok bytes) : bytes.length ≤ frameLength := by
    change Bench.Sensors.reading (b.frame.map (·.take frameLength)) _ = .ok bytes at read
    cases filled : b.frame with
    | none =>
      rw [filled] at read
      nomatch read
    | some frame =>
      rw [filled] at read
      obtain rfl : frame.take frameLength = bytes := Except.ok.inj read
      exact List.length_take_le _ _
  obtain ⟨data, b', setUp, accepted, number, rejected, faulty⟩ :
      ∃ data b', (Device.ofKind .imu {}).setUp (.ofLayout Kind.imu.layout) ({} : Bench.Sensors) =
          (.ok data, b') ∧
        (lastAccepted ((begin data b').after cutShort).deeds).sample = turned ∧
        lastNumber ((begin data b').after cutShort).deeds = invalidSequence ∧
        ((begin data b').after cutShort).deeds.countP Deed.rejected = 1 ∧
        (sinceClear ((begin data b').after cutShort).deeds).any Deed.faulty = true := by
    refine ⟨_, _, rfl, ?_⟩
    decide +kernel
  obtain ⟨⟨unit, lawful⟩, same⟩ := decided_by_deeds bounded setUp cutShort
  refine ⟨data, b', unit, setUp, lawful.device, ?_, ?_, ?_, same _ (emptied_emptied _)⟩
  · rw [lawful.telemetry, number, ← accepted]
    rfl
  · rw [lawful.rejected, rejected]
  · rw [lawful.sensor, faulty]

end Imu.Duty
end FieldbusNode
