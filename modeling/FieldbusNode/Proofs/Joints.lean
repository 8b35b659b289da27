/-
A leg and a hip side by side.

The two joints are told apart by an encoder: a leg has one on the motor side, and a field for it in
its record, so all fields behind that one lie elsewhere in the record of a hip.  A master knows the
other fields by name, and reads them where the layout of the joint has them
(`Joint.telemetry`).  A cycle writes into them what it has sampled, and the encoder on the motor
side has no part in that (`Controller.telemetry_syncCycle`).

So let a leg and a hip start under one configuration on one rig, and let the same happen to both.
As long as no cycle of the leg meets a broken encoder on the motor side they are kin, and their
masters read the same numbers (`Station.Kin`).
-/
import FieldbusNode.Proofs.OneSided
import FieldbusNode.Proofs.Readback
namespace FieldbusNode

open Simulation (SimBoard Rig Action Move)

/-- The configuration under another identity. -/
def Config.identified (config : Config) (id : Identity) : Config :=
  { config with device := { config.device with id } }

/-! ### Telemetry by name -/

/-- The fields that both joints have: limit switches, output encoder, timestep, the three
thermistors, motor voltage and logic voltage. -/
def ActuatorFields.shared (f : ActuatorFields) : List Field :=
  [f.limitSwitches, f.outputEncoder, f.timestep] ++ f.thermistors.toList ++
    [f.motorVoltage, f.logicVoltage]

/-- What a master reads in the record of a joint, by the names that both joints have. -/
def Joint.telemetry (joint : Joint) (r : Record) : List Nat :=
  (ActuatorFields.ofJoint joint).shared.map r.getNat

theorem Joint.shared_subset (joint : Joint) :
    ∀ f ∈ (ActuatorFields.ofJoint joint).shared, f ∈ joint.kind.fields := by
  cases joint <;> decide

namespace Actuator.Sample

/-- What a sample says under these names. -/
def shown (s : Sample) (timestep : UInt16) : List Nat :=
  [s.limitSwitches.toNat, (s.outputPosition.getD 0).toNat, timestep.toNat,
    s.thermistors.first.toNat, s.thermistors.second.toNat, s.thermistors.third.toNat,
    s.motorVoltage.toNat, s.logicVoltage.toNat]

/-- The fields that both joints have, each with what a sample says. -/
def named (joint : Joint) (s : Sample) (timestep : UInt16) : List (Field × Nat) :=
  (ActuatorFields.ofJoint joint).shared.zip (s.shown timestep)

/-- All fields of a joint with what a cycle writes into them.  The encoder on the motor side comes
behind the limit switches. -/
def entries (joint : Joint) (s : Sample) (timestep : UInt16) : List (Field × Nat) :=
  (s.named joint timestep).take 1 ++
    (ActuatorFields.ofJoint joint).motorEncoder.toList.map (·, (s.motorPosition.getD 0).toNat) ++
    (s.named joint timestep).drop 1

variable (joint : Joint) (s : Sample) (timestep : UInt16)

theorem fields_entries : (s.entries joint timestep).map Prod.fst = joint.kind.fields := by
  cases joint <;> rfl

theorem named_subset_entries {v : Field × Nat} (mem : v ∈ s.named joint timestep) :
    v ∈ s.entries joint timestep := by
  rw [← List.take_append_drop 1 (s.named joint timestep), List.mem_append] at mem
  rw [entries, List.mem_append, List.mem_append]
  exact mem.imp_left Or.inl

/-- Each of these numbers has room in its field. -/
theorem named_fit : ∀ v ∈ s.named joint timestep, v.2 < Bytes.modulus v.1.width := by
  have position := (s.outputPosition.getD 0).toNat_lt
  cases joint <;>
    simp only [named, shown, ActuatorFields.shared, Triple.toList, List.cons_append,
      List.nil_append, List.zip_cons_cons, List.zip_nil_left, List.forall_mem_cons]
  all_goals
    exact ⟨s.limitSwitches.toNat_lt, position, timestep.toNat_lt, s.thermistors.first.toNat_lt,
      s.thermistors.second.toNat_lt, s.thermistors.third.toNat_lt, s.motorVoltage.toNat_lt,
      s.logicVoltage.toNat_lt, List.forall_mem_nil _⟩

end Actuator.Sample

namespace Device

variable (joint : Joint) (data : ProcessData) (s : Actuator.Sample) (timestep : UInt16)

theorem written_sampleTelemetry :
    (sampleTelemetry joint s timestep).map ProcessData.Item.written = s.entries joint timestep := by
  have word (f : Field) (w : UInt32) :
      ProcessData.Item.written ⟨f, .u32, w.toNat⟩ = (f, w.toNat) :=
    ProcessData.Item.written_of_lt w.toNat_lt
  have half (f : Field) (w : UInt16) :
      ProcessData.Item.written ⟨f, .u16, w.toNat⟩ = (f, w.toNat) :=
    ProcessData.Item.written_of_lt w.toNat_lt
  have byte (f : Field) (w : UInt8) :
      ProcessData.Item.written ⟨f, .u8, w.toNat⟩ = (f, w.toNat) :=
    ProcessData.Item.written_of_lt w.toNat_lt
  unfold sampleTelemetry
  dsimp only
  simp only [List.map_cons, List.map_append, List.map_nil, List.map_map, Function.comp_def, word,
    half, byte]
  cases joint <;> rfl

/-- **What a cycle writes is read by name.** -/
theorem telemetry_sampleTelemetry :
    joint.telemetry (data.fill ((sampleTelemetry joint s timestep).map
      ProcessData.Item.written)).outbound = s.shown timestep := by
  rw [written_sampleTelemetry]
  have fields : (s.named joint timestep).map Prod.fst = (ActuatorFields.ofJoint joint).shared := by
    cases joint <;> rfl
  have read : ∀ v ∈ s.named joint timestep,
      (data.fill (s.entries joint timestep)).outbound.getNat v.1 = v.2 := by
    intro v mem
    refine (data.outbound.getNat_fill ?_ ?_ (s.named_subset_entries _ _ mem)).trans
      (Nat.mod_eq_of_lt (s.named_fit joint timestep v mem))
    · rw [s.fields_entries]
      exact joint.kind.fields_apart
    · rw [s.fields_entries]
      intro f own
      exact Nat.le_trans (joint.kind.fields_fit own).2 joint.kind.layout_valid.2.2.2
  calc joint.telemetry (data.fill (s.entries joint timestep)).outbound
      = ((s.named joint timestep).map Prod.fst).map
          (data.fill (s.entries joint timestep)).outbound.getNat := by rw [fields, Joint.telemetry]
    _ = (s.named joint timestep).map Prod.snd := by
        rw [List.map_map]
        exact List.map_congr_left read
    _ = s.shown timestep := by cases joint <;> rfl

end Device

/-! ### A pass -/

namespace Controller

variable {c c' : Controller SimBoard} {joint : Joint} {m : Actuator.Monitor}

/-- **After a cycle the master reads by name what was sampled in it.** -/
theorem telemetry_syncCycle (made : c.device = .actuator joint m)
    (layout : c.data.layout = joint.kind.layout) (edge : Edge) :
    joint.telemetry (c.syncCycle edge).board.tx =
      ((c.accountEdge edge).board.actuatorReadings m.motorEncoder).sample.shown
        (timestepOfNanos (Board.sinceEdge (c.accountEdge edge).board)) := by
  have sampled : (c.inputsSampled edge).data = c.data.fill ((Device.sampleTelemetry joint
      ((c.accountEdge edge).board.actuatorReadings m.motorEncoder).sample
      (timestepOfNanos (Board.sinceEdge (c.accountEdge edge).board))).map
        ProcessData.Item.written) := by
    have accounted : (c.accountEdge edge).device = .actuator joint m := made
    unfold inputsSampled
    rw [sampleInputs_actuator accounted layout]
    rfl
  rw [← Device.telemetry_sampleTelemetry joint c.data, ← sampled]
  exact List.map_congr_left fun f mem => getNat_syncCycle layout edge (joint.shared_subset f mem)

theorem Kin.telemetry_syncCycle (h : c.Kin c') (edge : Edge)
    (works : c.board.encoderFaults.get .motor = false) :
    Joint.leg.telemetry (c.syncCycle edge).board.tx =
      Joint.hip.telemetry (c'.syncCycle edge).board.tx := by
  obtain ⟨m, -, leg, hip⟩ := h.device.found
  have accounted := h.accountEdge edge
  have readings := SimBoard.kin_readings m.motorEncoder accounted.board
    fun _ => by rwa [encoderFaults_accountEdge]
  rw [Controller.telemetry_syncCycle leg h.data.leg, Controller.telemetry_syncCycle hip h.data.hip,
    accounted.sinceEdge]
  have same := congrArg (Actuator.Sample.shown · (timestepOfNanos
    (Board.sinceEdge (c.accountEdge edge).board))) readings.sample
  exact same.symm

/-- A pass that runs no cycle publishes nothing. -/
theorem tx_rest (none : c.edge? = none) : c.poll.2.board.tx = c.board.tx := by
  have pass := c.poll_pass
  generalize c.poll.1 = outcome, c.poll.2 = c' at pass
  cases pass with
  | expires => exact congrArg Prod.fst c.unreported_expires.published
  | @syncs _ edge alive cycle =>
      rw [edge?, cycle] at none
      exact absurd none (Option.some_ne_none edge)
  | waits => exact congrArg Prod.fst c.unreported_waits.published

theorem Kin.telemetry_poll (h : c.Kin c')
    (works : c.edge? ≠ none → c.board.encoderFaults.get .motor = false)
    (before : Joint.leg.telemetry c.board.tx = Joint.hip.telemetry c'.board.tx) :
    Joint.leg.telemetry c.poll.2.board.tx = Joint.hip.telemetry c'.poll.2.board.tx := by
  have same := h.edge?
  cases observed : c.edge? with
  | none =>
      rw [tx_rest observed, tx_rest (same.trans observed)]
      exact before
  | some edge =>
      obtain ⟨rest, queue, cycle⟩ := poll_of_observed observed
      obtain ⟨rest', queue', cycle'⟩ := poll_of_observed (same.trans observed)
      obtain rfl : rest' = rest := by
        have edges := h.board.edges
        rw [queue, queue'] at edges
        exact (List.cons.inj edges).2
      rw [cycle, cycle']
      refine (h.onBoards (h.board.setEdges rest')).telemetry_syncCycle edge (works ?_)
      rw [observed]
      exact Option.some_ne_none edge

/-! ### The start -/

/-- What a joint says before its first cycle. -/
def unsampled (joint : Joint) : ProcessData :=
  (ProcessData.ofLayout joint.kind.layout).fill
    ((Device.ofKind joint.kind {}).firstTelemetry.map ProcessData.Item.written)

/-- A joint that has been set up. -/
def launched (config : Config) (joint : Joint) (b : SimBoard) : Controller SimBoard :=
  let selected := Journal.note (.deviceSelected config.device.id joint.kind) b
  (assembled config joint.kind (unsampled joint) (selected.setAmplifier false)).publish.note
    (.controllerReady config.device.id joint.kind.layout config.device.cycleTime.toNat)

theorem start_joint (config : Config) (joint : Joint)
    (named : config.device.id.kind? = some joint.kind) (b : SimBoard) :
    (start config b).1 =
      if b.amplifierReject then .error (.hardware (.actuatorFault "current command rejected"))
      else .ok (launched config joint b) := by
  have setUp : (Device.ofKind joint.kind config.limits).setUp (.ofLayout joint.kind.layout)
      (Journal.note (.deviceSelected config.device.id joint.kind) b) =
      (if b.amplifierReject then .error (.actuatorFault "current command rejected")
        else .ok (unsampled joint),
        (Journal.note (.deviceSelected config.device.id joint.kind) b).setAmplifier false) := by
    obtain ⟨m, made⟩ : ∃ m, Device.ofKind joint.kind config.limits = .actuator joint m := by
      cases joint <;> exact ⟨_, rfl⟩
    have first : unsampled joint = (ProcessData.ofLayout joint.kind.layout).fill
        ((Device.actuator joint m).firstTelemetry.map ProcessData.Item.written) := by
      cases joint <;> rfl
    have rejects : (Journal.note (.deviceSelected config.device.id joint.kind) b).amplifierReject =
        b.amplifierReject := rfl
    rw [made, Device.setUp_eq rfl, Device.powerUp_actuator, rejects, first]
    cases b.amplifierReject <;> rfl
  unfold start
  simp only [named, setUp]
  cases b.amplifierReject <;> rfl

theorem telemetry_launched (config : Config) (joint : Joint) (b : SimBoard) :
    joint.telemetry (launched config joint b).board.tx =
      joint.telemetry (unsampled joint).outbound := by
  have layout : (unsampled joint).layout = joint.kind.layout := by cases joint <;> rfl
  exact List.map_congr_left fun f mem =>
    getNat_assembled layout _ (joint.shared_subset f mem)

/-- A leg and a hip that start under configurations that differ in the identity. -/
theorem kin_launched (config : Config) (leg hip : Identity) (b : SimBoard) :
    (launched (config.identified leg) .leg b).Kin (launched (config.identified hip) .hip b) := by
  have unseen : (Actuator.Monitor.ofLimits config.limits true).Seen := nofun
  have off : SimBoard.Like
      ((Journal.note (.deviceSelected leg .leg) b).setAmplifier false)
      ((Journal.note (.deviceSelected hip .hip) b).setAmplifier false) := rfl
  have device : Device.Kin (launched (config.identified leg) .leg b).device
      (launched (config.identified hip) .hip b).device := .mk unseen
  exact ⟨⟨device, (off.send _ _).noteAll [_] [_]⟩,
    ⟨layout_assembled _ _ _ _ _, layout_assembled _ _ _ _ _, rfl, rfl, rfl⟩, rfl⟩

/-- What is left of a leg without its encoder on the motor side, under no identity and with nothing
published and reported.  Of a hip as much is left. -/
def oneSided (c : Controller SimBoard) : Controller SimBoard :=
  { c with
    board := c.board.hushed
    device := c.device.oneSided
    data := { c.data with layout := Kind.hip.layout, outbound := .zero }
    id := ⟨0⟩ }

theorem Kin.oneSided (h : c.Kin c') : c.oneSided = c'.oneSided := by
  obtain ⟨m, -, leg, hip⟩ := h.device.found
  have device : c.device.oneSided = c'.device.oneSided := by
    rw [leg, hip]
    exact congrArg (Device.actuator .hip) m.oneSided_oneSided.symm
  have board : c.board.hushed = c'.board.hushed := h.board
  have data : ({ c.data with layout := Kind.hip.layout, outbound := .zero } : ProcessData) =
      { c'.data with layout := Kind.hip.layout, outbound := .zero } := by
    simp only [h.data.inbound, h.data.counts]
  unfold Controller.oneSided
  rw [device, board, data, h.rest]

end Controller

/-! ### Runs -/

namespace Simulation.Station

/-- No cycle of a run meets a broken encoder on the motor side. -/
def MotorEncoderWorks (s : Station) (run : List Move) : Prop :=
  ∀ broken ∈ s.gather (fun c => c.edge?.map fun _ => c.board.encoderFaults.get .motor) run,
    broken = false

instance (s : Station) (run : List Move) : Decidable (s.MotorEncoderWorks run) :=
  inferInstanceAs (Decidable (∀ broken ∈ _, broken = false))

/-- A leg and a hip that are kin, under one master who reads the same from both. -/
structure Kin (s s' : Station) : Prop where
  controller : s.controller.Kin s'.controller
  master : s.master = s'.master
  telemetry : Joint.leg.telemetry s.board.tx = Joint.hip.telemetry s'.board.tx

variable {s s' : Station}

theorem Kin.act (h : s.Kin s') (action : Action) : (s.act action).Kin (s'.act action) := by
  obtain ⟨like, master⟩ := h.controller.board.act s.master action
  have same : (⟨s'.board, s'.master⟩ : Rig) = ⟨s'.board, s.master⟩ := by rw [h.master]
  refine ⟨?_, ?_, ?_⟩
  · unfold Station.act
    rw [same]
    exact h.controller.onBoards like
  · unfold Station.act
    rw [same]
    exact master
  · rw [tx_act, tx_act]
    exact h.telemetry

/-- All that is seen of a joint: what is left of it without its encoder on the motor side, and what
a master reads in its record. -/
def likeness (joint : Joint) (c : Controller SimBoard) : Controller SimBoard × List Nat :=
  (c.oneSided, joint.telemetry c.board.tx)

/-- The outcome of every pass of a run, and what is seen of the joint behind it. -/
def passes (joint : Joint) (s : Station) (run : List Move) :
    List (Except Expiry Outcome × Controller SimBoard × List Nat) :=
  s.gather (fun c => some (c.poll.1, likeness joint c.poll.2)) run

/-- What is seen of a joint from its start to the end of a run. -/
def life (joint : Joint) (s : Station) (run : List Move) :
    (Controller SimBoard × List Nat) ×
      List (Except Expiry Outcome × Controller SimBoard × List Nat) :=
  (likeness joint s.controller, s.passes joint run)

theorem passes_poll (joint : Joint) (s : Station) (rest : List Move) :
    s.passes joint (.poll :: rest) =
      (s.controller.poll.1, likeness joint s.controller.poll.2) :: s.poll.2.passes joint rest := rfl

theorem Kin.likeness (h : s.Kin s') :
    Station.likeness .leg s.controller = Station.likeness .hip s'.controller := by
  unfold Station.likeness
  rw [h.controller.oneSided]
  exact congrArg (Prod.mk _) h.telemetry

theorem Kin.poll (h : s.Kin s')
    (works : s.controller.edge? ≠ none → s.board.encoderFaults.get .motor = false) :
    s.poll.2.Kin s'.poll.2 ∧ s.poll.1 = s'.poll.1 := by
  obtain ⟨kin, outcome⟩ := h.controller.poll works
  exact ⟨⟨kin, h.master, h.controller.telemetry_poll works h.telemetry⟩, outcome⟩

/-- **Kin go through the same passes as long as the encoder on the motor side works.** -/
theorem Kin.passes (h : s.Kin s') {run : List Move} (works : s.MotorEncoderWorks run) :
    s.passes .leg run = s'.passes .hip run := by
  induction run generalizing s s' with
  | nil => rfl
  | cons move rest ih =>
      cases move with
      | act action => exact ih (h.act action) works
      | poll =>
          obtain ⟨now, later⟩ := List.forall_mem_append.mp works
          obtain ⟨kin, outcome⟩ := h.poll fun observed => by
            obtain ⟨edge, observed⟩ := Option.ne_none_iff_exists'.mp observed
            exact now _ (by simp [observed, Station.board])
          have outcome : s.controller.poll.1 = s'.controller.poll.1 := outcome
          have behind : Station.likeness .leg s.controller.poll.2 =
              Station.likeness .hip s'.controller.poll.2 := kin.likeness
          rw [passes_poll, passes_poll, outcome, behind, ih kin later]

/-- A joint starts unless its amplifier refuses a current of zero. -/
theorem start_joint (config : Config) (joint : Joint)
    (named : config.device.id.kind? = some joint.kind) (rig : Rig) :
    start config rig =
      if rig.board.amplifierReject then
        .error (.hardware (.actuatorFault "current command rejected"))
      else .ok ⟨Controller.launched config joint rig.board, rig.master⟩ := by
  have started := Controller.start_joint config joint named rig.board
  unfold start
  generalize Controller.start config rig.board = p at started
  obtain ⟨found, b⟩ := p
  obtain rfl : found = _ := started
  cases rig.board.amplifierReject <;> rfl

/--
**A hip is a leg without the encoder on the motor side.**

A leg and a hip start on the same rig, under configurations that differ in nothing but the
identity, and the same happens to both: the master commands the same states and currents,
the same sensors show the same values and fail at the same times, and both are polled alike.
Then either fails to start exactly if the other does, and with the same error.  If no cycle
of the leg meets a broken encoder on the motor side, every pass of the one has the outcome
that it has in the other.  It leaves the same node, with its state, its history, its
supervisor and its flags, on the same board, with its amplifier, its motor current and its
watchdog; and what a master reads under the names that both joints have is the same.
-/
theorem hip_is_leg_without_motor_encoder (config : Config) {leg hip : Identity}
    (named : leg.kind? = some .leg) (named' : hip.kind? = some .hip) (rig : Rig)
    (run : List Move)
    (works : ∀ s, start (config.identified leg) rig = .ok s → s.MotorEncoderWorks run) :
    (start (config.identified leg) rig).map (life .leg · run) =
      (start (config.identified hip) rig).map (life .hip · run) := by
  have legStart := start_joint (config.identified leg) .leg named rig
  have hipStart := start_joint (config.identified hip) .hip named' rig
  cases refused : rig.board.amplifierReject with
  | true =>
      rw [legStart, hipStart, refused]
      rfl
  | false =>
      rw [refused] at legStart hipStart
      have kin : Kin ⟨Controller.launched (config.identified leg) .leg rig.board, rig.master⟩
          ⟨Controller.launched (config.identified hip) .hip rig.board, rig.master⟩ := by
        refine ⟨Controller.kin_launched config leg hip rig.board, rfl, ?_⟩
        show Joint.leg.telemetry (Controller.launched _ _ _).board.tx =
          Joint.hip.telemetry (Controller.launched _ _ _).board.tx
        rw [Controller.telemetry_launched, Controller.telemetry_launched]
        decide +kernel
      have same := congr (congrArg Prod.mk kin.likeness) (kin.passes (works _ legStart))
      rw [legStart, hipStart]
      exact congrArg Except.ok same

/-- A run with a current and a switch pressed, on a joint that has turned and grown warm. -/
def strained : List Move :=
  [.act (.command State.run.toByte), .act (.setInbound Inbound.motorCurrent .i32 1200),
    .act (.encoder .output 16777300), .act (.thermistor 1 1700), .act .step, .poll,
    .act (.limitSwitches 4), .act .step, .act (.advance 120000), .poll]

/-- Both joints run, and the master reads the same from both. -/
theorem hip_is_leg_without_motor_encoder_strained :
    ∃ s s', start (legConfig.identified ⟨0x10⟩) (.fresh legConfig.safety 1000000) = .ok s ∧
      start (legConfig.identified ⟨0x20⟩) (.fresh legConfig.safety 1000000) = .ok s' ∧
      s.MotorEncoderWorks strained ∧ (s.moves strained).state = .run ∧
      (s.moves strained).board.motorCurrent = 1200 ∧
      Joint.leg.telemetry (s.moves strained).board.tx =
        [4, 16777300, 120, 1500, 1700, 1500, 2800, 3000] ∧
      s.life .leg strained = s'.life .hip strained := by
  obtain ⟨s, started, works, running, driven, shown⟩ :
      ∃ s, start (legConfig.identified ⟨0x10⟩) (.fresh legConfig.safety 1000000) = .ok s ∧
        s.MotorEncoderWorks strained ∧ (s.moves strained).state = .run ∧
        (s.moves strained).board.motorCurrent = 1200 ∧
        Joint.leg.telemetry (s.moves strained).board.tx =
          [4, 16777300, 120, 1500, 1700, 1500, 2800, 3000] := by
    refine ⟨_, rfl, ?_, ?_, ?_, ?_⟩ <;> decide +kernel
  obtain ⟨s', started'⟩ : ∃ s',
      start (legConfig.identified ⟨0x20⟩) (.fresh legConfig.safety 1000000) = .ok s' := ⟨_, rfl⟩
  have leg : (⟨0x10⟩ : Identity).kind? = some .leg := rfl
  have hip : (⟨0x20⟩ : Identity).kind? = some .hip := rfl
  have same := hip_is_leg_without_motor_encoder legConfig leg hip (.fresh legConfig.safety 1000000)
    strained fun t found => by
      obtain rfl := Except.ok.inj (started.symm.trans found)
      exact works
  rw [started, started'] at same
  exact ⟨s, s', started, started', works, running, driven, shown, Except.ok.inj same⟩

end Simulation.Station
end FieldbusNode
