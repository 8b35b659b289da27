/-
Runs of a station.

A node on a simulated board meets actions from outside and its own passes of the
loop, in any order.  Whatever their order, its device and its board stay sound:
each phase of a cycle keeps them so, a tick does, and the rest of a pass hardly
touches them.

A run may start on a rig that has been acted on before the node was there.
-/
import FieldbusNode.Config.Validation
import FieldbusNode.Proofs.Phases
import FieldbusNode.Simulation.Station
namespace FieldbusNode

open Simulation (SimBoard Rig Station Move)

variable {limits : Limits} {kind : Kind}

/-! ### A pass -/

namespace Controller

variable {c : Controller SimBoard}

/-- A cycle of the next pass runs for the oldest edge. -/
theorem eq_of_cycle? {ready : Controller SimBoard} {edge : Edge}
    (h : c.cycle? = some (ready, edge)) : ∃ rest,
      c.board.latchWatchdog.watchdogExpired = false ∧
        c.board.latchWatchdog.edges = edge :: rest ∧
        ready = { c with board := { c.board.latchWatchdog with edges := rest } } := by
  have looked : Board.expired c.board =
      (c.board.latchWatchdog.watchdogExpired, c.board.latchWatchdog) := rfl
  have awaited : Board.awaitEdge c.idlePoll c.board.latchWatchdog =
      c.board.latchWatchdog.awaitEdge c.idlePoll := rfl
  cases expired : c.board.latchWatchdog.watchdogExpired with
  | true => simp [cycle?, looked, expired] at h
  | false =>
      cases queue : c.board.latchWatchdog.edges with
      | nil => simp [cycle?, looked, expired, awaited, SimBoard.awaitEdge, queue] at h
      | cons first rest =>
          simp only [cycle?, looked, expired, awaited, SimBoard.awaitEdge, queue,
            Bool.false_eq_true, if_false, Option.some.injEq, Prod.mk.injEq] at h
          obtain ⟨rfl, rfl⟩ := h
          exact ⟨rest, rfl, rfl, by simp only [expired]⟩

theorem quiet_cycle? {ready : Controller SimBoard} {edge : Edge}
    (h : c.cycle? = some (ready, edge)) : Quiet c ready := by
  obtain ⟨rest, -, -, rfl⟩ := eq_of_cycle? h
  exact quiet_of_wiring c (SimBoard.wiring_latchWatchdog c.board)

/-- A pass without an edge is quiet. -/
theorem quiet_waits (c : Controller SimBoard) : Quiet c
    { c with board := (Board.awaitEdge c.idlePoll (Board.expired c.board).2).2 }.idlePass := by
  have waited := (SimBoard.wiring_awaitEdge c.board.latchWatchdog c.idlePoll).trans
    (SimBoard.wiring_latchWatchdog c.board)
  exact (quiet_of_wiring c waited).trans (quiet_idlePass _)

theorem sound_syncCycle (h : c.mounted.Sound limits kind) (edge : Edge) :
    (c.syncCycle edge).mounted.Sound limits kind := by
  have ready := (c.quiet_readied edge).sound h
  have ticked := (c.readied edge).tick_way.keeps Mounted.sound_keeps ready
  rw [syncCycle_eq]
  exact (quiet_recordCycle _ edge _).sound ticked

theorem sound_expire (h : c.mounted.Sound limits kind) : c.expire.2.mounted.Sound limits kind := by
  have stopped := Mounted.sound_keeps.estop c.mounted h
  exact Mounted.sound_keeps.note _ _ (Mounted.sound_keeps.assertLine _ stopped)

theorem Pass.sound {outcome : Except Expiry Outcome} {c' : Controller SimBoard}
    (pass : Pass c outcome c') (h : c.mounted.Sound limits kind) :
    c'.mounted.Sound limits kind := by
  cases pass with
  | expires =>
      exact sound_expire ((quiet_of_wiring c (SimBoard.wiring_latchWatchdog c.board)).sound h)
  | syncs alive cycle => exact sound_syncCycle ((quiet_cycle? cycle).sound h) _
  | waits => exact c.quiet_waits.sound h

end Controller

/-! ### The start -/

namespace Device

/-- A device that has just been chosen follows its limits, and its outputs are off. -/
theorem follows_ofKind (kind : Kind) (limits : Limits) :
    (ofKind kind limits).kind = kind ∧ (ofKind kind limits).Follows limits ∧
      (ofKind kind limits).outputsEnabled = false := by
  cases kind with
  | leg | hip => exact ⟨rfl, ⟨rfl, rfl, rfl⟩, rfl⟩
  | boom => exact ⟨rfl, rfl, rfl⟩
  | imu => exact ⟨rfl, trivial, rfl⟩

/-- An actuator switches its amplifier off and fails if the amplifier refuses a current of zero. -/
theorem powerUp_actuator (joint : Joint) (m : Actuator.Monitor) (b : SimBoard) :
    (Device.actuator joint m).powerUp b =
      (if b.amplifierReject then .error (.actuatorFault "current command rejected") else .ok (),
        b.setAmplifier false) := by
  have switched : Hardware.setAmplifier false b = (.ok (), b.setAmplifier false) := rfl
  have same : (b.setAmplifier false).amplifierReject = b.amplifierReject := rfl
  cases rejected : b.amplifierReject with
  | true =>
      simp only [powerUp, switched, SimBoard.setCurrent_of_rejecting 0 (same.trans rejected),
        if_true]
  | false =>
      simp only [powerUp, switched, SimBoard.setCurrent_of_accepting 0 (same.trans rejected)]
      rfl

section SetUp

variable {β : Type} [Hardware β] {d : Device} {data data' : ProcessData} {b b' : β}

/-- A device is set up once its hardware is, and then it reports. -/
theorem of_setUp (h : d.setUp data b = (.ok data', b')) : ∃ ready,
    d.powerUp b = (.ok (), ready) ∧ data.report d.firstTelemetry ready = (data', b') := by
  unfold setUp at h
  split at h
  · cases (Prod.mk.inj h).1
  · rename_i ready powered
    obtain ⟨reported, rfl⟩ := Prod.mk.inj h
    exact ⟨ready, powered, Prod.ext (Except.ok.inj reported) rfl⟩

theorem outbound_setUp (h : d.setUp data b = (.ok data', b')) :
    data' = { data with outbound := data'.outbound } := by
  obtain ⟨ready, -, reported⟩ := of_setUp h
  have outbound := data.outbound_report d.firstTelemetry ready
  rwa [reported] at outbound

theorem layout_setUp (h : d.setUp data b = (.ok data', b')) : data'.layout = data.layout := by
  rw [outbound_setUp h]

/-- Behind the hardware a set-up has only failed checks to tell. -/
theorem setUp_leaves {α : Type} {f : β → α} (trap : ∀ (t : Trap) (b : β), f (Journal.trap t b) = f b)
    (d : Device) (data : ProcessData) (b : β) : f (d.setUp data b).2 = f (d.powerUp b).2 := by
  unfold setUp
  split
  · rename_i e ready powered
    rw [powered]
  · rename_i ready powered
    rw [powered]
    exact data.report_leaves d.firstTelemetry ready trap

end SetUp

theorem amplifier_setUp (device : Device) (data : ProcessData) {b : SimBoard}
    (off : b.amplifier = (false, 0)) : (device.setUp data b).2.amplifier = (false, 0) := by
  rw [setUp_leaves (f := SimBoard.amplifier) (fun _ _ => rfl)]
  cases device with
  | boom | imu => exact off
  | actuator joint m =>
      rw [powerUp_actuator]
      rfl

end Device

namespace Controller

/-- A controller that has just started under a configuration, as a device of a kind. -/
structure Begins (config : Config) (kind : Kind) (c : Controller SimBoard) : Prop where
  named : config.device.id.kind? = some kind
  sound : c.mounted.Sound config.limits kind
  off : c.board.amplifierEnabled = false
  layout : c.data.layout = kind.layout
  machine : c.machine = .ofConfig config.safety

/-- The controller of a device that is set up, before it announces itself. -/
def assembled (config : Config) (kind : Kind) (data : ProcessData) (b : SimBoard) :
    Controller SimBoard :=
  let device := Device.ofKind kind config.limits
  { board := b
    device
    data := data.writeHeader config.device.id .idle 0 device.flags
    machine := .ofConfig config.safety
    id := config.device.id
    counter := 0
    statistics := .zero
    cycleTime := Duration.ofMicros config.device.cycleTime.toNat
    idlePoll := Duration.ofMicros config.device.idlePoll.toNat
    lastSequence := none }

theorem layout_assembled (config : Config) (kind : Kind) (data : ProcessData) (b : SimBoard)
    (e : Event) : ((assembled config kind data b).publish.note e).data.layout = data.layout := by
  simp only [note, publish, ProcessData.layout_published, assembled, ProcessData.layout_writeHeader]

/-- A controller that starts has found its kind and set up the device. -/
theorem eq_of_start {config : Config} {b b' : SimBoard} {c : Controller SimBoard}
    (h : start config b = (.ok c, b')) : ∃ kind data board,
      config.device.id.kind? = some kind ∧
      (Device.ofKind kind config.limits).setUp (.ofLayout kind.layout)
        (Journal.note (.deviceSelected config.device.id kind) b) = (.ok data, board) ∧
      c = (assembled config kind data board).publish.note
        (.controllerReady config.device.id kind.layout config.device.cycleTime.toNat) := by
  unfold start at h
  cases named : config.device.id.kind? with
  | none => simp [named] at h
  | some kind =>
      simp only [named] at h
      split at h
      · simp at h
      rename_i data board setUp
      simp only [Prod.mk.injEq, Except.ok.injEq] at h
      exact ⟨kind, data, board, rfl, setUp, h.1.symm⟩

theorem begins_of_start {config : Config} (valid : config.limits.Valid) {b b' : SimBoard}
    (off : b.amplifier = (false, 0)) {c : Controller SimBoard}
    (h : start config b = (.ok c, b')) : ∃ kind, Begins config kind c := by
  obtain ⟨kind, data, board, named, setUp, rfl⟩ := eq_of_start h
  have selected : (Journal.note (.deviceSelected config.device.id kind) b).amplifier =
      (false, 0) := off
  have amplifier :=
    (Device.ofKind kind config.limits).amplifier_setUp (.ofLayout kind.layout) selected
  rw [setUp] at amplifier
  obtain ⟨same, follows, idle⟩ := Device.follows_ofKind kind config.limits
  have positive : 0 ≤ config.limits.maxMotorCurrent.toInt :=
    Int.le_of_lt (Int.lt_of_lt_of_le valid.haltClamp valid.clamp)
  have enabled : board.amplifierEnabled = false := congrArg Prod.fst amplifier
  have current : board.motorCurrent = 0 := congrArg Prod.snd amplifier
  have sound : Mounted.Sound config.limits kind ⟨.ofKind kind config.limits, board⟩ := by
    refine ⟨same, follows, idle.trans enabled.symm, fun _ => current, ?_, ?_⟩
    · simp only [current, Int32.toInt_zero]
      omega
    · simp only [current, Int32.toInt_zero]
      exact positive
  have announced (c : Controller SimBoard) (e : Event) : Quiet c (c.publish.note e) :=
    (quiet_publish c).trans (quiet_note c.publish e)
  have layout := layout_assembled config kind data board
    (.controllerReady config.device.id kind.layout config.device.cycleTime.toNat)
  exact ⟨kind, named, (announced _ _).sound sound, enabled,
    layout.trans (Device.layout_setUp setUp), rfl⟩

end Controller

/-! ### Runs -/

namespace Simulation.Station

/-- What the passes of a run yield, in order. -/
def gather {α : Type} (yield : Controller SimBoard → Option α) (s : Station) : List Move → List α
  | [] => []
  | .act action :: rest => (s.act action).gather yield rest
  | .poll :: rest => (yield s.controller).toList ++ s.poll.2.gather yield rest

section Gather

variable {α : Type} {yield : Controller SimBoard → Option α}

theorem gather_append (s : Station) (a b : List Move) :
    s.gather yield (a ++ b) = s.gather yield a ++ (s.moves a).gather yield b := by
  induction a generalizing s with
  | nil => rfl
  | cons move rest ih =>
      cases move with
      | act action => exact ih (s.act action)
      | poll =>
          rw [List.cons_append, gather, gather, ih, List.append_assoc]
          rfl

/-- **A yield is found again by cutting the run before the pass it comes from.** -/
theorem gather_split {s : Station} {run : List Move} {earlier later : List α} {k : α}
    (h : s.gather yield run = earlier ++ k :: later) : ∃ before after,
      run = before ++ .poll :: after ∧ s.gather yield before = earlier ∧
        yield (s.moves before).controller = some k := by
  induction run generalizing s earlier with
  | nil => simp [gather] at h
  | cons move rest ih =>
      cases move with
      | act action =>
          obtain ⟨before, after, rfl, told, next⟩ := ih h
          exact ⟨.act action :: before, after, rfl, told, next⟩
      | poll =>
          rw [gather] at h
          cases told : yield s.controller with
          | none =>
              rw [told] at h
              obtain ⟨before, after, rfl, earlier, next⟩ := ih h
              refine ⟨.poll :: before, after, rfl, ?_, next⟩
              rw [gather, told]
              exact earlier
          | some first =>
              rw [told] at h
              cases earlier with
              | nil =>
                  obtain rfl : first = k := (List.cons.inj h).1
                  exact ⟨[], rest, rfl, rfl, told⟩
              | cons _ earlier =>
                  obtain ⟨rfl, tail⟩ := List.cons.inj h
                  obtain ⟨before, after, rfl, same, next⟩ := ih (s := s.poll.2) tail
                  refine ⟨.poll :: before, after, rfl, ?_, next⟩
                  rw [gather, told]
                  exact congrArg (List.cons first) same

/-- What is kept by actions and by passes, with what the passes yield, is kept along a run. -/
theorem gather_keeps {P : List α → Station → Prop} {s : Station}
    (act : ∀ seen s action, P seen s → P seen (s.act action))
    (poll : ∀ seen s, P seen s → P (seen ++ (yield s.controller).toList) s.poll.2)
    {seen : List α} (start : P seen s) (run : List Move) :
    P (seen ++ s.gather yield run) (s.moves run) := by
  induction run generalizing s seen with
  | nil =>
      rw [gather, List.append_nil]
      exact start
  | cons move rest ih =>
      cases move with
      | act action => exact ih (act seen s action start)
      | poll =>
          rw [gather, ← List.append_assoc]
          exact ih (poll seen s start)

end Gather

/-- What is kept by actions and by passes is kept along a run. -/
theorem moves_keeps {P : Station → Prop} {s : Station}
    (act : ∀ s action, P s → P (s.act action)) (poll : ∀ s, P s → P s.poll.2) (start : P s)
    (run : List Move) : P (s.moves run) := by
  induction run generalizing s with
  | nil => exact start
  | cons move rest ih =>
      cases move with
      | act action => exact ih (act s action start)
      | poll => exact ih (poll s start)

/-- The controller of a station starts on the board of the rig. -/
theorem controller_of_start {config : Config} {rig : Rig} {s : Station}
    (h : start config rig = .ok s) :
    ∃ b, Controller.start config rig.board = (.ok s.controller, b) ∧ s.master = rig.master := by
  unfold start at h
  split at h
  · rename_i controller board found
    obtain rfl := Except.ok.inj h
    exact ⟨board, found, rfl⟩
  · nomatch h

theorem ok_of_toOption {e : Except Expiry Outcome} {outcome : Outcome}
    (h : e.toOption = some outcome) : e = .ok outcome := by
  cases e with
  | ok found => rw [Option.some.inj h]
  | error expiry => nomatch h

/-- A station that has just started, on a rig that has only been acted on so far. -/
def Started (config : Config) (s : Station) : Prop :=
  ∃ period before, start config ((Rig.fresh config.safety period).run before) = .ok s

theorem Started.begins {config : Config} (valid : config.limits.Valid) {s : Station}
    (started : Started config s) : ∃ kind, s.controller.Begins config kind := by
  obtain ⟨period, before, h⟩ := started
  have off : ((Rig.fresh config.safety period).run before).board.amplifier = (false, 0) :=
    Rig.amplifier_run _ before
  obtain ⟨_, found, -⟩ := controller_of_start h
  exact Controller.begins_of_start valid off found

theorem sound_move {s : Station} (h : s.controller.mounted.Sound limits kind) (move : Move) :
    (s.move move).controller.mounted.Sound limits kind := by
  cases move with
  | poll => exact s.controller.poll_pass.sound h
  | act action => exact h.congr rfl (fun follows => follows) rfl (Rig.amplifier_act _ action)

/-- **No run unsettles a device and its board.** -/
theorem sound_moves {s : Station} (h : s.controller.mounted.Sound limits kind) (run : List Move) :
    (s.moves run).controller.mounted.Sound limits kind := by
  induction run generalizing s with
  | nil => exact h
  | cons move rest ih => exact ih (sound_move h move)

/-- A node keeps its kind of device. -/
theorem Started.device_moves {config : Config} (valid : config.limits.Valid) {s : Station}
    {joint : Joint} (started : Started config s)
    (named : config.device.id.kind? = some joint.kind) (run : List Move) :
    ∃ m, (s.moves run).controller.device = .actuator joint m := by
  obtain ⟨kind, begins⟩ := started.begins valid
  obtain rfl : joint.kind = kind := Option.some.inj (named.symm.trans begins.named)
  exact (sound_moves begins.sound run).actuator

end Simulation.Station
end FieldbusNode
