/-
Counters that only count up.

A node counts what it does in many places, and none of the counters is ever set back.  They
do not count at will: a cycle counts once in each of them, a pass without an edge counts in
two, and nothing else counts at all.  So they are all known from two of them, the cycles and
the passes without an edge (`Controller.Tallied`), and these two together are no more than
the passes there were.

One counter is different.  What the frames of an inertial sensor skip is added up, and a
single frame can skip up to 127.
-/
import FieldbusNode.Proofs.Backlog
import FieldbusNode.Proofs.Calm
import FieldbusNode.Proofs.Telemetry
import FieldbusNode.Proofs.Tick.Grounds
namespace FieldbusNode

open Simulation (SimBoard Rig Action Station Move steps)

/-! ### Devices -/

theorem Imu.skipped_le (expected sequence : UInt8) : (skipped expected sequence).toNat ≤ 127 := by
  unfold skipped
  rw [UInt8.toNat_and]
  exact Nat.and_le_right

/-- A unit that has looked for so many frames. -/
structure Imu.Tallied (frames : Nat) (unit : Imu) : Prop where
  rejected : unit.framesRejected ≤ frames
  gaps : unit.sequenceGaps ≤ 127 * frames
  buffer : unit.buffer.length = Inertial.frameLength

theorem Imu.Tallied.observe {frames : Nat} {unit : Imu} (h : unit.Tallied frames)
    (bytes : List UInt8) : (unit.observe (.ok bytes)).1.Tallied (frames + 1) := by
  obtain ⟨rejected, gaps, buffer⟩ := h
  have short : (bytes.take Inertial.frameLength).length ≤ Inertial.frameLength := by
    rw [List.length_take]
    exact Nat.min_le_left _ _
  have stored : (unit.store (bytes.take Inertial.frameLength)).buffer.length =
      Inertial.frameLength := by
    unfold store
    rw [List.length_append, List.length_drop, buffer]
    omega
  unfold Imu.observe
  dsimp only
  split
  · rename_i s _
    refine ⟨Nat.le_succ_of_le rejected, ?_, stored⟩
    have skips : (((unit.store (bytes.take Inertial.frameLength)).gap? s.sequence).map
        (·.2.toNat)).getD 0 ≤ 127 := by
      unfold gap?
      split
      · split
        · exact Nat.zero_le _
        · exact skipped_le _ _
      · exact Nat.zero_le _
    have same : (unit.store (bytes.take Inertial.frameLength)).sequenceGaps =
      unit.sequenceGaps := rfl
    unfold accept
    dsimp only
    omega
  · refine ⟨Nat.succ_le_succ rejected, ?_, stored⟩
    exact Nat.le_trans gaps (Nat.mul_le_mul_left _ (Nat.le_succ frames))

/-- What a device counts, after so many cycles. -/
def Device.Tallied (cycles : Nat) : Device → Prop
  | .imu unit => unit.Tallied cycles
  | .actuator .. | .boom _ => True

theorem Device.Tallied.sampled {cycles : Nat} {d : Device} (h : d.Tallied cycles) (b : SimBoard) :
    (d.sampled b).Tallied (cycles + 1) := by
  cases d with
  | actuator | boom => trivial
  | imu unit => exact Imu.Tallied.observe h _

/-- No hook counts anything for a device. -/
theorem Mounted.tallied_keeps (cycles : Nat) :
    Plant.Keeps fun p : Mounted SimBoard => p.device.Tallied cycles :=
  device_keeps (P := Device.Tallied cycles) (fun _ _ => trivial) (fun _ _ => trivial)
    fun _ _ h => ⟨h.rejected, h.gaps, h.buffer⟩

/-- A set-up asks an inertial sensor for at most one frame. -/
theorem Device.framesSent_powerUp (d : Device) (b : SimBoard) :
    (d.powerUp b).2.imu.framesSent ≤ b.imu.framesSent + 1 := by
  cases d with
  | actuator joint m =>
      rw [powerUp_actuator]
      exact Nat.le_succ _
  | boom => exact Nat.le_succ _
  | imu => exact Nat.le_refl _

/-! ### Passes -/

namespace Controller

variable {c : Controller SimBoard}

/-- Cycles, and passes without an edge. -/
def passes (c : Controller SimBoard) : Nat :=
  c.statistics.cycleCount + c.statistics.idlePolls

/-- Every counter of a controller against its cycles and its passes. -/
structure Tallied (c : Controller SimBoard) : Prop where
  layout : c.data.layout.Valid
  sent : c.board.txWrites = c.statistics.cycleCount + 1
  published : c.data.publishCount = c.statistics.cycleCount + 1
  ingested : c.data.ingestCount = c.statistics.cycleCount
  ticked : c.machine.ticks = c.statistics.cycleCount
  fed : c.board.feedCount ≤ c.passes
  overran : c.statistics.overruns ≤ c.statistics.cycleCount
  asked : c.board.imu.framesSent ≤ c.statistics.cycleCount + 1
  device : c.device.Tallied c.statistics.cycleCount

theorem counts_exchange (c : Controller SimBoard) :
    c.exchange.data.publishCount = c.data.publishCount + 1 ∧
      c.exchange.data.ingestCount = c.data.ingestCount + 1 := by
  unfold exchange publish ProcessData.ingest ProcessData.published ProcessData.writeHeader
  exact ⟨rfl, rfl⟩

/-- A cycle exchanges its records once. -/
theorem counts_readied (c : Controller SimBoard) (edge : Edge) :
    (c.readied edge).data.publishCount = c.data.publishCount + 1 ∧
      (c.readied edge).data.ingestCount = c.data.ingestCount + 1 := by
  have outbound := c.device.outbound_updateInputs (Board.sinceEdge (c.accountEdge edge).board)
    c.data (c.accountEdge edge).board
  have published := congrArg ProcessData.publishCount outbound
  have ingested := congrArg ProcessData.ingestCount outbound
  obtain ⟨publishes, ingests⟩ := counts_exchange
    ((c.accountEdge edge).sampleInputs (Board.sinceEdge (c.accountEdge edge).board))
  have exchanged : (c.readied edge).data = (c.exchanged edge).data := (c.settled_readied edge).data
  rw [exchanged]
  exact ⟨publishes.trans (congrArg (· + 1) published), ingests.trans (congrArg (· + 1) ingested)⟩

/-- A cycle asks an inertial sensor for at most one frame. -/
theorem framesSent_readied (c : Controller SimBoard) (edge : Edge) :
    (c.readied edge).board.imu.framesSent ≤ c.board.imu.framesSent + 1 := by
  let asked : SimBoard → Nat := fun b => b.imu.framesSent
  have accounted : asked (c.accountEdge edge).board = asked c.board :=
    accountEdge_leaves (f := asked) (fun _ _ => rfl) (fun _ _ => rfl) c edge
  have sampled (c : Controller SimBoard) (sinceEdge : Nat) :
      asked (c.sampleInputs sinceEdge).board = asked c.board :=
    c.device.updateInputs_leaves sinceEdge c.data c.board (f := asked) (fun _ _ => rfl)
      (fun _ _ => rfl) fun _ => rfl
  have after (c : Controller SimBoard) : asked c.afterExchange.board ≤ asked c.board + 1 := by
    unfold afterExchange
    cases device : c.device with
    | actuator | boom => exact Nat.le_succ _
    | imu => exact Nat.le_refl _
  have fed (b : SimBoard) : asked b.feed = asked b :=
    congrArg Simulation.Sensor.framesSent (SimBoard.imu_of_wiring (SimBoard.wiring_feed b))
  have noted (events : List Event) (b : SimBoard) : asked (Journal.noteAll events b) = asked b :=
    Journal.noteAll_leaves (f := asked) (fun _ _ => rfl) events b
  calc asked (c.readied edge).board = asked (c.exchanged edge).afterExchange.board :=
        (noted _ _).trans (fed _)
    _ ≤ asked (c.exchanged edge).board + 1 := after _
    _ = asked c.board + 1 := congrArg (· + 1) ((sampled _ _).trans accounted)

theorem framesSent_syncCycle (c : Controller SimBoard) (edge : Edge) :
    (c.syncCycle edge).board.imu.framesSent ≤ c.board.imu.framesSent + 1 := by
  rw [imu_syncCycle]
  exact c.framesSent_readied edge

theorem Tallied.syncCycle (h : c.Tallied) (edge : Edge) : (c.syncCycle edge).Tallied := by
  obtain ⟨layout, sent, published, ingested, ticked, fed, overran, asked, device⟩ := h
  obtain ⟨-, writes⟩ := published_readied c layout edge
  obtain ⟨publishes, ingests⟩ := c.counts_readied edge
  have cycles : (c.syncCycle edge).statistics.cycleCount = c.statistics.cycleCount + 1 := rfl
  have waits : (c.syncCycle edge).statistics.idlePolls = c.statistics.idlePolls := rfl
  refine ⟨?_, ?_, ?_, ?_, ?_, ?_, ?_, ?_, ?_⟩
  · rw [layout_syncCycle]
    exact layout
  · have handed : (c.syncCycle edge).board.txWrites = (c.readied edge).board.txWrites :=
      congrArg Prod.snd ((SimBoard.published_of_wiring (c.wiring_syncCycle edge)).trans
        (c.readied edge).published_tick)
    rw [handed, writes, sent, cycles]
  · have same : (c.syncCycle edge).data.publishCount = (c.readied edge).data.publishCount := rfl
    rw [same, publishes, published, cycles]
  · have same : (c.syncCycle edge).data.ingestCount = (c.readied edge).data.ingestCount := rfl
    rw [same, ingests, ingested, cycles]
  · have once := (c.readied edge).tick_way.extends.ticks
    rw [machine_readied] at once
    have once : (c.syncCycle edge).machine.ticks = c.machine.ticks + 1 := once
    rw [once, ticked, cycles]
  · have feeds := congrArg SimBoard.feedCount (c.clockwork_syncCycle edge)
    have feeds : (c.syncCycle edge).board.feedCount = c.board.feed.feedCount := feeds
    rw [feeds, SimBoard.feedCount_feed]
    unfold passes at *
    omega
  · exact Nat.add_le_add overran (Bool.toNat_le _)
  · rw [cycles]
    exact Nat.le_trans (c.framesSent_syncCycle edge) (Nat.succ_le_succ asked)
  · rw [cycles]
    have ready : (c.readied edge).device.Tallied (c.statistics.cycleCount + 1) := by
      rw [device_readied]
      exact device.sampled c.board
    have kept := (c.readied edge).tick_way.keeps
      (Mounted.tallied_keeps (c.statistics.cycleCount + 1)) ready
    exact kept

/-- What does not run a cycle changes none of the counters but feeds. -/
theorem Tallied.on (h : c.Tallied) {b : SimBoard} (sent : b.txWrites = c.board.txWrites)
    (fed : b.feedCount = c.board.feedCount) (asked : b.imu.framesSent = c.board.imu.framesSent) :
    { c with board := b }.Tallied :=
  ⟨h.layout, sent.trans h.sent, h.published, h.ingested, h.ticked, fed ▸ h.fed, h.overran,
    asked ▸ h.asked, h.device⟩

theorem Tallied.expire (h : c.Tallied) : c.expire.2.Tallied := by
  have handed : c.expire.2.board.txWrites = c.board.txWrites :=
    congrArg Prod.snd c.published_expire
  have fed := congrArg SimBoard.feedCount c.clockwork_expire
  have fed : c.expire.2.board.feedCount = c.board.feedCount := fed
  have kept := (Mounted.tallied_keeps c.statistics.cycleCount).estop c.mounted h.device
  have imu := (Mounted.imu_keeps c.board.imu).estop c.mounted rfl
  have imu : c.expire.2.board.imu = c.board.imu := imu
  refine ⟨h.layout, handed.trans h.sent, h.published, h.ingested, h.ticked, ?_, h.overran, ?_, kept⟩
  · rw [fed]
    exact h.fed
  · rw [imu]
    exact h.asked

theorem passes_idlePass (c : Controller SimBoard) : c.idlePass.passes = c.passes + 1 := by
  by_cases idle : c.machine.state = .idle
  · rw [idlePass_of_idle idle]
    rfl
  · rw [idlePass_of_away idle]
    rfl

theorem Tallied.idlePass (h : c.Tallied) : c.idlePass.Tallied := by
  have fed := h.fed
  unfold passes at fed
  by_cases idle : c.machine.state = .idle
  · rw [idlePass_of_idle idle]
    have sent : c.board.feed.txWrites = c.board.txWrites :=
      congrArg Prod.snd (SimBoard.published_of_wiring (SimBoard.wiring_feed c.board))
    have imu : c.board.feed.imu = c.board.imu :=
      SimBoard.imu_of_wiring (SimBoard.wiring_feed c.board)
    refine ⟨h.layout, sent.trans h.sent, h.published, h.ingested, h.ticked, ?_, h.overran, ?_,
      h.device⟩
    · show c.board.feed.feedCount ≤ c.statistics.cycleCount + (c.statistics.idlePolls + 1)
      rw [SimBoard.feedCount_feed]
      omega
    · show c.board.feed.imu.framesSent ≤ _
      rw [imu]
      exact h.asked
  · rw [idlePass_of_away idle]
    refine ⟨h.layout, h.sent, h.published, h.ingested, h.ticked, ?_, h.overran, h.asked, h.device⟩
    show c.board.feedCount ≤ c.statistics.cycleCount + (c.statistics.idlePolls + 1)
    omega

/-- **A pass keeps the counters in step, and counts at most once.** -/
theorem Tallied.poll (h : c.Tallied) : c.poll.2.Tallied ∧ c.poll.2.passes ≤ c.passes + 1 := by
  by_cases alive : c.board.Alive
  · cases queue : c.board.edges with
    | cons edge rest =>
        rw [poll_of_edge alive queue]
        have taken : { c with board := { c.board with edges := rest } }.Tallied := h.on rfl rfl rfl
        refine ⟨taken.syncCycle edge, ?_⟩
        show c.statistics.cycleCount + 1 + c.statistics.idlePolls ≤
          c.statistics.cycleCount + c.statistics.idlePolls + 1
        omega
    | nil =>
        rw [poll_of_empty alive queue]
        have sent : (c.board.advance c.idlePoll).txWrites = c.board.txWrites :=
          congrArg Prod.snd (SimBoard.published_of_wiring (SimBoard.wiring_advance _ _))
        have imu := SimBoard.imu_of_wiring (c.board.wiring_advance c.idlePoll)
        have waited := h.on sent (c.board.feedCount_advance c.idlePoll)
          (congrArg Simulation.Sensor.framesSent imu)
        exact ⟨waited.idlePass, Nat.le_of_eq (passes_idlePass _)⟩
  · rw [poll_of_spent alive]
    have sent : c.board.latchWatchdog.txWrites = c.board.txWrites :=
      congrArg Prod.snd (SimBoard.published_of_wiring (SimBoard.wiring_latchWatchdog c.board))
    have imu := SimBoard.imu_of_wiring (SimBoard.wiring_latchWatchdog c.board)
    have latched := h.on sent c.board.feedCount_latchWatchdog
      (congrArg Simulation.Sensor.framesSent imu)
    exact ⟨latched.expire, Nat.le_succ _⟩

/-- A controller that has just started has published once, and counted nothing else. -/
theorem tallied_start {config : Config} {b b' : SimBoard} (silent : b.txWrites = 0)
    (unfed : b.feedCount = 0) (unasked : b.imu.framesSent = 0) (h : start config b = (.ok c, b')) :
    c.Tallied ∧ c.passes = 0 := by
  obtain ⟨clockwork, layout, -, -, -, -⟩ := starts_of_start h
  have fed := congrArg SimBoard.feedCount clockwork
  have fed : c.board.feedCount = 0 := Eq.trans fed unfed
  obtain ⟨kind, data, board, -, setUp, rfl⟩ := eq_of_start h
  have outbound := Device.outbound_setUp setUp
  have published := congrArg ProcessData.publishCount outbound
  have ingested := congrArg ProcessData.ingestCount outbound
  have sent := (Device.ofKind kind config.limits).published_setUp (.ofLayout kind.layout)
    (Journal.note (.deviceSelected config.device.id kind) b)
  rw [setUp] at sent
  have sent : board.txWrites = 0 := (congrArg Prod.snd sent).trans silent
  have asked : board.imu.framesSent ≤ 1 := by
    have powered := (Device.ofKind kind config.limits).setUp_leaves
      (f := fun b : SimBoard => b.imu.framesSent) (fun _ _ => rfl) (.ofLayout kind.layout)
      (Journal.note (.deviceSelected config.device.id kind) b)
    rw [setUp] at powered
    rw [powered]
    exact Nat.le_trans (Device.framesSent_powerUp _ _) (Nat.succ_le_succ (Nat.le_of_eq unasked))
  have device : (Device.ofKind kind config.limits).Tallied 0 := by
    cases kind with
    | leg | hip | boom => trivial
    | imu => exact ⟨Nat.le_refl 0, Nat.le_refl 0, List.length_replicate⟩
  refine ⟨⟨layout, ?_, ?_, ?_, rfl, ?_, Nat.le_refl 0, asked, device⟩, rfl⟩
  · exact congrArg (· + 1) sent
  · exact congrArg (· + 1) published
  · exact ingested
  · rw [fed]
    exact Nat.zero_le _

end Controller

/-! ### Runs -/

namespace Simulation

/-- The master counts its steps, and nothing else does. -/
theorem Rig.cycles_act (rig : Rig) (action : Action) :
    (rig.act action).master.cycles = rig.master.cycles + steps [.act action] := by
  cases action with
  | setInbound f t value =>
      simp only [act]
      split <;> rfl
  | _ => rfl

/-- No action asks an inertial sensor for a frame. -/
theorem Rig.framesSent_act (rig : Rig) (action : Action) :
    (rig.act action).board.imu.framesSent = rig.board.imu.framesSent := by
  rw [imu_act]
  cases action <;> rfl

namespace Station

/-- A station after so many moves. -/
structure Tallied (count : Nat) (s : Station) : Prop where
  controller : s.controller.Tallied
  passes : s.controller.passes ≤ count
  cycles : s.master.cycles = s.board.edgeSequence

variable {s : Station} {count : Nat}

theorem Tallied.move (h : s.Tallied count) (move : Move) :
    (s.move move).Tallied (count + 1) := by
  obtain ⟨controller, passes, cycles⟩ := h
  cases move with
  | poll =>
      obtain ⟨tallied, once⟩ := controller.poll
      exact ⟨tallied, Nat.le_trans once (Nat.succ_le_succ passes),
        cycles.trans s.controller.fired_poll.symm⟩
  | act action =>
      have sent := congrArg Prod.snd (Rig.published_act ⟨s.board, s.master⟩ action)
      have fed := Rig.feedCount_act ⟨s.board, s.master⟩ action
      have asked := Rig.framesSent_act ⟨s.board, s.master⟩ action
      refine ⟨controller.on sent fed asked, Nat.le_succ_of_le passes, ?_⟩
      have stepped := Rig.cycles_act ⟨s.board, s.master⟩ action
      have fired := Rig.fired_act ⟨s.board, s.master⟩ action
      exact stepped.trans ((congrArg (· + _) cycles).trans fired.symm)

theorem Tallied.moves (h : s.Tallied count) (run : List Move) :
    (s.moves run).Tallied (count + run.length) := by
  induction run generalizing s count with
  | nil => exact h
  | cons move rest ih =>
      have later := ih (h.move move)
      rwa [List.length_cons, Nat.add_comm rest.length, ← Nat.add_assoc]

theorem tallied_start {config : Config} {period : Nat}
    (h : start config (.fresh config.safety period) = .ok s) : s.Tallied 0 := by
  obtain ⟨_, found, master⟩ := controller_of_start h
  obtain ⟨tallied, passes⟩ := Controller.tallied_start rfl rfl rfl found
  obtain ⟨starts, -⟩ := starts_of_start h
  have fired := congrArg SimBoard.edgeSequence starts.clockwork
  have fired : s.board.edgeSequence = 0 := fired
  refine ⟨tallied, Nat.le_of_eq passes, ?_⟩
  rw [master, fired]
  rfl

end Station
end Simulation
end FieldbusNode
