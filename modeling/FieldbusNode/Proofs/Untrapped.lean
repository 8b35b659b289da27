/-
A configuration that passes its checks, and what can still make a node fail.

A run-time check fails where a clamp has its bounds out of order, where a range of bytes or a field
leaves its record, or where a number leaves its machine word.  The first the limits rule out
(`Mounted.trapped_keeps`).  The second does not happen because the fields of a device lie in its
records, so what it reports is never refused (`ProcessData.report_eq_fill`).  The third is a matter
of counting: a run of fewer than 2^63 moves counts nothing to the end of a 64-bit word, but for what
the frames of an inertial sensor skip.

So there is one check left, and it fails exactly when that sum leaves its word
(`Station.onlySkips_moves`).  It takes more than 2^57 frames to get there.  Where the cycles take
their time, the sum of their durations would have to leave its own word before.  On a clock that
stands still nothing is in the way (`Station.overflow_laps`).

Time only moves on and a failed check is never forgotten, so it is enough to look at the end
of a run.
-/
import Mathlib
import FieldbusNode.Proofs.Clamps
import FieldbusNode.Proofs.Edges
import FieldbusNode.Proofs.Skipping
import FieldbusNode.Proofs.Tally
namespace FieldbusNode

open Simulation (SimBoard Rig Action Station Move steps)

/-! ### Boards -/

namespace Simulation.SimBoard

variable (b : SimBoard)

theorem trapped_trapIf (condition : Bool) (t : Trap) :
    (Journal.trapIf condition t b).trapped =
      b.trapped.or (if condition then some t else none) := by
  cases condition with
  | true => rfl
  | false => exact (Option.or_none).symm

theorem trapped_latchWatchdog : b.latchWatchdog.trapped = b.trapped := by
  unfold latchWatchdog
  split <;> rfl

theorem trapped_advance {nanos : Nat} (within : b.now + nanos ≤ Duration.longest) :
    (b.advance nanos).trapped = b.trapped := by
  unfold advance
  dsimp only
  rw [decide_eq_false (Nat.not_lt.mpr within), trapped_latchWatchdog]
  rfl

theorem trapped_pushEdge : b.pushEdge.trapped = b.trapped := by
  unfold pushEdge
  dsimp only
  split <;> rfl

theorem now_latchWatchdog : b.latchWatchdog.now = b.now := by
  unfold latchWatchdog
  split <;> rfl

theorem now_advance (nanos : Nat) : (b.advance nanos).now = b.now + nanos :=
  congrArg Timing.now (b.timing_advance nanos)

end Simulation.SimBoard

/-! ### Skipped frames -/

/-- Taking a frame adds to what was skipped, and takes nothing back. -/
theorem Imu.sequenceGaps_le_observe (unit : Imu) (reading : Except HardwareError (List UInt8)) :
    unit.sequenceGaps ≤ (unit.observe reading).1.sequenceGaps := by
  unfold observe
  cases reading with
  | error e =>
      dsimp only
      split
      · exact Nat.le_add_right _ _
      · exact Nat.le_refl _
  | ok bytes =>
      dsimp only
      split
      · exact Nat.le_add_right _ _
      · exact Nat.le_refl _

theorem Device.sequenceGaps_le_sampled (d : Device) (b : SimBoard) :
    d.sequenceGaps ≤ (d.sampled b).sequenceGaps := by
  cases d with
  | actuator | boom => exact Nat.le_refl _
  | imu unit => exact unit.sequenceGaps_le_observe _

/-- No hook counts a skipped frame. -/
theorem Mounted.sequenceGaps_keeps (gaps : Nat) :
    Plant.Keeps fun p : Mounted SimBoard => p.device.sequenceGaps = gaps :=
  device_keeps (P := fun d => d.sequenceGaps = gaps) (fun _ h => h) (fun _ h => h) fun _ _ h => h

/-- The failed check that so many skipped frames amount to. -/
def skipTrap (gaps : Nat) : Option Trap :=
  if uint64Max < gaps then some .overflow else none

theorem skipTrap_or {early late : Nat} (more : early ≤ late) :
    (skipTrap early).or (skipTrap late) = skipTrap late := by
  unfold skipTrap
  by_cases full : uint64Max < early
  · rw [if_pos full, if_pos (Nat.lt_of_lt_of_le full more)]
    rfl
  · rw [if_neg full]
    rfl

/-! ### Passes -/

namespace Controller

variable {c : Controller SimBoard} {limits : Limits} {kind : Kind}

/-- No check has failed but that of the skipped frames, and that one only if there are too many. -/
def OnlySkips (c : Controller SimBoard) : Prop :=
  c.board.trapped = skipTrap c.device.sequenceGaps

theorem now_idlePass (c : Controller SimBoard) : c.idlePass.board.now = c.board.now := by
  by_cases idle : c.machine.state = .idle
  · rw [idlePass_of_idle idle]
    exact c.board.now_latchWatchdog
  · rw [idlePass_of_away idle]

theorem OnlySkips.idlePass (h : c.OnlySkips) : c.idlePass.OnlySkips := by
  by_cases idle : c.machine.state = .idle
  · rw [idlePass_of_idle idle]
    exact c.board.trapped_latchWatchdog.trans h
  · rw [idlePass_of_away idle]
    exact h

theorem now_poll (c : Controller SimBoard) : c.board.now ≤ c.poll.2.board.now := by
  by_cases alive : c.board.Alive
  · cases queue : c.board.edges with
    | cons edge rest =>
        have served := congrArg Simulation.Timing.now (timing_of_edge alive queue).1
        exact Nat.le_of_eq served.symm
    | nil =>
        have made := congrArg Prod.snd (poll_of_empty alive queue)
        rw [made, now_idlePass]
        show c.board.now ≤ (c.board.advance c.idlePoll).now
        rw [SimBoard.now_advance]
        exact Nat.le_add_right _ _
  · rw [poll_of_spent alive]
    have stopped := SimBoard.timing_of_clockwork
      (clockwork_expire { c with board := c.board.latchWatchdog })
    have now := congrArg Simulation.Timing.now stopped
    exact Nat.le_of_eq (c.board.now_latchWatchdog.symm.trans now.symm)

/-- What has failed when the tick comes is what had failed before, and what was skipped. -/
theorem trapped_readied (layout : c.data.layout = c.device.kind.layout) {edge : Edge}
    (counted : c.statistics.missedEdges + c.missedBefore edge ≤ uint64Max) :
    (c.readied edge).board.trapped =
      c.board.trapped.or (skipTrap (c.readied edge).device.sequenceGaps) := by
  have accounted : (c.accountEdge edge).board.trapped = c.board.trapped := by
    unfold accountEdge
    dsimp only
    rw [decide_eq_false (Nat.not_lt.mpr counted)]
    exact Journal.noteIf_leaves (f := SimBoard.trapped) (fun _ _ => rfl) _ _ _
  have kept : (c.readied edge).board.trapped = (c.inputsSampled edge).board.trapped :=
    readied_leaves (fun _ _ => rfl) (fun b => b.trapped_latchWatchdog) (fun _ _ => rfl)
      (fun _ _ => rfl) c edge
  have sampled : (c.inputsSampled edge).board.trapped = (Journal.trapIf
      (decide (uint64Max < (c.device.sampled (c.accountEdge edge).board).sequenceGaps)) .overflow
      (c.accountEdge edge).board).trapped := Device.trapped_updateInputs layout _ _
  rw [kept, sampled, SimBoard.trapped_trapIf, accounted, device_readied,
    Device.sampled_of_wiring (c.wiring_accountEdge edge)]
  simp only [decide_eq_true_eq, skipTrap]

theorem trapped_recordCycle (c : Controller SimBoard) (edge : Edge) {sinceEdge : Nat}
    (summed : (c.recordCycle edge sinceEdge).statistics.InRange) :
    (c.recordCycle edge sinceEdge).board.trapped = c.board.trapped := by
  have noted (condition : Bool) (e : Event) (b : SimBoard) :
      (Journal.noteIf condition e b).trapped = b.trapped :=
    Journal.noteIf_leaves (f := SimBoard.trapped) (fun _ _ => rfl) condition e b
  have inRange : (c.statistics.record (signedNanos (Board.cycleDuration c.board))
      (signedNanos sinceEdge)).InRange := by
    have sum : (c.recordCycle edge sinceEdge).statistics.sum = (c.statistics.record
      (signedNanos (Board.cycleDuration c.board)) (signedNanos sinceEdge)).sum := rfl
    unfold Statistics.InRange at summed ⊢
    rwa [sum] at summed
  unfold recordCycle
  dsimp only
  rw [decide_eq_true inRange]
  exact noted _ _ _

/-- **A cycle meets no failed check but that of the skipped frames**, as long as the count of missed
edges and the sum of the durations are in range. -/
theorem OnlySkips.syncCycle (h : c.OnlySkips) (valid : limits.Valid)
    (sound : c.mounted.Sound limits kind) (layout : c.data.layout = kind.layout) {edge : Edge}
    (counted : (c.syncCycle edge).statistics.missedEdges ≤ uint64Max)
    (summed : (c.syncCycle edge).statistics.InRange) : (c.syncCycle edge).OnlySkips := by
  have same : c.device.kind = kind := sound.kind
  have ready := c.trapped_readied (layout.trans (congrArg Kind.layout same.symm)) counted
  have more : c.device.sequenceGaps ≤ (c.readied edge).device.sequenceGaps := by
    rw [device_readied]
    exact c.device.sequenceGaps_le_sampled c.board
  rw [h, skipTrap_or more] at ready
  have sound := (c.quiet_readied edge).sound sound
  have way := (c.readied edge).tick_way
  have ticked := way.keeps (Mounted.trapped_keeps valid kind _) ⟨sound, ready⟩
  have gaps := way.keeps (Mounted.sequenceGaps_keeps _) rfl
  have recorded := (c.readied edge).tick.trapped_recordCycle edge summed
  have gaps : (c.syncCycle edge).device.sequenceGaps = _ := gaps
  unfold OnlySkips
  rw [gaps]
  exact recorded.trans ticked.2

theorem OnlySkips.expire (h : c.OnlySkips) (valid : limits.Valid)
    (sound : c.mounted.Sound limits kind) : c.expire.2.OnlySkips := by
  have stopped := (Mounted.trapped_keeps valid kind _).estop c.mounted ⟨sound, h⟩
  have gaps := (Mounted.sequenceGaps_keeps c.device.sequenceGaps).estop c.mounted rfl
  have gaps : c.expire.2.device.sequenceGaps = c.device.sequenceGaps := gaps
  unfold OnlySkips
  rw [gaps]
  exact stopped.2

/-- **A pass meets no failed check but that of the skipped frames**, as long as time, the count of
missed edges and the sum of the durations are in range. -/
theorem OnlySkips.poll (h : c.OnlySkips) (valid : limits.Valid)
    (sound : c.mounted.Sound limits kind) (layout : c.data.layout = kind.layout)
    (within : c.poll.2.board.now ≤ Duration.longest)
    (counted : c.poll.2.statistics.missedEdges ≤ uint64Max)
    (summed : c.poll.2.statistics.InRange) : c.poll.2.OnlySkips := by
  by_cases alive : c.board.Alive
  · cases queue : c.board.edges with
    | cons edge rest =>
        rw [poll_of_edge alive queue] at counted summed ⊢
        have taken : { c with board := { c.board with edges := rest } }.OnlySkips := h
        exact taken.syncCycle valid (sound.rewired rfl) layout counted summed
    | nil =>
        have made := congrArg Prod.snd (poll_of_empty alive queue)
        rw [made, now_idlePass] at within
        have later : c.board.now + c.idlePoll ≤ Duration.longest := by
          rw [← SimBoard.now_advance]
          exact within
        rw [made]
        have waited : { c with board := c.board.advance c.idlePoll }.OnlySkips :=
          (c.board.trapped_advance later).trans h
        exact waited.idlePass
  · rw [poll_of_spent alive]
    have latched : { c with board := c.board.latchWatchdog }.OnlySkips :=
      c.board.trapped_latchWatchdog.trans h
    exact latched.expire valid (sound.rewired (SimBoard.wiring_latchWatchdog c.board))

theorem untrapped_start {config : Config} {b b' : SimBoard} (untrapped : b.trapped = none)
    (h : start config b = (.ok c, b')) : c.board.trapped = none := by
  obtain ⟨kind, data, board, -, setUp, rfl⟩ := eq_of_start h
  obtain ⟨same, -⟩ := Device.follows_ofKind kind config.limits
  have own : (ProcessData.ofLayout kind.layout).layout = _ := congrArg Kind.layout same.symm
  have made := Device.setUp_eq own (Journal.note (.deviceSelected config.device.id kind) b)
  have powered (d : Device) (b : SimBoard) : (d.powerUp b).2.trapped = b.trapped := by
    cases d with
    | boom | imu => rfl
    | actuator joint m =>
        rw [Device.powerUp_actuator]
        rfl
  rw [setUp] at made
  have made : board = _ := (Prod.mk.inj made).2
  have kept : board.trapped = b.trapped := by
    rw [made]
    exact powered _ _
  exact kept.trans untrapped

/-- The unit of a device that has just been chosen has skipped nothing. -/
theorem sequenceGaps_start {config : Config} {b b' : SimBoard}
    (h : start config b = (.ok c, b')) : c.device.sequenceGaps = 0 := by
  obtain ⟨kind, data, board, -, -, rfl⟩ := eq_of_start h
  cases kind <;> rfl

end Controller

/-! ### Runs -/

/-- A value of this type has a place in this field of a record. -/
def Field.Takes (f : Field) (t : ValueType) : Prop :=
  f.stop ≤ recordCapacity ∧ t.width ≤ f.width

/-- No more edges are missed than were fired. -/
theorem Accounted.missed_le {seen : List Edge} {books : Controller.Books}
    {k : Simulation.Backlog} (h : Accounted seen books k) : books.missed ≤ k.fired := by
  rcases List.eq_nil_or_concat seen with rfl | ⟨before, last, snoc⟩
  · rw [(h.unseen rfl).1]
    exact Nat.zero_le _
  · rw [List.concat_eq_append] at snoc
    obtain ⟨first, isFirst⟩ : ∃ first, first ∈ seen.head? := by
      cases seen with
      | nil => simp at snoc
      | cons first rest => exact ⟨first, rfl⟩
    have isLast : last ∈ seen.getLast? := by
      rw [snoc]
      exact List.getLast?_concat
    have span := (h.spanned first isFirst last isLast).2
    have behind := h.older last (by simp [snoc])
    have some : 0 < seen.length := by simp [snoc]
    omega

namespace Simulation

namespace Rig

variable (rig : Rig)

theorem now_step : (rig.act .step).board.now = rig.board.now + rig.master.period :=
  congrArg Timing.now rig.timing_step

theorem now_act (action : Action) : rig.board.now ≤ (rig.act action).board.now := by
  cases action with
  | step =>
      rw [now_step]
      exact Nat.le_add_right _ _
  | advance nanos =>
      show _ ≤ (rig.board.advance nanos).now
      rw [SimBoard.now_advance]
      exact Nat.le_add_right _ _
  | setInbound f t value =>
      simp only [act]
      split <;> exact Nat.le_refl _
  | _ => exact Nat.le_refl _

/-- Nothing from outside meets a failed check, but time that runs out and values that have no place
in the record. -/
theorem trapped_act {action : Action}
    (placed : ∀ f t value, action = .setInbound f t value → f.Takes t)
    (within : (rig.act action).board.now ≤ Duration.longest) :
    (rig.act action).board.trapped = rig.board.trapped := by
  cases action with
  | step =>
      rw [now_step] at within
      exact (SimBoard.trapped_pushEdge _).trans (SimBoard.trapped_advance
        { rig.board with rx := rig.master.prepared.rx } within)
  | advance nanos =>
      have within : (rig.board.advance nanos).now ≤ Duration.longest := within
      rw [SimBoard.now_advance] at within
      exact rig.board.trapped_advance within
  | setInbound f t value =>
      obtain ⟨inside, wide⟩ := placed f t value rfl
      rw [act, rig.master.rx.write?_of_inside inside wide]
  | _ => rfl

end Rig

namespace Station

variable {config : Config} {kind : Kind} {limits : Limits} {period : Nat} {s : Station}
  {run : List Move}

theorem now_move (s : Station) (move : Move) : s.board.now ≤ (s.move move).board.now := by
  cases move with
  | poll => exact s.controller.now_poll
  | act action => exact Rig.now_act ⟨s.board, s.master⟩ action

theorem accounted_fresh (h : start config (.fresh config.safety period) = .ok s)
    (run : List Move) :
    Accounted (s.observed run) (s.moves run).controller.books (s.moves run).board.backlog := by
  have begun : start config ((Rig.fresh config.safety period).run []) = .ok s := h
  exact accounted_moves (accounted_start begun) run

theorem fired_le (h : start config (.fresh config.safety period) = .ok s) (run : List Move) :
    (s.moves run).board.edgeSequence ≤ run.length := by
  have begun : start config ((Rig.fresh config.safety period).run []) = .ok s := h
  have none : s.board.edgeSequence = 0 := fired_start begun
  rw [fired_moves, none, Nat.zero_add]
  exact List.countP_le_length

/-- A run within the bounds of the words that count it: in its moves, in virtual time, and in what
its cycles take by the clock of the machine.  What it sets has a place in the record. -/
structure Bounded (s : Station) (run : List Move) : Prop where
  moves : run.length < 2 ^ 63
  placed : ∀ f t value, .act (.setInbound f t value) ∈ run → f.Takes t
  now : (s.moves run).board.now ≤ Duration.longest
  durations : ((s.durations run).sum : Int) ≤ int64Max

theorem Bounded.init {move : Move} (h : s.Bounded (run ++ [move])) : s.Bounded run := by
  obtain ⟨moves, placed, now, durations⟩ := h
  rw [moves_append] at now
  rw [durations_append, List.sum_append] at durations
  refine ⟨?_, ?_, Nat.le_trans (now_move _ move) now, by omega⟩
  · rw [List.length_append] at moves
    omega
  · exact fun f t value mem => placed f t value (List.mem_append_left _ mem)

/-- At the start no cycle has taken any time. -/
theorem zero_start (h : start config (.fresh config.safety period) = .ok s) :
    s.controller.statistics.Timed [] := by
  obtain ⟨starts, -⟩ := starts_of_start h
  rw [starts.statistics]
  exact ⟨rfl, fun _ => rfl⟩

/-- **No run within its bounds meets a failed check but that of the skipped frames.** -/
theorem onlySkips_moves (valid : config.limits.Valid)
    (h : start config (.fresh config.safety period) = .ok s)
    (begins : s.controller.Begins config kind) (bounded : s.Bounded run) :
    (s.moves run).controller.OnlySkips := by
  obtain ⟨_, found, -⟩ := controller_of_start h
  induction run using List.reverseRecOn with
  | nil =>
      have untrapped : s.board.trapped = none := Controller.untrapped_start rfl found
      have gaps := Controller.sequenceGaps_start found
      show s.board.trapped = skipTrap s.controller.device.sequenceGaps
      rw [untrapped, gaps]
      rfl
  | append_singleton sofar move ih =>
      have sofarOnly := ih bounded.init
      have missed := (accounted_fresh h (sofar ++ [move])).missed_le
      have fired := fired_le h (sofar ++ [move])
      have timed := timed_moves (zero_start h) (sofar ++ [move])
      have summed := timed.inRange bounded.durations
      have within := bounded.now
      have short := bounded.moves
      have joined : s.moves (sofar ++ [move]) = (s.moves sofar).move move :=
        moves_append s sofar [move]
      rw [joined] at within missed fired summed ⊢
      cases move with
      | poll =>
          have counted : (s.moves sofar).controller.poll.2.statistics.missedEdges ≤ uint64Max := by
            have few : (s.moves sofar).controller.poll.2.statistics.missedEdges ≤ _ :=
              Nat.le_trans missed fired
            unfold uint64Max
            omega
          exact sofarOnly.poll valid (sound_moves begins.sound sofar)
            ((s.layout_moves sofar).trans begins.layout) within counted summed
      | act action =>
          have placed (f : Field) (t : ValueType) (value : Int)
              (set : action = .setInbound f t value) : f.Takes t := by
            refine bounded.placed f t value ?_
            rw [← set]
            exact List.mem_append_right _ List.mem_cons_self
          exact (Rig.trapped_act ⟨(s.moves sofar).board, (s.moves sofar).master⟩ placed
            within).trans sofarOnly

/-- The counters of a node, of its board and of its master, that are kept in 64 bits. -/
def counters (s : Station) : List Nat :=
  [s.board.edgeSequence, s.board.droppedEdges, s.board.feedCount, s.board.txWrites,
    s.board.imu.framesSent, s.master.cycles, s.controller.data.publishCount,
    s.controller.data.ingestCount, s.controller.machine.ticks, s.controller.statistics.cycleCount,
    s.controller.statistics.overruns, s.controller.statistics.missedEdges,
    s.controller.statistics.idlePolls] ++ rejected s.controller.device
where
  /-- Frames that an inertial measurement unit has rejected. -/
  rejected : Device → List Nat
  | .imu unit => [unit.framesRejected]
  | .actuator .. | .boom _ => []

/-- Nothing counts more than the moves there were, but what was published before the first. -/
theorem counters_le (h : start config (.fresh config.safety period) = .ok s) (run : List Move) :
    ∀ n ∈ (s.moves run).counters, n ≤ run.length + 1 := by
  have fired := fired_le h run
  have accounted := accounted_fresh h run
  have missed := accounted.missed_le
  have conserved := accounted.queued.conserved
  obtain ⟨tallied, passes, cycles⟩ := (tallied_start h).moves run
  obtain ⟨-, sent, published, ingested, ticked, fed, overran, asked, device⟩ := tallied
  generalize s.moves run = s at *
  have dropped : s.board.droppedEdges ≤ s.board.edgeSequence := by
    have split : s.board.edgeSequence = _ + _ + s.board.droppedEdges := conserved
    omega
  have missed : s.controller.statistics.missedEdges ≤ s.board.edgeSequence := missed
  have rejected : ∀ n ∈ counters.rejected s.controller.device,
      n ≤ s.controller.statistics.cycleCount := by
    generalize s.controller.device = d at device
    cases d with
    | actuator | boom => exact List.forall_mem_nil _
    | imu unit => exact List.forall_mem_singleton.mpr device.rejected
  have fed : s.board.feedCount ≤ s.controller.passes := fed
  have sent : s.board.txWrites = s.controller.statistics.cycleCount + 1 := sent
  have asked : s.board.imu.framesSent ≤ s.controller.statistics.cycleCount + 1 := asked
  unfold Controller.passes at *
  intro n mem
  rcases List.mem_append.mp mem with mem | mem
  · simp only [List.mem_cons, List.not_mem_nil, or_false] at mem
    omega
  · have few := rejected n mem
    omega

/-- No run-time check has failed, and no number that is kept has left its word. -/
structure Unharmed (kind : Kind) (s : Station) : Prop where
  untrapped : s.board.trapped = none
  counters : ∀ n ∈ s.counters, n ≤ uint64Max
  gaps : s.controller.device.sequenceGaps ≤ uint64Max
  layout : s.controller.data.layout = kind.layout
  /-- Reads of the inbound record pass the checks that they leave out. -/
  masterCounter : s.controller.data.readInbound? Inbound.masterCounter .u16 =
    .ok s.controller.data.masterCounter.toNat
  motorCurrent : ∀ joint : Joint, joint.kind = kind →
    s.controller.data.readInbound? Inbound.motorCurrent .i32 =
      .ok s.controller.data.currentCommand.toInt
  /-- Received bytes and the frame they are looked at in fit the buffer. -/
  buffer : ∀ unit, s.controller.device = .imu unit → unit.buffer.length = Inertial.frameLength

theorem unharmed_moves (valid : config.limits.Valid)
    (h : start config (.fresh config.safety period) = .ok s)
    (begins : s.controller.Begins config kind) (bounded : s.Bounded run)
    (few : (s.moves run).controller.device.sequenceGaps ≤ uint64Max) :
    (s.moves run).Unharmed kind := by
  have range : run.length + 1 ≤ uint64Max := Nat.le_trans bounded.moves (by decide)
  have only : (s.moves run).board.trapped = _ := onlySkips_moves valid h begins bounded
  have layout : (s.moves run).controller.data.layout = kind.layout :=
    (s.layout_moves run).trans begins.layout
  have counters (n : Nat) (mem : n ∈ (s.moves run).counters) : n ≤ uint64Max :=
    Nat.le_trans (counters_le h run n mem) range
  have device := ((tallied_start h).moves run).controller.device
  have holds : Inbound.headerEnd ≤ kind.layout.rxSize := kind.layout_valid.1
  refine ⟨only.trans (if_neg (Nat.not_lt.mpr few)), counters, few, layout, ?_, ?_, ?_⟩
  · apply ProcessData.readInbound?_masterCounter
    rw [layout]
    exact holds
  · rintro joint rfl
    apply ProcessData.readInbound?_motorCurrent
    rw [layout]
    cases joint <;> decide
  · intro unit made
    rw [made] at device
    exact device.buffer

/-- No cycle counts more than 127 skipped frames, and only an inertial sensor skips any. -/
theorem sequenceGaps_le (h : start config (.fresh config.safety period) = .ok s)
    (begins : s.controller.Begins config kind) (run : List Move) :
    (s.moves run).controller.device.sequenceGaps ≤ 127 * (s.durations run).length ∧
      (kind ≠ .imu → (s.moves run).controller.device.sequenceGaps = 0) := by
  have device := ((tallied_start h).moves run).controller.device
  have same : (s.moves run).controller.device.kind = kind := (sound_moves begins.sound run).kind
  have cycles := (timed_moves (zero_start h) run).cycles
  rw [List.nil_append] at cycles
  rw [← cycles]
  generalize (s.moves run).controller.device = d at device same ⊢
  subst same
  cases d with
  | actuator | boom => exact ⟨Nat.zero_le _, fun _ => rfl⟩
  | imu unit => exact ⟨device.gaps, fun other => absurd rfl other⟩

/--
**A configuration that passes its checks makes a node fail in one way at most.**

A node of a known kind starts on a fresh rig, whatever the period of its master, and its clamps
are in order.  Whatever happens to it within the bounds of a run, and whenever it polls, the only
check that can fail is that of the frames that an inertial sensor has skipped, and it fails exactly
when their sum leaves its word.

A cycle counts 127 of these frames at most.  So a node without such a sensor never fails, and one
with it does not if its cycles take no less than 64 nanoseconds in the mean.
-/
theorem valid_config_never_traps (valid : config.Valid)
    (named : config.device.id.kind? = some kind) (period : Nat) :
    Actuator.Monitor.Clamps config.limits ∧
    ∃ s, start config (.fresh config.safety period) = .ok s ∧ s.board.trapped = none ∧
      ∀ run : List Move, s.Bounded run →
        let gaps := (s.moves run).controller.device.sequenceGaps
        (s.moves run).board.trapped = (if uint64Max < gaps then some .overflow else none) ∧
        (gaps ≤ uint64Max → (s.moves run).Unharmed kind) ∧
        ((kind = .imu → 64 * (s.durations run).length ≤ (s.durations run).sum) →
          (s.moves run).Unharmed kind) := by
  obtain ⟨s, h⟩ := start_of_accepting named (.fresh config.safety period) rfl
  obtain ⟨_, found, -⟩ := controller_of_start h
  obtain ⟨other, begins⟩ := Controller.begins_of_start valid.limits rfl found
  obtain rfl : kind = other := Option.some.inj (named.symm.trans begins.named)
  refine ⟨Actuator.Monitor.clamps_of_valid valid.limits, s, h,
    Controller.untrapped_start rfl found, ?_⟩
  intro run bounded gaps
  have unharmed := unharmed_moves valid.limits h begins bounded
  refine ⟨onlySkips_moves valid.limits h begins bounded, unharmed, fun slow => unharmed ?_⟩
  obtain ⟨most, none⟩ := sequenceGaps_le h begins run
  by_cases imu : kind = .imu
  · have least := bounded.durations
    have slow := slow imu
    unfold int64Max at least
    unfold uint64Max
    omega
  · rw [none imu]
    exact Nat.zero_le _

def imuConfig : Config where
  shared := { serviceName := "imu" }
  device := { id := ⟨0x40⟩ }

/-- Cycles take 100 nanoseconds, and a value goes into the last bytes of the inbound record.  Of
five frames the third comes after a hundred that were skipped, and the last is cut short. -/
def disturbed : List Move :=
  [.act (.workload 100), .act (.command State.run.toByte), .act (.setInbound ⟨60, 4⟩ .i32 (-1)),
    .act .step, .poll, .act (.imuDisturb (.skipSequence 100)), .act .step, .poll, .act .step, .poll,
    .act (.imuDisturb .truncate), .act .step, .poll, .act .step, .poll]

theorem valid_config_never_traps_disturbed : imuConfig.Valid ∧
    imuConfig.device.id.kind? = some .imu ∧
    ∃ s unit, start imuConfig (.fresh imuConfig.safety 1000000) = .ok s ∧ s.Bounded disturbed ∧
      (s.moves disturbed).controller.device = .imu unit ∧ unit.sequenceGaps = 100 ∧
      unit.framesRejected = 1 ∧ s.durations disturbed = [100, 100, 100, 100, 100] ∧
      (s.moves disturbed).Unharmed .imu := by
  have valid : imuConfig.Valid := by decide
  have named : imuConfig.device.id.kind? = some .imu := rfl
  obtain ⟨-, s, started, -, never⟩ := valid_config_never_traps valid named 1000000
  obtain ⟨unit, made, gaps, rejected⟩ : ∃ unit, (s.moves disturbed).controller.device = .imu unit ∧
      unit.sequenceGaps = 100 ∧ unit.framesRejected = 1 := by
    have seen : (match (s.moves disturbed).controller.device with
        | .imu unit => some (unit.sequenceGaps, unit.framesRejected)
        | .actuator .. | .boom _ => none) = some (100, 1) := by
      obtain rfl := Except.ok.inj started
      decide +kernel
    cases made : (s.moves disturbed).controller.device with
    | actuator | boom =>
        rw [made] at seen
        nomatch seen
    | imu unit =>
        rw [made] at seen
        obtain ⟨gaps, rejected⟩ := Prod.mk.inj (Option.some.inj seen)
        exact ⟨unit, rfl, gaps, rejected⟩
  obtain ⟨now, durations⟩ : (s.moves disturbed).board.now = 5000000 ∧
      s.durations disturbed = [100, 100, 100, 100, 100] := by
    obtain rfl := Except.ok.inj started
    decide +kernel
  have placed (f : Field) (t : ValueType) (value : Int)
      (mem : .act (.setInbound f t value) ∈ disturbed) : f.Takes t := by
    simp only [disturbed, List.mem_cons, List.not_mem_nil, Move.act.injEq, Action.setInbound.injEq,
      reduceCtorEq, false_or, or_false] at mem
    obtain ⟨rfl, rfl, -⟩ := mem
    exact ⟨by decide, by decide⟩
  have bounded : s.Bounded disturbed := by
    refine ⟨by decide, placed, ?_, ?_⟩
    · rw [now]
      decide
    · rw [durations]
      decide
  obtain ⟨-, -, unharmed⟩ := never disturbed bounded
  refine ⟨valid, named, s, unit, started, bounded, made, gaps, rejected, durations, unharmed ?_⟩
  rw [durations]
  decide

/-! ### What the bounds do not rule out -/

/-- Laps of skipped frames stay within the bounds of a run, and with enough of them the count
overflows. -/
theorem overflow_laps (valid : config.Valid) (named : config.device.id.kind? = some .imu)
    (h : start config (.fresh config.safety (Duration.ofMicros config.device.cycleTime.toNat)) =
      .ok s) {n : Nat} (short : n * 3 < 2 ^ 63)
    (soon : n * Duration.ofMicros config.device.cycleTime.toNat ≤ Duration.longest)
    (many : uint64Max < 127 * (n - 1)) :
    s.Bounded (laps n) ∧ (s.moves (laps n)).board.trapped = some .overflow := by
  have bounded : s.Bounded (laps n) := by
    refine ⟨?_, ?_, ?_, ?_⟩
    · rw [length_laps]
      exact short
    · intro f t value mem
      simpa [lap] using mem_laps mem
    · rw [((lapped_start named h).laps valid n).now]
      exact soon
    · rw [sum_durations_laps h]
      decide
  obtain ⟨_, found, -⟩ := controller_of_start h
  obtain ⟨kind, begins⟩ := Controller.begins_of_start valid.limits rfl found
  have only : (s.moves (laps n)).board.trapped = skipTrap _ :=
    onlySkips_moves valid.limits h begins bounded
  refine ⟨bounded, only.trans (if_pos ?_)⟩
  rw [sequenceGaps_laps valid named h]
  exact many

/-- **More than 2^57 frames overflow their count on a clock that stands still.**  In 2^58 laps,
within the bounds of a run, that is what becomes of an inertial sensor.  Without the bounds a single
value that has no place in its field is enough. -/
theorem skipped_frames_overflow :
    (imuConfig.Valid ∧ imuConfig.device.id.kind? = some .imu ∧
      ∃ s, start imuConfig (.fresh imuConfig.safety 1000000) = .ok s ∧
        s.Bounded (laps (2 ^ 58)) ∧ (s.moves (laps (2 ^ 58))).board.trapped = some .overflow) ∧
    legConfig.Valid ∧ legConfig.device.id.kind? = some .leg ∧
      ∃ s, start legConfig (.fresh legConfig.safety 1000000) = .ok s ∧
        (s.moves [.act (.setInbound ⟨3, 2⟩ .i32 (-1))]).board.trapped = some .sliceBounds := by
  have valid : imuConfig.Valid := by decide
  have named : imuConfig.device.id.kind? = some .imu := rfl
  refine ⟨⟨valid, named, ?_⟩, by decide, rfl, _, rfl, ?_⟩
  · obtain ⟨s, h⟩ := start_of_accepting named (.fresh imuConfig.safety 1000000) rfl
    exact ⟨s, h, overflow_laps valid named h (by decide) (by decide) (by decide)⟩
  · decide +kernel

end Station
end Simulation
end FieldbusNode
