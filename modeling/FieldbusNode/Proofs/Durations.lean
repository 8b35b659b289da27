/-
How long cycles take.

A simulated board stands still while a cycle runs, so how long the cycle takes is told by the
clock of the machine.  That clock belongs to the world outside: an action sets what it will show
(`Action.workload`), and nothing that the node does has any influence on it.

The statistics take the durations over as signed words and add them up.  As long as the sum of all
durations of a run fits, it is what the statistics hold (`Station.timed_moves`).
-/
import Mathlib.Algebra.Ring.Nat
import FieldbusNode.Proofs.Backlog
import FieldbusNode.Proofs.Calm
namespace FieldbusNode

open Simulation (SimBoard Rig Action Station Move)

/-! ### One cycle -/

/-- No hook has any influence on the clock. -/
theorem Mounted.workload_keeps (nanos : Nat) :
    Plant.Keeps fun p : Mounted SimBoard => p.board.workload = nanos := by
  refine board_keeps (P := fun b => b.workload = nanos) (fun _ _ h => h) (fun _ _ h => h) ?_
    (fun _ _ h => h)
  intro m m' b b' driven h
  cases driven with
  | rests | traps | takes => exact h
  | refused => exact (Journal.noteIf_leaves (f := SimBoard.workload) (fun _ _ => rfl) _ _ _).trans h

theorem Simulation.SimBoard.workload_of_wiring {b b' : SimBoard} (h : b'.wiring = b.wiring) :
    b'.workload = b.workload := by
  have erased := congrArg workload h
  exact erased

namespace Controller

variable (c : Controller SimBoard) (edge : Edge)

theorem workload_tick : (c.readied edge).tick.board.workload = c.board.workload := by
  have ready : (c.readied edge).board.workload = c.board.workload :=
    readied_spares (fun _ _ => rfl) (fun _ _ => rfl)
      (fun b => SimBoard.workload_of_wiring (SimBoard.wiring_feed b)) (fun _ _ => rfl)
      (fun _ _ => rfl) c edge
  have ticked := (c.readied edge).tick_way.keeps (Mounted.workload_keeps c.board.workload) ready
  exact ticked

theorem workload_syncCycle : (c.syncCycle edge).board.workload = c.board.workload :=
  (SimBoard.workload_of_wiring (c.wiring_syncCycle edge)).trans (c.workload_tick edge)

theorem workload_idlePass : c.idlePass.board.workload = c.board.workload := by
  by_cases idle : c.machine.state = .idle
  · rw [idlePass_of_idle idle]
    exact SimBoard.workload_of_wiring (SimBoard.wiring_feed c.board)
  · rw [idlePass_of_away idle]

/-- No pass has any influence on the clock. -/
theorem workload_poll : c.poll.2.board.workload = c.board.workload := by
  by_cases alive : c.board.Alive
  · cases queue : c.board.edges with
    | cons edge rest =>
        rw [poll_of_edge alive queue]
        exact workload_syncCycle { c with board := { c.board with edges := rest } } edge
    | nil =>
        rw [poll_of_empty alive queue, workload_idlePass]
        exact SimBoard.workload_of_wiring (SimBoard.wiring_advance c.board c.idlePoll)
  · rw [poll_of_spent alive]
    have latched : c.board.latchWatchdog.workload = c.board.workload :=
      SimBoard.workload_of_wiring (SimBoard.wiring_latchWatchdog c.board)
    have stopped := (Mounted.workload_keeps c.board.workload).estop
      ⟨c.device, c.board.latchWatchdog⟩ latched
    exact stopped

theorem workload_start {config : Config} {b b' : SimBoard} {c : Controller SimBoard}
    (h : start config b = (.ok c, b')) : c.board.workload = b.workload := by
  obtain ⟨kind, data, ready, -, setUp, rfl⟩ := eq_of_start h
  have powered (d : Device) (b : SimBoard) : (d.powerUp b).2.workload = b.workload := by
    cases d with
    | boom | imu => rfl
    | actuator joint m =>
        rw [Device.powerUp_actuator]
        rfl
  have same := Device.setUp_leaves (f := SimBoard.workload) (fun _ _ => rfl)
    (Device.ofKind kind config.limits) (.ofLayout kind.layout)
    (Journal.note (.deviceSelected config.device.id kind) b)
  rw [setUp, powered] at same
  exact same

end Controller

theorem Simulation.Rig.workload_act (rig : Rig) {action : Action}
    (unset : ∀ nanos, action ≠ .workload nanos) :
    (rig.act action).board.workload = rig.board.workload := by
  cases action with
  | workload nanos => exact absurd rfl (unset nanos)
  | step =>
      exact SimBoard.workload_of_wiring ((SimBoard.wiring_pushEdge _).trans
        (SimBoard.wiring_advance { rig.board with rx := rig.master.prepared.rx } _))
  | advance nanos => exact SimBoard.workload_of_wiring (SimBoard.wiring_advance _ _)
  | setInbound f t value =>
      simp only [act]
      split <;> rfl
  | _ => rfl

/-! ### Statistics -/

theorem signedNanos_of_le {nanos : Nat} (small : (nanos : Int) ≤ int64Max) :
    signedNanos nanos = nanos := by
  unfold int64Max at small
  unfold signedNanos uint64Max
  exact Int.bmod_eq_of_le (by omega) (by omega)

/-- The statistics of cycles that took so long. -/
structure Statistics.Timed (durations : List Nat) (k : Statistics) : Prop where
  cycles : k.cycleCount = durations.length
  sum : (durations.sum : Int) ≤ int64Max → k.sum = durations.sum

namespace Statistics.Timed

variable {durations : List Nat} {k : Statistics}

theorem record (h : k.Timed durations) (nanos : Nat) (latency : Int) :
    (k.record (signedNanos nanos) latency).Timed (durations ++ [nanos]) := by
  refine ⟨?_, ?_⟩
  · rw [List.length_append, List.length_singleton, ← h.cycles]
    rfl
  · rw [List.sum_append, List.sum_singleton]
    intro small
    have sum := h.sum (by omega)
    show k.sum + signedNanos nanos = _
    rw [sum, signedNanos_of_le (by omega)]
    omega

/-- Sums that fit are in the range of the statistics. -/
theorem inRange (h : k.Timed durations) (small : (durations.sum : Int) ≤ int64Max) :
    k.InRange := by
  have sum := h.sum small
  unfold InRange int64Min
  omega

end Statistics.Timed

namespace Controller

variable {c : Controller SimBoard} {durations : List Nat}

theorem timed_syncCycle (h : c.statistics.Timed durations) (edge : Edge) :
    (c.syncCycle edge).statistics.Timed (durations ++ [c.board.workload]) := by
  have before : (c.readied edge).tick.statistics.Timed durations := ⟨h.cycles, h.sum⟩
  have recorded := before.record (c.readied edge).tick.board.workload
    (signedNanos (Board.sinceEdge (c.accountEdge edge).board))
  rw [c.workload_tick edge] at recorded
  have clock : Board.cycleDuration (c.readied edge).tick.board = c.board.workload :=
    c.workload_tick edge
  rw [syncCycle_eq]
  unfold recordCycle
  dsimp only
  rw [clock]
  exact ⟨recorded.cycles, recorded.sum⟩

theorem timed_idlePass (h : c.statistics.Timed durations) :
    c.idlePass.statistics.Timed durations := by
  by_cases idle : c.machine.state = .idle
  · rw [idlePass_of_idle idle]
    exact ⟨h.cycles, h.sum⟩
  · rw [idlePass_of_away idle]
    exact ⟨h.cycles, h.sum⟩

/-- How long the cycle of the next pass takes, if one runs. -/
def duration? (c : Controller SimBoard) : Option Nat :=
  c.edge?.map fun _ => c.board.workload

theorem timed_poll (h : c.statistics.Timed durations) :
    c.poll.2.statistics.Timed (durations ++ c.duration?.toList) := by
  unfold duration?
  by_cases alive : c.board.Alive
  · rw [edge?_of_alive alive]
    cases queue : c.board.edges with
    | cons edge rest =>
        rw [poll_of_edge alive queue]
        have taken : { c with board := { c.board with edges := rest } }.statistics.Timed
          durations := h
        exact timed_syncCycle taken edge
    | nil =>
        rw [poll_of_empty alive queue, List.head?_nil, Option.map_none, Option.toList_none,
          List.append_nil]
        have waited : { c with board := c.board.advance c.idlePoll }.statistics.Timed durations := h
        exact timed_idlePass waited
  · rw [edge?_of_spent alive, poll_of_spent alive, Option.map_none, Option.toList_none,
      List.append_nil]
    exact h

end Controller

/-! ### Runs -/

namespace Simulation.Station

variable {s : Station}

/-- How long the cycles of a run take, in order. -/
def durations (s : Station) (run : List Move) : List Nat :=
  s.gather Controller.duration? run

theorem durations_append (s : Station) (a b : List Move) :
    s.durations (a ++ b) = s.durations a ++ (s.moves a).durations b :=
  s.gather_append a b

/-- **Along a run the statistics count the cycles and add up what they take.** -/
theorem timed_moves {seen : List Nat} (h : s.controller.statistics.Timed seen) (run : List Move) :
    (s.moves run).controller.statistics.Timed (seen ++ s.durations run) :=
  gather_keeps (P := fun seen s => s.controller.statistics.Timed seen) (fun _ _ _ h => h)
    (fun _ _ h => Controller.timed_poll h) h run

/-- If nobody sets the clock, every cycle takes as long as it would have taken at first. -/
theorem durations_of_unset {run : List Move} (unset : ∀ nanos, .act (.workload nanos) ∉ run) :
    ∀ nanos ∈ s.durations run, nanos = s.board.workload := by
  induction run generalizing s with
  | nil => exact List.forall_mem_nil _
  | cons move rest ih =>
      have later (nanos : Nat) : .act (.workload nanos) ∉ rest :=
        fun mem => unset nanos (List.mem_cons_of_mem move mem)
      intro nanos mem
      cases move with
      | act action =>
          have other (nanos : Nat) : action ≠ .workload nanos := by
            rintro rfl
            exact unset nanos List.mem_cons_self
          have same : (s.act action).board.workload = s.board.workload :=
            Rig.workload_act ⟨s.board, s.master⟩ other
          exact (ih later nanos mem).trans same
      | poll =>
          rcases List.mem_append.mp mem with now | mem
          · obtain ⟨_, -, same⟩ := Option.map_eq_some_iff.mp (Option.mem_toList.mp now)
            exact same.symm
          · exact (ih later nanos mem).trans s.controller.workload_poll

end Simulation.Station
end FieldbusNode
