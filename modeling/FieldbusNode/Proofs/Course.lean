/-
Runs of ticks.

A course is a fresh machine and everything that ever reaches it.  Before each tick
the plant may change in any way whatever and the stop line may be sampled any
number of times; then the tick runs against some inbound record.  The plant is
arbitrary, so its answers are too.

A course goes on for ever.  What holds of every course at every tick holds of
every finite run, since a finite run is the beginning of some course.
-/
import FieldbusNode.Proofs.Tick.Account
import FieldbusNode.Proofs.Tick.Simulation
namespace FieldbusNode

open Bench (Hook Recorded)

theorem Supervisor.foldl_sampleStopLine (samples : List Bool) (s : Supervisor) :
    samples.foldl sampleStopLine s = { s with stopLine := s.stopLine.run samples } := by
  induction samples generalizing s with
  | nil => rfl
  | cons sample rest ih => exact ih (s.sampleStopLine sample)

/-- What leads up to one tick, and what it runs against. -/
structure Turn (σ : Type) where
  /-- What happens to the plant since the tick before. -/
  stir : σ → σ
  /-- The samples of the stop line since the tick before. -/
  samples : List Bool
  /-- The inbound record, among the rest of the process data. -/
  data : ProcessData

/-- The machine after the samples of a turn. -/
def Turn.sampled {σ : Type} (turn : Turn σ) (m : Machine) : Machine :=
  { m with supervisor := turn.samples.foldl Supervisor.sampleStopLine m.supervisor }

/-- A fresh machine, its plant, and what reaches them tick after tick. -/
structure Course (σ : Type) where
  config : SafetySection
  plant : σ
  turns : Nat → Turn σ

namespace Course

variable {σ : Type} [Plant σ]

/-- Machine and plant after so many ticks. -/
def after (c : Course σ) : Nat → Machine × σ
  | 0 => (.ofConfig c.config, c.plant)
  | n + 1 =>
    let turn := c.turns n
    (turn.sampled (c.after n).1).tick turn.data (turn.stir (c.after n).2)

/-- The machine after so many ticks. -/
def machine (c : Course σ) (n : Nat) : Machine := (c.after n).1

/-- The state after so many ticks. -/
def state (c : Course σ) (n : Nat) : State := (c.machine n).state

/-- The command of a tick. -/
def command (c : Course σ) (n : Nat) : Option State := (c.turns n).data.command

/-- The machine as a tick finds it. -/
def ready (c : Course σ) (n : Nat) : Machine := (c.turns n).sampled (c.machine n)

/-- The plant as a tick finds it. -/
def scene (c : Course σ) (n : Nat) : σ := (c.turns n).stir (c.after n).2

/-- The plant of a tick with the hooks the tick called. -/
def recording (c : Course σ) (n : Nat) : Recorded σ :=
  ((c.ready n).tick (c.turns n).data (⟨c.scene n, []⟩ : Recorded σ)).2

/-- The hooks a tick called, in order. -/
def hooks (c : Course σ) (n : Nat) : List Hook := (c.recording n).hooks.reverse

/-! ### One tick of a course -/

@[simp] theorem state_ready (c : Course σ) (n : Nat) : (c.ready n).state = c.state n := rfl

@[simp] theorem ticks_ready (c : Course σ) (n : Nat) :
    (c.ready n).ticks = (c.machine n).ticks := rfl

/-- What leads up to a tick touches the debounce of the stop line and no other part of the
supervisor. -/
theorem supervisor_ready (c : Course σ) (n : Nat) :
    (c.ready n).supervisor = { (c.machine n).supervisor with
      stopLine := (c.machine n).supervisor.stopLine.run (c.turns n).samples } :=
  Supervisor.foldl_sampleStopLine _ _

theorem ready_way (c : Course σ) (n : Nat) :
    Machine.Way (c.ready n) (c.turns n).data (c.scene n) (c.machine (n + 1)) (c.after (n + 1)).2 :=
  Machine.tick_way _ _ _

theorem recorded_way (c : Course σ) (n : Nat) :
    Machine.Way (c.ready n) (c.turns n).data (⟨c.scene n, []⟩ : Recorded σ) (c.machine (n + 1))
      (c.recording n) := by
  have same : c.machine (n + 1) =
      ((c.ready n).tick (c.turns n).data (⟨c.scene n, []⟩ : Recorded σ)).1 :=
    ((c.ready n).tick_recorded (c.turns n).data ⟨c.scene n, []⟩).1.symm
  rw [same]
  exact Machine.tick_way _ _ _

/-- Every machine of a course keeps its history in order, and counts its ticks. -/
theorem machine_logs (c : Course σ) (n : Nat) :
    (c.machine n).Logs (c.machine n).latest ∧ (c.machine n).ticks = n := by
  induction n with
  | zero => exact ⟨Machine.logs_ofConfig c.config, rfl⟩
  | succ n ih =>
      have found : (c.ready n).Logs (c.machine n).latest := ih.1.congr rfl rfl
      obtain ⟨records, hooks, -, logs, ticks, -⟩ := (c.recorded_way n).account found rfl
      refine ⟨?_, by rw [ticks, ticks_ready, ih.2]⟩
      rw [logs.latest]
      exact logs

/-- **Every tick of a course is seen as one of the accounts.** -/
theorem account (c : Course σ) (n : Nat) :
    Machine.Account (n + 1) (c.state n) (c.machine (n + 1)).latest (c.hooks n)
      (c.state (n + 1)) := by
  obtain ⟨logs, counted⟩ := c.machine_logs n
  have found : (c.ready n).Logs (c.machine n).latest := logs.congr rfl rfl
  obtain ⟨records, hooks, account, logs', -, called⟩ := (c.recorded_way n).account found rfl
  rw [ticks_ready, counted, state_ready] at account
  rw [Course.hooks, called, List.reverse_reverse, logs'.latest]
  exact account

/-! ### States between ticks -/

theorem resting_step {tick : Nat} {before after : State} {records : List TransitionRecord}
    {hooks : List Hook} (account : Machine.Account tick before records hooks after) :
    after ≠ .init ∧ after ≠ .stop := by
  cases account <;> decide

/-- No tick of a course ends in `init` or `stop`. -/
theorem resting (c : Course σ) (n : Nat) : c.state n ≠ .init ∧ c.state n ≠ .stop := by
  cases n with
  | zero => exact ⟨nofun, nofun⟩
  | succ n => exact resting_step (c.account n)

end Course
end FieldbusNode
