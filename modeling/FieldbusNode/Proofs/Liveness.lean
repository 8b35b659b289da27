/-
How long the master has stalled.

The tick that enters `run` takes the counter of the master as the reference, every
tick that starts in `run` compares, and no other tick does.  So while the machine
stays in `run` the count of the stall is the length of the longest row of equal
counters that ends with the latest tick and begins no earlier than the tick that
entered.  A count of ten ends in `error`, which is why a count that is still being
kept is small and never reaches the end of a 32-bit number.
-/
import FieldbusNode.Proofs.Course
import FieldbusNode.Proofs.Tick.Grounds
import Mathlib.Order.Bounds.Defs
namespace FieldbusNode

namespace Machine

variable {σ : Type} [Plant σ] {m m' : Machine} {data : ProcessData} {s s' : σ}

/-- A tick that starts outside of `run` keeps the count of the stall or forgets it. -/
theorem Way.stall_of_away (way : Way m data s m' s') (away : m.state ≠ .run) :
    m'.supervisor.master.errors ≤ m.supervisor.master.errors := by
  have standing {m₁ : Machine} {s₁ : σ} (halting : Halting m data s m₁ s₁) :
      m₁.supervisor.master = m.supervisor.master := by
    cases halting with
    | entered here => exact absurd here away
    | standing => rfl
  have failed {m₁ : Machine} {reason : Reason}
      (same : m₁.supervisor.master = m.supervisor.master) :
      (m₁.failed reason).supervisor.master.errors ≤ m.supervisor.master.errors :=
    Nat.le_of_eq (congrArg Liveness.errors same)
  cases way with
  | waits => exact Nat.le_refl _
  | starts =>
      rw [supervisor_moved]
      exact Nat.zero_le _
  | refuses => exact Nat.zero_le _
  | runs here | fails here | stops here => exact absurd here away
  | finishes =>
      rw [supervisor_moved]
      exact Nat.le_refl _
  | trips halting | breaks halting | givesUp halting => exact failed (standing halting)
  | halts halting => exact Nat.le_of_eq (congrArg Liveness.errors (standing halting))
  | clears =>
      rw [supervisor_moved]
      exact Nat.zero_le _
  | dwells => exact Nat.le_refl _
  | leaves =>
      rw [supervisor_moved]
      exact Nat.le_refl _

end Machine

namespace Course

variable {σ : Type} (c : Course σ) {i t : Nat}

/-! ### Rows of equal counters -/

/-- The counter of the master that a tick runs against. -/
def counter (n : Nat) : UInt16 := (c.turns n).data.masterCounter

/-- A tick and so many before it run against the same counter. -/
def Frozen (n k : Nat) : Prop :=
  ∀ j, n - k ≤ j → j ≤ n → c.counter j = c.counter n

theorem frozen_zero (n : Nat) : c.Frozen n 0 := by
  intro j ge le
  rw [Nat.le_antisymm le ge]

theorem frozen_succ (n k : Nat) :
    c.Frozen (n + 1) (k + 1) ↔ c.counter (n + 1) = c.counter n ∧ c.Frozen n k := by
  constructor
  · intro frozen
    have same : c.counter n = c.counter (n + 1) := frozen n (by omega) (Nat.le_succ n)
    refine ⟨same.symm, ?_⟩
    intro j ge le
    rw [same]
    exact frozen j (by omega) (by omega)
  · rintro ⟨same, frozen⟩ j ge le
    rcases Nat.lt_or_eq_of_le le with lt | rfl
    · rw [same]
      exact frozen j (by omega) (by omega)
    · rfl

/-- One more equal counter makes the longest row longer by one, a different one starts it anew. -/
theorem greatest_step {d n : Nat} (longest : IsGreatest {k | k ≤ d ∧ c.Frozen (i + d) k} n) :
    IsGreatest {k | k ≤ d + 1 ∧ c.Frozen (i + d + 1) k}
      (if c.counter (i + d + 1) = c.counter (i + d) then n + 1 else 0) := by
  obtain ⟨⟨short, frozen⟩, upper⟩ := longest
  split
  · rename_i same
    refine ⟨⟨Nat.succ_le_succ short, (c.frozen_succ _ _).mpr ⟨same, frozen⟩⟩, ?_⟩
    rintro k ⟨le, row⟩
    cases k with
    | zero => exact Nat.zero_le _
    | succ k =>
        have inner : k ≤ d ∧ c.Frozen (i + d) k :=
          ⟨Nat.le_of_succ_le_succ le, ((c.frozen_succ _ _).mp row).2⟩
        exact Nat.succ_le_succ (upper inner)
  · rename_i moved
    refine ⟨⟨Nat.zero_le _, c.frozen_zero _⟩, ?_⟩
    rintro k ⟨-, row⟩
    cases k with
    | zero => exact Nat.le_refl _
    | succ k => exact absurd ((c.frozen_succ _ _).mp row).1 moved

variable [Plant σ]

/-- The count of the stall after a tick. -/
def stall (n : Nat) : Nat := (c.machine (n + 1)).supervisor.master.errors

/-- A tick enters `run`, and all ticks behind it up to another one start there. -/
structure RunsSince (i t : Nat) : Prop where
  later : i < t
  away : c.state i ≠ .run
  stays : ∀ j, i < j → j ≤ t → c.state j = .run

theorem RunsSince.entered {c : Course σ} (runs : c.RunsSince i t) : c.state (i + 1) = .run :=
  runs.stays (i + 1) (Nat.lt_succ_self i) runs.later

/-! ### One tick -/

theorem master_ready (n : Nat) :
    (c.ready n).supervisor.master = (c.machine n).supervisor.master := by
  rw [supervisor_ready]

theorem masterLimit (n : Nat) : (c.machine n).supervisor.master.limit = 10 := by
  induction n with
  | zero => rfl
  | succ n ih => rw [(c.ready_way n).masterLimit_eq, master_ready, ih]

theorem master_of_run {n : Nat} (here : c.state n = .run) :
    (c.machine (n + 1)).supervisor.master =
      (c.machine n).supervisor.master.observe (c.counter n) := by
  have step := (c.ready_way n).master_of_run here
  rwa [master_ready] at step

theorem master_of_entered {n : Nat} (away : c.state n ≠ .run) (entered : c.state (n + 1) = .run) :
    c.stall n = 0 ∧ (c.machine (n + 1)).supervisor.master.previous = c.counter n := by
  have step := (c.ready_way n).master_of_entered away entered
  rw [stall, step]
  exact ⟨rfl, rfl⟩

theorem stalled_iff {n : Nat} (here : c.state n = .run) :
    ((c.ready n).supervisor.observeMaster (c.counter n)).masterStalled = true ↔
      10 ≤ c.stall n := by
  have limit : (c.ready n).supervisor.master.limit = 10 := by rw [master_ready, masterLimit]
  have errors : c.stall n =
      ((c.ready n).supervisor.observeMaster (c.counter n)).master.errors := by
    rw [stall, c.master_of_run here, ← master_ready]
    rfl
  rw [errors, ← limit]
  exact decide_eq_true_iff

/-- A machine that starts a tick in `run` and has counted to ten ends it in `error`. -/
theorem error_of_stall {n : Nat} (here : c.state n = .run) (long : 10 ≤ c.stall n) :
    c.state (n + 1) = .error :=
  (c.ready_way n).error_of_stalled here ((c.stalled_iff here).mpr long)

theorem stall_lt {n : Nat} (running : c.state (n + 1) = .run) : c.stall n < 10 := by
  by_cases here : c.state n = .run
  · apply Nat.lt_of_not_le
    intro long
    rw [c.error_of_stall here long] at running
    nomatch running
  · rw [(c.master_of_entered here running).1]
    decide

/-! ### Ticks in a row -/

/-- What is counted so many ticks behind the entry into `run`. -/
theorem stall_greatest {i : Nat} (away : c.state i ≠ .run) (entered : c.state (i + 1) = .run)
    (d : Nat) (stays : ∀ j, i < j → j ≤ i + d → c.state j = .run) :
    IsGreatest {k | k ≤ d ∧ c.Frozen (i + d) k} (c.stall (i + d)) ∧
      (c.machine (i + d + 1)).supervisor.master.previous = c.counter (i + d) := by
  induction d with
  | zero =>
      obtain ⟨fresh, reference⟩ := c.master_of_entered away entered
      refine ⟨?_, reference⟩
      rw [Nat.add_zero, fresh]
      exact ⟨⟨Nat.le_refl 0, c.frozen_zero i⟩, fun k row => row.1⟩
  | succ d ih =>
      obtain ⟨longest, reference⟩ := ih fun j after le => stays j after (Nat.le_succ_of_le le)
      have here : c.state (i + d + 1) = .run := stays _ (by omega) (Nat.le_refl _)
      have step := c.master_of_run here
      -- A machine that is still in `run` has not counted to ten, so the count has room.
      have small : c.stall (i + d) + 1 ≤ uint32Max :=
        Nat.le_trans (c.stall_lt here) (by decide)
      have count : c.stall (i + d + 1) =
          if c.counter (i + d + 1) = c.counter (i + d) then c.stall (i + d) + 1 else 0 := by
        rw [stall, step, Liveness.observe, reference]
        show (if _ then countUp (c.stall (i + d)) else 0) = _
        rw [countUp, Nat.min_eq_left small]
      refine ⟨?_, ?_⟩
      · rw [← Nat.add_assoc, count]
        exact c.greatest_step longest
      · rw [← Nat.add_assoc, step]
        rfl

/-- A machine that is in `run` got there in some tick, and stayed. -/
theorem exists_runsSince {t : Nat} (here : c.state t = .run) : ∃ i, c.RunsSince i t := by
  induction t with
  | zero => nomatch here
  | succ t ih =>
      by_cases before : c.state t = .run
      · obtain ⟨i, later, away, stays⟩ := ih before
        refine ⟨i, Nat.lt_succ_of_lt later, away, ?_⟩
        intro j after le
        rcases Nat.lt_or_eq_of_le le with lt | rfl
        · exact stays j after (Nat.le_of_lt_succ lt)
        · exact here
      · refine ⟨t, Nat.lt_succ_self t, before, ?_⟩
        intro j after le
        rw [Nat.le_antisymm le after]
        exact here

/-- What is known of a stall of the master at every tick. -/
structure MasterLaw : Prop where
  /-- The count is that of the longest row of equal counters since the tick that entered `run`. -/
  counts : ∀ i t, c.RunsSince i t →
    IsGreatest {k | k ≤ t - i ∧ c.Frozen t k} (c.stall t)
  trips : ∀ i t, c.RunsSince i t → 10 ≤ c.stall t → c.state (t + 1) = .error
  /-- Nothing else is ever put down to the master. -/
  recorded : ∀ t, ∀ r ∈ (c.machine (t + 1)).latest, r.reason = .masterWatchdog →
    ∃ i, c.RunsSince i t ∧ 10 ≤ c.stall t
  /-- Any change of the counter is progress. -/
  progress : ∀ i t, c.RunsSince i t → c.counter t ≠ c.counter (t - 1) → c.stall t = 0
  /-- Entering `run` begins at zero, and ticks that start elsewhere count nothing. -/
  fresh : ∀ i, c.state i ≠ .run → c.state (i + 1) = .run → c.stall i = 0
  outside : ∀ t, c.state t ≠ .run → c.stall t ≤ (c.machine t).supervisor.master.errors

theorem stall_counts (runs : c.RunsSince i t) :
    IsGreatest {k | k ≤ t - i ∧ c.Frozen t k} (c.stall t) := by
  obtain ⟨d, rfl⟩ : ∃ d, t = i + d := Nat.exists_eq_add_of_le (Nat.le_of_lt runs.later)
  rw [Nat.add_sub_cancel_left]
  exact (c.stall_greatest runs.away runs.entered d runs.stays).1

/-- **The master is given up after ten ticks in `run` without progress, and for nothing else.** -/
theorem master_law : c.MasterLaw where
  counts _ _ runs := c.stall_counts runs
  trips _ t runs long := c.error_of_stall (runs.stays t runs.later (Nat.le_refl t)) long
  recorded := by
    intro t r mem named
    have logs := (c.machine_logs t).1
    have dated : (c.ready t).Dated := logs.past
    have grounded := (c.ready_way t).extends.latest dated mem
    obtain ⟨here, stalled⟩ := grounded.masterWatchdog named
    obtain ⟨i, runs⟩ := c.exists_runsSince here
    exact ⟨i, runs, (c.stalled_iff here).mp stalled⟩
  progress := by
    intro i t runs moved
    obtain ⟨-, frozen⟩ := (c.stall_counts runs).1
    obtain ⟨n, rfl⟩ : ∃ n, t = n + 1 :=
      Nat.exists_eq_succ_of_ne_zero (Nat.ne_of_gt (Nat.zero_lt_of_lt runs.later))
    cases count : c.stall (n + 1) with
    | zero => rfl
    | succ k =>
        rw [count] at frozen
        exact absurd ((c.frozen_succ _ _).mp frozen).1 moved
  fresh _ away entered := (c.master_of_entered away entered).1
  outside := by
    intro t away
    have step := (c.ready_way t).stall_of_away away
    rwa [master_ready] at step

/-- A node that is commanded to run while the counter of its master stands still. -/
def standstill : Course Bench.Script where
  config := {}
  plant := {}
  turns _ :=
    { stir := id
      samples := [false]
      data := (Bench.MachineBench.ofConfig {}).data.loadHeader State.run.toByte 7 }

example : standstill.state 10 = .run ∧ standstill.state 11 = .error := by decide +kernel

end Course
end FieldbusNode
