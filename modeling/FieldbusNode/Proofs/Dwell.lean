/-
The dwell in `error`, and the way out of it.

A tick that enters `error` starts a count, and every later tick that finds the
machine there counts up.  A reset command is honoured once the count is over the
configured dwell, and nothing else ends the error.  A node that runs again has
therefore outwaited the dwell, seen a reset command, and later seen a run command
while it was idle.

The count is `min k uint32Max` after `k` ticks.  Configurations allow a dwell far
below that end of the count, so a machine that stays in `error` long enough never
counts itself out of the reset again.
-/
import FieldbusNode.Config.Validation
import FieldbusNode.Proofs.Course
import FieldbusNode.Proofs.Tick.Supervision
namespace FieldbusNode

/-! ### One tick -/

namespace Machine

variable {σ : Type} [Plant σ] {m m₁ m' : Machine} {data : ProcessData} {s s₁ s' : σ}

theorem Way.dwell_of_entered (way : Way m data s m' s') (away : m.state ≠ .error)
    (entered : m'.state = .error) : m'.supervisor.dwell = 0 := by
  cases way with
  | waits here => rw [state_counted, here] at entered; nomatch entered
  | starts => rw [state_moved] at entered; nomatch entered
  | refuses => rfl
  | runs here => rw [state_observed, state_counted, here] at entered; nomatch entered
  | fails => rfl
  | stops => rw [state_moved] at entered; nomatch entered
  | finishes => rw [state_moved] at entered; nomatch entered
  | trips => rfl
  | breaks => rfl
  | halts halting => rw [halting.state] at entered; nomatch entered
  | givesUp => rfl
  | clears => rw [state_moved] at entered; nomatch entered
  | dwells here => exact absurd here away
  | leaves here => exact absurd here away

/-- A tick that finds `error` counts and stays, unless a reset command may end it. -/
theorem Way.of_error (way : Way m data s m' s') (here : m.state = .error) :
    m'.state = .error ∧ m'.supervisor.dwell = countUp m.supervisor.dwell ∧
        ¬(data.command = some .reset ∧ m.supervisor.minDwell < countUp m.supervisor.dwell) ∨
      m'.state = .reset ∧ data.command = some .reset ∧
        m.supervisor.minDwell < countUp m.supervisor.dwell := by
  have elapsed_iff : m.supervisor.tickDwell.dwellElapsed = true ↔
      m.supervisor.minDwell < countUp m.supervisor.dwell := decide_eq_true_iff
  cases way with
  | dwells _ kept =>
      rw [elapsed_iff] at kept
      exact Or.inl ⟨here, rfl, kept⟩
  | leaves _ command elapsed =>
      exact Or.inr ⟨state_moved _ _ _, command, elapsed_iff.mp elapsed⟩
  | starts checking | refuses checking => simpa [here] using checking.origin
  | trips halting | breaks halting | halts halting | givesUp halting =>
      simpa [here] using halting.origin
  | _ => simp_all

/-- Outside of `init`, a tick gets into `run` only by a run command that reaches `idle`. -/
theorem Way.command_of_run (way : Way m data s m' s') (resting : m.state ≠ .init)
    (away : m.state ≠ .run) (entered : m'.state = .run) :
    m.state = .idle ∧ data.command = some .run := by
  cases way with
  | starts checking =>
      cases checking with
      | commanded here command => exact ⟨here, command⟩
      | resumed here => exact absurd here resting
  | trips => rw [state_failed] at entered; nomatch entered
  | breaks => rw [state_failed] at entered; nomatch entered
  | halts halting => rw [halting.state] at entered; nomatch entered
  | givesUp => rw [state_failed] at entered; nomatch entered
  | _ => simp_all

/-- Nothing but the stop line and the flags is touched in a reset. -/
theorem Account.hooks_of_reset {tick : Nat} {before after : State}
    {records : List TransitionRecord} {hooks : List Bench.Hook}
    (account : Account tick before records hooks after) (here : before = .reset) :
    hooks = [.releaseLine, .resetError] := by
  cases account with
  | clears => rfl
  | starts lead | refuses lead => cases lead <;> nomatch here
  | trips lead | breaks lead | halts lead | givesUp lead => cases lead <;> nomatch here
  | _ => nomatch here

end Machine

/-! ### Ticks in a row -/

/-- A property is kept for so many steps, or there is a first step that loses it. -/
theorem kept_or_lost {P : Nat → Prop} {a : Nat} (start : P a) (k : Nat) :
    (∀ i, a ≤ i → i ≤ a + k → P i) ∨
      ∃ n, a ≤ n ∧ n < a + k ∧ (∀ i, a ≤ i → i ≤ n → P i) ∧ ¬P (n + 1) := by
  induction k with
  | zero =>
      refine Or.inl fun i ge le => ?_
      rwa [Nat.le_antisymm le ge]
  | succ k ih =>
      rcases ih with kept | ⟨n, ge, lt, kept, lost⟩
      · by_cases next : P (a + k + 1)
        · refine Or.inl fun i ge le => ?_
          rcases Nat.lt_or_eq_of_le le with lt | rfl
          · exact kept i ge (Nat.le_of_lt_succ lt)
          · exact next
        · exact Or.inr ⟨a + k, Nat.le_add_right a k, Nat.lt_succ_self _, kept, next⟩
      · exact Or.inr ⟨n, ge, Nat.lt_succ_of_lt lt, kept, lost⟩

/-- A property that holds at one number and not at a later one is lost in a first step between. -/
theorem exists_first_loss {P : Nat → Prop} {a b : Nat} (le : a ≤ b) (start : P a) (stop : ¬P b) :
    ∃ n, a ≤ n ∧ n < b ∧ (∀ i, a ≤ i → i ≤ n → P i) ∧ ¬P (n + 1) := by
  obtain ⟨k, rfl⟩ := Nat.exists_eq_add_of_le le
  rcases kept_or_lost start k with kept | lost
  · exact absurd (kept (a + k) le (Nat.le_refl _)) stop
  · exact lost

namespace Course

variable {σ : Type} [Plant σ]

theorem dwell_ready (c : Course σ) (n : Nat) :
    (c.ready n).supervisor.dwell = (c.machine n).supervisor.dwell := by
  rw [supervisor_ready]

theorem minDwell_ready (c : Course σ) (n : Nat) :
    (c.ready n).supervisor.minDwell = c.config.errorDwell.toNat := by
  have sampled (n : Nat) :
      (c.ready n).supervisor.minDwell = (c.machine n).supervisor.minDwell := by
    rw [supervisor_ready]
  induction n with
  | zero => rw [sampled]; rfl
  | succ n ih => rw [sampled, (c.ready_way n).minDwell_eq, ih]

theorem error_step (c : Course σ) {n : Nat} (here : c.state n = .error) :
    c.state (n + 1) = .error ∧
        (c.machine (n + 1)).supervisor.dwell = countUp (c.machine n).supervisor.dwell ∧
        ¬(c.command n = some .reset ∧
          c.config.errorDwell.toNat < countUp (c.machine n).supervisor.dwell) ∨
      c.state (n + 1) = .reset ∧ c.command n = some .reset ∧
        c.config.errorDwell.toNat < countUp (c.machine n).supervisor.dwell := by
  have step := (c.ready_way n).of_error here
  rw [dwell_ready, minDwell_ready] at step
  exact step

/-- As long as the machine stays in `error`, the dwell counts the ticks behind the entry, up to the
end of the count. -/
theorem dwell_eq (c : Course σ) {e : Nat} (away : c.state e ≠ .error) (k : Nat)
    (stays : ∀ i, e < i → i ≤ e + 1 + k → c.state i = .error) :
    (c.machine (e + 1 + k)).supervisor.dwell = min k uint32Max := by
  induction k with
  | zero =>
      have entered : c.state (e + 1) = .error := stays (e + 1) (by omega) (by omega)
      rw [Nat.zero_min]
      exact (c.ready_way e).dwell_of_entered away entered
  | succ k ih =>
      have before := ih fun i after le => stays i after (by omega)
      have here : c.state (e + 1 + k) = .error := stays _ (by omega) (by omega)
      have there : c.state (e + 1 + k + 1) = .error := stays _ (by omega) (by omega)
      rcases c.error_step here with ⟨-, dwell, -⟩ | ⟨left, -⟩
      · rw [← Nat.add_assoc, dwell, before, countUp]
        omega
      · rw [there] at left
        nomatch left

/-- What follows a tick that entered `error`. -/
structure Outwaits (c : Course σ) (e : Nat) : Prop where
  /-- The tick of the entry and as many as the dwell behind it end in `error`, and are counted. -/
  dwells : ∀ k ≤ c.config.errorDwell.toNat,
    c.state (e + 1 + k) = .error ∧ (c.machine (e + 1 + k)).supervisor.dwell = k
  /-- Behind these a machine that still is in `error` follows a reset command, and no other. -/
  leaves : ∀ n, e + c.config.errorDwell.toNat < n → (∀ i, e < i → i ≤ n → c.state i = .error) →
    c.state (n + 1) = if c.command n = some .reset then .reset else .error
  /-- A reset takes one tick, which clears the faults whatever it is commanded. -/
  clears : ∀ n, c.state (n + 1) = .reset →
    c.state (n + 2) = .idle ∧ c.hooks (n + 1) = [.releaseLine, .resetError] ∧
      (c.machine (n + 2)).supervisor.stopLine.count = 0 ∧
      (c.machine (n + 2)).supervisor.master.errors = 0
  /-- Only a reset command behind the dwell and a later run command in `idle` lead back to `run`. -/
  returns : ∀ n, e < n → c.state n = .run → ∃ j k, e + c.config.errorDwell.toNat < j ∧ j < k ∧
    k < n ∧ (∀ i, e < i → i ≤ j → c.state i = .error) ∧ c.command j = some .reset ∧
    c.state k = .idle ∧ c.command k = some .run

theorem error_of_le (c : Course σ) {cycleTime : Nat} (valid : c.config.Valid cycleTime) {e : Nat}
    (away : c.state e ≠ .error) (entered : c.state (e + 1) = .error) (k : Nat)
    (le : k ≤ c.config.errorDwell.toNat) :
    c.state (e + 1 + k) = .error ∧ (c.machine (e + 1 + k)).supervisor.dwell = k := by
  have wide : 600000 < uint32Max := by decide
  have short := valid.errorDwell.2
  induction k with
  | zero => exact ⟨entered, (c.ready_way e).dwell_of_entered away entered⟩
  | succ k ih =>
      obtain ⟨here, dwell⟩ := ih (by omega)
      have counted : countUp k = k + 1 := by
        rw [countUp]
        omega
      have step := c.error_step here
      rw [dwell, counted] at step
      rcases step with ⟨there, next, -⟩ | ⟨-, -, elapsed⟩
      · exact ⟨there, next⟩
      · omega

/-- The dwell of a machine that stays in `error` never is too short again. -/
theorem dwell_elapsed (c : Course σ) {cycleTime : Nat} (valid : c.config.Valid cycleTime) {e n : Nat}
    (away : c.state e ≠ .error) (later : e + c.config.errorDwell.toNat < n)
    (stays : ∀ i, e < i → i ≤ n → c.state i = .error) :
    c.config.errorDwell.toNat < countUp (c.machine n).supervisor.dwell := by
  have wide : 600000 < uint32Max := by decide
  have short := valid.errorDwell.2
  obtain ⟨k, rfl⟩ : ∃ k, n = e + 1 + k := Nat.exists_eq_add_of_le (by omega)
  rw [c.dwell_eq away k stays, countUp]
  omega

theorem reset_step (c : Course σ) {n : Nat} (here : c.state n = .reset) :
    c.state (n + 1) = .idle ∧ c.hooks n = [.releaseLine, .resetError] ∧
      (c.machine (n + 1)).supervisor.stopLine.count = 0 ∧
      (c.machine (n + 1)).supervisor.master.errors = 0 := by
  obtain ⟨there, cleared⟩ := (c.ready_way n).of_reset here
  exact ⟨there, (c.account n).hooks_of_reset here, by rw [cleared]; rfl, by rw [cleared]; rfl⟩

/-- The first tick that gets into `run` again finds `idle`, so the error was left before it. -/
theorem run_after_error (c : Course σ) {cycleTime : Nat} (valid : c.config.Valid cycleTime)
    {e n : Nat} (away : c.state e ≠ .error) (entered : c.state (e + 1) = .error) (later : e < n)
    (running : c.state n = .run) : ∃ j k, e + c.config.errorDwell.toNat < j ∧ j < k ∧ k < n ∧
      (∀ i, e < i → i ≤ j → c.state i = .error) ∧ c.command j = some .reset ∧
      c.state k = .idle ∧ c.command k = some .run := by
  have stopped : c.state (e + 1) ≠ .run := by simp [entered]
  obtain ⟨k, after, before, kept, runs⟩ :=
    exists_first_loss (P := fun i => c.state i ≠ .run) later stopped (not_not_intro running)
  obtain ⟨idle, started⟩ := (c.ready_way k).command_of_run (c.resting k).1
    (kept k after (Nat.le_refl k)) (Decidable.not_not.mp runs)
  have calm : c.state k ≠ .error := by
    rw [show c.state k = .idle from idle]
    nofun
  obtain ⟨j, start, lt, stays, left⟩ :=
    exists_first_loss (P := fun i => c.state i = .error) after entered calm
  rcases c.error_step (stays j start (Nat.le_refl j)) with ⟨there, -⟩ | ⟨-, command, -⟩
  · exact absurd there left
  refine ⟨j, k, ?_, lt, before, stays, command, idle, started⟩
  apply Nat.lt_of_not_le
  intro early
  apply left
  obtain ⟨d, rfl⟩ : ∃ d, j = e + d := Nat.exists_eq_add_of_le (by omega)
  have held := (c.error_of_le valid away entered d (by omega)).1
  rwa [Nat.add_right_comm] at held

/--
**An error outlasts its dwell, and only a reset command ends it.**

Under a safety configuration that passes its checks, every tick that enters `error` is followed as
`Outwaits` says.
-/
theorem error_dwell (c : Course σ) {cycleTime : Nat} (valid : c.config.Valid cycleTime) {e : Nat}
    (away : c.state e ≠ .error) (entered : c.state (e + 1) = .error) : c.Outwaits e where
  dwells := c.error_of_le valid away entered
  leaves := by
    intro n later stays
    have here : c.state n = .error := stays n (by omega) (Nat.le_refl n)
    have elapsed := c.dwell_elapsed valid away later stays
    rcases c.error_step here with ⟨there, -, kept⟩ | ⟨left, command, -⟩
    · rw [if_neg fun command => kept ⟨command, elapsed⟩]
      exact there
    · rw [if_pos command]
      exact left
  clears := fun n here => c.reset_step here
  returns := fun _ later running => c.run_after_error valid away entered later running

/-- A node that meets a fault in its second tick and is commanded to reset and to run again.  The
first reset command comes within the dwell. -/
def mishap : Course Bench.Script where
  config := { errorDwell := 1 }
  plant := {}
  turns n :=
    let commands : List State := [.run, .run, .reset, .reset, .idle, .run]
    let data := (Bench.MachineBench.ofConfig {}).data
    { stir := fun s => { s with latchedFault := s.latchedFault || n = 1 }
      samples := [false]
      data := data.loadHeader (commands.getD n .idle).toByte (UInt16.ofNat n) }

/-- The node of `mishap` outwaits its error and runs again. -/
theorem error_dwell_mishap :
    mishap.config.Valid 1000 ∧ mishap.state 1 ≠ .error ∧ mishap.state 2 = .error ∧
      mishap.state 6 = .run ∧ mishap.Outwaits 1 := by
  have valid : mishap.config.Valid 1000 := ⟨by decide, by decide, by decide⟩
  have away : mishap.state 1 ≠ .error := by decide
  have entered : mishap.state 2 = .error := by decide
  exact ⟨valid, away, entered, by decide, mishap.error_dwell valid away entered⟩

end Course
end FieldbusNode
