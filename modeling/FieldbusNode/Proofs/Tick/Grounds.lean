/-
What stands behind a recorded transition.

A record is written by the tick it is dated with, so whatever the reason in it says
was so when that tick ran.  For the two reasons that rest on a count, the stop line
and the master, the machine that the tick found tells: outside of the pre-run checks
its stop line had tripped, or its master had stalled.
-/
import FieldbusNode.Proofs.Tick.Records
import FieldbusNode.Proofs.Tick.Supervision
namespace FieldbusNode.Machine

variable {σ : Type} [Plant σ] {m m₁ m' : Machine} {data : ProcessData} {s s₁ s' : σ}

/-- A record is of the tick that runs on a machine, and its reason is borne out by that machine. -/
structure Grounded (m : Machine) (data : ProcessData) (r : TransitionRecord) : Prop where
  tick : r.tick = m.ticks + 1
  /-- The pre-run checks look at the line itself. -/
  stopLine : r.reason = .stopLine → r.source = .init ∨
    (m.state = .run ∨ m.state = .halt) ∧ m.supervisor.stopLineTripped = true
  masterWatchdog : r.reason = .masterWatchdog → m.state = .run ∧
    (m.supervisor.observeMaster data.masterCounter).masterStalled = true

/-- A machine within the tick that runs on another: what it has recorded since is grounded. -/
structure Extends (m : Machine) (data : ProcessData) (m₁ : Machine) : Prop where
  ticks : m₁.ticks = m.ticks + 1
  history : ∀ r ∈ m₁.history, r ∈ m.history ∨ Grounded m data r

/-- Most reasons rest on nothing that is counted. -/
theorem Grounded.plain {source target : State} {reason : Reason} (line : reason ≠ .stopLine)
    (master : reason ≠ .masterWatchdog) :
    Grounded m data ⟨m.ticks + 1, source, target, reason⟩ :=
  ⟨rfl, fun same => absurd same line, fun same => absurd same master⟩

theorem extends_counted (m : Machine) (data : ProcessData) : Extends m data m.counted :=
  ⟨rfl, fun _ old => Or.inl old⟩

/-- What is recorded is about the history and the count of ticks alone. -/
theorem Extends.congr {m₂ : Machine} (ext : Extends m data m₁) (history : m₂.history = m₁.history)
    (ticks : m₂.ticks = m₁.ticks) : Extends m data m₂ :=
  ⟨ticks.trans ext.ticks, by rw [history]; exact ext.history⟩

theorem mem_history_moved {target : State} {reason : Reason} {r : TransitionRecord}
    (h : r ∈ (m.moved target reason).history) :
    r ∈ m.history ∨ r = ⟨m.ticks, m.state, target, reason⟩ := by
  unfold moved at h
  split at h
  · exact Or.inl h
  · have longer := (remember_sublist _ _).subset h
    rwa [List.mem_append, List.mem_singleton] at longer

theorem Extends.moved (ext : Extends m data m₁) {target : State} {reason : Reason}
    (grounded : Grounded m data ⟨m.ticks + 1, m₁.state, target, reason⟩) :
    Extends m data (m₁.moved target reason) := by
  refine ⟨(ticks_moved _ _ _).trans ext.ticks, ?_⟩
  intro r mem
  rcases mem_history_moved mem with old | rfl
  · exact ext.history r old
  · rw [ext.ticks]
    exact Or.inr grounded

theorem Extends.failed (ext : Extends m data m₁) {reason : Reason}
    (grounded : Grounded m data ⟨m.ticks + 1, m₁.state, .error, reason⟩) :
    Extends m data (m₁.failed reason) :=
  (ext.moved grounded).congr rfl rfl

/-! ### Along a tick -/

theorem Checking.extends (checking : Checking m data s m₁ s₁) : Extends m data m₁ := by
  cases checking with
  | commanded => exact (extends_counted m data).moved (.plain nofun nofun)
  | resumed => exact extends_counted m data

theorem Halting.extends (halting : Halting m data s m₁ s₁) : Extends m data m₁ := by
  cases halting with
  | @entered reason here decided =>
      have cause : reason = .haltRequested ∨ reason = .commanded := by
        simpa using decision_cases decided
      have observed : Extends m data (m.counted.observed data) :=
        (extends_counted m data).congr rfl rfl
      refine observed.moved (.plain ?_ ?_)
      · rcases cause with rfl | rfl <;> nofun
      · rcases cause with rfl | rfl <;> nofun
  | standing => exact extends_counted m data

/-- A running machine that fails for a cause has it. -/
theorem runDecision_error {command : Option State} {stalled halting tripped faulty : Bool}
    {reason : Reason}
    (h : runDecision command stalled halting tripped faulty = some (.error, reason)) :
    (reason = .stopLine → tripped = true) ∧ (reason = .masterWatchdog → stalled = true) := by
  rw [runDecision_ranked] at h
  split at h
  · cases h
    exact ⟨nofun, nofun⟩
  split at h
  · rename_i tripped
    exact ⟨fun _ => tripped, fun same => by simp [same] at h⟩
  split at h
  · rename_i stalled
    exact ⟨fun same => by simp [same] at h, fun _ => stalled⟩
  split at h
  · cases h
    exact ⟨nofun, nofun⟩
  split at h
  · nomatch h
  split at h <;> nomatch h

/-- **Whatever a tick records is grounded.** -/
theorem Way.extends (way : Way m data s m' s') : Extends m data m' := by
  have observed : Extends m data (m.counted.observed data) :=
    (extends_counted m data).congr rfl rfl
  cases way with
  | waits => exact extends_counted m data
  | @starts m₁ _ checking =>
      have rearmed : Extends m data (m₁.rearmed data) := checking.extends.congr rfl rfl
      exact rearmed.moved (.plain nofun nofun)
  | @refuses m₁ _ reason checking found =>
      have rearmed : Extends m data (m₁.rearmed data) := checking.extends.congr rfl rfl
      refine rearmed.failed ⟨rfl, fun _ => Or.inl checking.state, ?_⟩
      intro same
      rcases findings_cases found with rfl | rfl | rfl <;> nomatch same
  | runs => exact observed
  | fails here decided =>
      obtain ⟨tripped, stalled⟩ := runDecision_error decided
      exact observed.failed ⟨rfl, fun same => Or.inr ⟨Or.inl here, tripped same⟩,
        fun same => ⟨here, stalled same⟩⟩
  | @stops reason _ decided =>
      obtain rfl : reason = .commanded := by simpa using decision_cases decided
      have stopping : Extends m data ((m.counted.observed data).moved .stop .commanded) :=
        observed.moved (.plain nofun nofun)
      exact stopping.moved (.plain nofun nofun)
  | finishes => exact (extends_counted m data).moved (.plain nofun nofun)
  | trips halting tripped =>
      rw [halting.stopLineTripped_eq] at tripped
      exact halting.extends.failed ⟨rfl, fun _ => Or.inr ⟨halting.origin, tripped⟩, nofun⟩
  | breaks halting => exact halting.extends.failed (.plain nofun nofun)
  | halts halting => exact halting.extends
  | givesUp halting => exact halting.extends.failed (.plain nofun nofun)
  | clears =>
      have cleared : Extends m data m.counted.cleared := (extends_counted m data).congr rfl rfl
      exact cleared.moved (.plain nofun nofun)
  | dwells => exact (extends_counted m data).congr rfl rfl
  | leaves =>
      have dwelt : Extends m data m.counted.dwelt := (extends_counted m data).congr rfl rfl
      exact dwelt.moved (.plain nofun nofun)

/-! ### What the latest tick recorded -/

/-- No record is of a tick to come. -/
def Dated (m : Machine) : Prop :=
  ∀ r ∈ m.history, r.tick ≤ m.ticks

theorem dated_ofConfig (c : SafetySection) : (ofConfig c).Dated :=
  fun _ mem => nomatch mem

theorem Extends.dated (ext : Extends m data m') (dated : m.Dated) : m'.Dated := by
  intro r mem
  rw [ext.ticks]
  rcases ext.history r mem with old | new
  · exact Nat.le_succ_of_le (dated r old)
  · exact Nat.le_of_eq new.tick

/-- **The records of the latest tick are grounded in the machine it found.** -/
theorem Extends.latest (ext : Extends m data m') (dated : m.Dated) {r : TransitionRecord}
    (mem : r ∈ m'.latest) : Grounded m data r := by
  obtain ⟨mem, now⟩ := List.mem_filter.mp mem
  rcases ext.history r mem with old | new
  · have early := dated r old
    rw [beq_iff_eq, ext.ticks] at now
    omega
  · exact new

end FieldbusNode.Machine
