/-
What a tick does to its supervisor.

The stop line is sampled before a tick, and the tick itself only ever zeroes the
count, in `reset`.  The counter of the master is observed by a tick that finds `run`
and taken as the reference by a tick that starts from the pre-run checks; no other
tick looks at it.

A line that has tripped or a master that has stalled ends in `error` whatever else
there is: `run` asks for both, `halt` for the line.  The pre-run checks ask neither,
they look at the line itself.
-/
import FieldbusNode.Proofs.Tick
namespace FieldbusNode.Machine

variable {σ : Type} [Plant σ] {m m₁ m' : Machine} {data : ProcessData} {s s₁ s' : σ}

/-! ### Parts of the supervisor that ticks leave alone -/

/-- What is read off a supervisor does not depend on the dwell so far, nor on what was seen of the
master. -/
structure Steady {α : Type} (f : Supervisor → α) : Prop where
  rearm : ∀ (v : Supervisor) (counter : UInt16), f (v.rearmMaster counter) = f v
  observe : ∀ (v : Supervisor) (counter : UInt16), f (v.observeMaster counter) = f v
  restart : ∀ v : Supervisor, f v.restartDwell = f v
  dwell : ∀ v : Supervisor, f v.tickDwell = f v

theorem steady_stopLine : Steady Supervisor.stopLine :=
  ⟨fun _ _ => rfl, fun _ _ => rfl, fun _ => rfl, fun _ => rfl⟩

theorem steady_minDwell : Steady Supervisor.minDwell :=
  ⟨fun _ _ => rfl, fun _ _ => rfl, fun _ => rfl, fun _ => rfl⟩

theorem steady_masterLimit : Steady (fun v => v.master.limit) :=
  ⟨fun _ _ => rfl, fun _ _ => rfl, fun _ => rfl, fun _ => rfl⟩

/-- Getting to the pre-run checks leaves all of the supervisor alone. -/
theorem Checking.supervisor_eq (checking : Checking m data s m₁ s₁) :
    m₁.supervisor = m.supervisor := by
  cases checking with
  | commanded => rw [supervisor_moved, supervisor_counted]
  | resumed => rfl

section Steady

variable {α : Type} {f : Supervisor → α} (steady : Steady f)
include steady

theorem Halting.keeps_steady (halting : Halting m data s m₁ s₁) :
    f m₁.supervisor = f m.supervisor := by
  cases halting with
  | entered =>
      rw [supervisor_moved]
      exact steady.observe _ _
  | standing => rfl

/-- A tick keeps what is steady, unless it is a reset that forgets it. -/
theorem Way.keeps_steady (way : Way m data s m' s')
    (kept : m.state = .reset → f m.supervisor.clear = f m.supervisor) :
    f m'.supervisor = f m.supervisor := by
  cases way with
  | waits => rfl
  | starts checking =>
      rw [supervisor_moved]
      exact (steady.rearm _ _).trans (congrArg f checking.supervisor_eq)
  | refuses checking =>
      exact (steady.restart _).trans ((steady.rearm _ _).trans (congrArg f checking.supervisor_eq))
  | runs => exact steady.observe _ _
  | fails => exact (steady.restart _).trans (steady.observe _ _)
  | stops =>
      rw [supervisor_moved, supervisor_moved]
      exact steady.observe _ _
  | finishes => rw [supervisor_moved, supervisor_counted]
  | trips halting => exact (steady.restart _).trans (halting.keeps_steady steady)
  | breaks halting => exact (steady.restart _).trans (halting.keeps_steady steady)
  | halts halting => exact halting.keeps_steady steady
  | givesUp halting => exact (steady.restart _).trans (halting.keeps_steady steady)
  | clears here =>
      rw [supervisor_moved]
      exact kept here
  | dwells => exact steady.dwell _
  | leaves =>
      rw [supervisor_moved]
      exact steady.dwell _

end Steady

/-- The stop line of a halting machine is the one the tick found. -/
theorem Halting.stopLineTripped_eq (halting : Halting m data s m₁ s₁) :
    m₁.supervisor.stopLineTripped = m.supervisor.stopLineTripped :=
  congrArg Debounce.tripped (halting.keeps_steady steady_stopLine)

/-- A tick leaves the debounce of the stop line as it was sampled, outside of `reset`. -/
theorem Way.stopLine_eq (way : Way m data s m' s') (working : m.state ≠ .reset) :
    m'.supervisor.stopLine = m.supervisor.stopLine :=
  way.keeps_steady steady_stopLine fun here => absurd here working

theorem Way.minDwell_eq (way : Way m data s m' s') :
    m'.supervisor.minDwell = m.supervisor.minDwell :=
  way.keeps_steady steady_minDwell fun _ => rfl

theorem Way.masterLimit_eq (way : Way m data s m' s') :
    m'.supervisor.master.limit = m.supervisor.master.limit :=
  way.keeps_steady steady_masterLimit fun _ => rfl

/-- A tick that finds `reset` goes to `idle` with the counts of the faults at zero. -/
theorem Way.of_reset (way : Way m data s m' s') (here : m.state = .reset) :
    m'.state = .idle ∧ m'.supervisor = m.supervisor.clear := by
  cases way with
  | clears => exact ⟨state_moved _ _ _, supervisor_moved _ _ _⟩
  | starts checking | refuses checking => simpa [here] using checking.origin
  | trips halting | breaks halting | halts halting | givesUp halting =>
      simpa [here] using halting.origin
  | _ => simp_all

/-! ### The counter of the master -/

/-- A tick that finds `run` observes the master once, wherever it ends. -/
theorem Way.master_of_run (way : Way m data s m' s') (here : m.state = .run) :
    m'.supervisor.master = m.supervisor.master.observe data.masterCounter := by
  -- A tick that halts from `run` has observed before it looks at the halt.
  have entered {m₁ : Machine} {s₁ : σ} (halting : Halting m data s m₁ s₁) :
      m₁.supervisor.master = m.supervisor.master.observe data.masterCounter := by
    cases halting with
    | entered =>
        rw [supervisor_moved]
        rfl
    | standing there =>
        rw [here] at there
        nomatch there
  have failed {m₁ : Machine} {reason : Reason}
      (before : m₁.supervisor.master = m.supervisor.master.observe data.masterCounter) :
      (m₁.failed reason).supervisor.master = m.supervisor.master.observe data.masterCounter :=
    before
  cases way with
  | runs => rfl
  | fails => rfl
  | stops =>
      rw [supervisor_moved, supervisor_moved]
      rfl
  | trips halting => exact failed (entered halting)
  | breaks halting => exact failed (entered halting)
  | halts halting => exact entered halting
  | givesUp halting => exact failed (entered halting)
  | starts checking | refuses checking =>
      have origin := checking.origin
      simp [here] at origin
  | _ => simp_all

/-- A tick that gets into `run` takes the counter of the master as the reference. -/
theorem Way.master_of_entered (way : Way m data s m' s') (away : m.state ≠ .run)
    (running : m'.state = .run) :
    m'.supervisor.master = m.supervisor.master.rearm data.masterCounter := by
  cases way with
  | starts checking =>
      rw [supervisor_moved, rearmed, checking.supervisor_eq]
      rfl
  | trips | breaks | givesUp => simp at running
  | halts halting => simp [halting.state] at running
  | _ => simp_all

/-! ### Where a trip and a stall lead -/

/-- In `run` a line that has tripped and a master that has stalled both lead to `error`. -/
theorem decision_of_cause
    (cause : m.supervisor.stopLineTripped = true ∨
      (m.supervisor.observeMaster data.masterCounter).masterStalled = true) :
    ∃ reason, m.decision data s = some (.error, reason) := by
  rw [decision, runDecision_ranked]
  by_cases faulty : Plant.faulty (m.watched data s) = true
  · exact ⟨_, if_pos faulty⟩
  rw [if_neg faulty]
  by_cases tripped : m.supervisor.stopLineTripped = true
  · exact ⟨_, if_pos tripped⟩
  rw [if_neg tripped, if_pos (cause.resolve_left tripped)]
  exact ⟨_, rfl⟩

theorem Way.error_of_decision (way : Way m data s m' s') (here : m.state = .run) {reason : Reason}
    (decides : m.decision data s = some (.error, reason)) : m'.state = .error := by
  cases way with
  | fails => exact state_failed _ _
  | trips | breaks | givesUp => exact state_failed _ _
  | runs _ decided | stops _ decided =>
      rw [decides] at decided
      nomatch decided
  | halts halting =>
      cases halting with
      | entered _ decided =>
          rw [decides] at decided
          nomatch decided
      | standing there =>
          rw [here] at there
          nomatch there
  | starts checking | refuses checking =>
      have origin := checking.origin
      simp [here] at origin
  | _ => simp_all

/-- **No machine stays in `run` or `halt` once the stop line has tripped.** -/
theorem Way.error_of_tripped (way : Way m data s m' s') (live : m.state = .run ∨ m.state = .halt)
    (tripped : m.supervisor.stopLineTripped = true) : m'.state = .error := by
  rcases live with here | here
  · obtain ⟨reason, decides⟩ := decision_of_cause (s := s) (Or.inl tripped)
    exact way.error_of_decision here decides
  cases way with
  | trips | breaks | givesUp => exact state_failed _ _
  | halts halting clear =>
      rw [halting.stopLineTripped_eq, tripped] at clear
      nomatch clear
  | starts checking | refuses checking =>
      have origin := checking.origin
      simp [here] at origin
  | _ => simp_all

/-- **No machine stays in `run` once the master has stalled.** -/
theorem Way.error_of_stalled (way : Way m data s m' s') (here : m.state = .run)
    (stalled : (m.supervisor.observeMaster data.masterCounter).masterStalled = true) :
    m'.state = .error := by
  obtain ⟨reason, decides⟩ := decision_of_cause (s := s) (Or.inr stalled)
  exact way.error_of_decision here decides

/-! ### Into `run` and `halt` -/

/-- Only the pre-run checks lead into `run` or `halt` from elsewhere, and they lead into `run`. -/
theorem Way.start (way : Way m data s m' s') (away : ¬(m.state = .run ∨ m.state = .halt))
    (live : m'.state = .run ∨ m'.state = .halt) :
    m'.state = .run ∧ ∃ m₁ s₁, Checking m data s m₁ s₁ ∧ findings (Plant.resetError s₁) = none := by
  cases way with
  | starts checking clear => exact ⟨state_moved _ _ _, _, _, checking, clear⟩
  | halts halting => exact absurd halting.origin away
  | _ => simp_all

/-- No tick ends in `init` or `stop`. -/
theorem Way.rested (way : Way m data s m' s') : m'.state ≠ .init ∧ m'.state ≠ .stop := by
  cases way with
  | halts halting => simp [halting.state]
  | _ => simp_all

end FieldbusNode.Machine
