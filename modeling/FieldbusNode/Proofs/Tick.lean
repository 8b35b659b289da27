/-
Every way through a tick.

`Machine.tick` starts in the stage of the current state, and a stage may hand
over to a later one.  Followed to their ends the stages leave a few ways, and
`Way` lists them: a constructor carries what the machine found, and its indices
are the machine and the plant the way ends with.  `tick_way` says that nothing
else can happen.

Every property of a tick is a case analysis over this list.  No other proof opens
the stages, so a change of a stage is a change of one constructor and of one case
of `tick_way`.
-/
import FieldbusNode.Machine
namespace FieldbusNode

namespace Machine

/-! ### What a tick does to the machine alone -/

/-- The machine with one more tick counted. -/
def counted (m : Machine) : Machine :=
  { m with ticks := m.ticks + 1 }

/-- The machine after its pre-run checks took a master counter as reference. -/
def rearmed (m : Machine) (data : ProcessData) : Machine :=
  { m with supervisor := m.supervisor.rearmMaster data.masterCounter }

/-- The machine after it observed a master counter. -/
def observed (m : Machine) (data : ProcessData) : Machine :=
  { m with supervisor := m.supervisor.observeMaster data.masterCounter }

/-- The machine after it entered `error`, where the dwell starts again. -/
def failed (m : Machine) (reason : Reason) : Machine :=
  { m.moved .error reason with supervisor := m.supervisor.restartDwell }

/-- The machine after it counted one more tick of the dwell. -/
def dwelt (m : Machine) : Machine :=
  { m with supervisor := m.supervisor.tickDwell }

/-- The machine after it forgot the stall and the stop-line count. -/
def cleared (m : Machine) : Machine :=
  { m with supervisor := m.supervisor.clear }

section Parts

variable (m : Machine) (data : ProcessData) (target : State) (reason : Reason)

@[simp] theorem state_moved : (m.moved target reason).state = target := by
  unfold moved
  split
  · assumption
  · rfl

@[simp] theorem supervisor_moved : (m.moved target reason).supervisor = m.supervisor := by
  unfold moved
  split <;> rfl

@[simp] theorem ticks_moved : (m.moved target reason).ticks = m.ticks := by
  unfold moved
  split <;> rfl

theorem moved_self (h : m.state = target) : m.moved target reason = m := by
  simp [moved, h]

@[simp] theorem state_counted : m.counted.state = m.state := rfl

@[simp] theorem supervisor_counted : m.counted.supervisor = m.supervisor := rfl

@[simp] theorem ticks_counted : m.counted.ticks = m.ticks + 1 := rfl

@[simp] theorem state_rearmed : (m.rearmed data).state = m.state := rfl

@[simp] theorem ticks_rearmed : (m.rearmed data).ticks = m.ticks := rfl

@[simp] theorem state_observed : (m.observed data).state = m.state := rfl

@[simp] theorem ticks_observed : (m.observed data).ticks = m.ticks := rfl

@[simp] theorem state_failed : (m.failed reason).state = .error := by
  simp [failed]

@[simp] theorem ticks_failed : (m.failed reason).ticks = m.ticks := by
  simp [failed]

@[simp] theorem state_dwelt : m.dwelt.state = m.state := rfl

@[simp] theorem ticks_dwelt : m.dwelt.ticks = m.ticks := rfl

@[simp] theorem state_cleared : m.cleared.state = m.state := rfl

@[simp] theorem ticks_cleared : m.cleared.ticks = m.ticks := rfl

end Parts

/-! ### The ways -/

section Ways

variable {σ : Type} [Plant σ]

/-- The plant a running machine asks about, after a stall of the master was reported. -/
def watched (m : Machine) (data : ProcessData) (s : σ) : σ :=
  Journal.noteAll (m.supervisor.observeMasterEvents data.masterCounter) s

/-- Where a running machine goes in a tick, and why. -/
def decision (m : Machine) (data : ProcessData) (s : σ) : Option (State × Reason) :=
  runDecision data.command (m.supervisor.observeMaster data.masterCounter).masterStalled
    (Plant.wantsHalt (m.watched data s)) m.supervisor.stopLineTripped
    (Plant.faulty (m.watched data s))

/-- The plant with its outputs off, if it shows a fault. -/
def secured (s : σ) : σ :=
  if Plant.faulty s then Plant.disableOutputs s else s

/-- What the pre-run checks find on a plant. -/
def findings (s : σ) : Option Reason :=
  initDecision (Plant.lineAsserted s) (Plant.faulty s) (Plant.wantsHalt s)

/-- How a tick gets to the pre-run checks, and the machine and the plant it gets there with. -/
inductive Checking (m : Machine) (data : ProcessData) (s : σ) : Machine → σ → Prop
  /-- A run command reached an idle machine. -/
  | commanded (here : m.state = .idle) (command : data.command = some .run) :
      Checking m data s (m.counted.moved .init .commanded)
        (Journal.note (.transition .idle .init .commanded) (Plant.releaseLine s))
  /-- The machine was put there. -/
  | resumed (here : m.state = .init) : Checking m data s m.counted s

/-- How a tick gets to the halt controller, and the machine and the plant it gets there with. -/
inductive Halting (m : Machine) (data : ProcessData) (s : σ) : Machine → σ → Prop
  /-- A running machine halts. -/
  | entered {reason : Reason} (here : m.state = .run)
      (decided : m.decision data s = some (.halt, reason)) :
      Halting m data s ((m.counted.observed data).moved .halt reason)
        (Journal.note (.transition .run .halt reason) (m.watched data s))
  /-- The machine has been halting. -/
  | standing (here : m.state = .halt) : Halting m data s m.counted s

/-- A way through a tick from a machine and a plant, with the machine and the plant it ends with. -/
inductive Way (m : Machine) (data : ProcessData) (s : σ) : Machine → σ → Prop
  /-- An idle machine without a run command. -/
  | waits (here : m.state = .idle) (command : data.command ≠ some .run) :
      Way m data s m.counted (Plant.releaseLine s)
  /-- The pre-run checks pass. -/
  | starts {m₁ : Machine} {s₁ : σ} (checking : Checking m data s m₁ s₁)
      (clear : findings (Plant.resetError s₁) = none) :
      Way m data s ((m₁.rearmed data).moved .run .initComplete)
        (Journal.note (.transition .init .run .initComplete)
          (Plant.enableOutputs (Plant.resetError s₁)))
  /-- The pre-run checks find something. -/
  | refuses {m₁ : Machine} {s₁ : σ} {reason : Reason} (checking : Checking m data s m₁ s₁)
      (found : findings (Plant.resetError s₁) = some reason) :
      Way m data s ((m₁.rearmed data).failed reason)
        (Plant.assertLine (Plant.estop
          (Journal.note (.transition .init .error reason) (Plant.resetError s₁))))
  /-- A running machine keeps running. -/
  | runs (here : m.state = .run) (decided : m.decision data s = none) :
      Way m data s (m.counted.observed data) (Plant.updateOutputs data (m.watched data s))
  /-- A running machine fails. -/
  | fails {reason : Reason} (here : m.state = .run)
      (decided : m.decision data s = some (.error, reason)) :
      Way m data s ((m.counted.observed data).failed reason)
        (Plant.assertLine (Plant.estop
          (Journal.note (.transition .run .error reason) (secured (m.watched data s)))))
  /-- A running machine stops. -/
  | stops {reason : Reason} (here : m.state = .run)
      (decided : m.decision data s = some (.stop, reason)) :
      Way m data s (((m.counted.observed data).moved .stop reason).moved .idle .completed)
        (Journal.note (.transition .stop .idle .completed) (Plant.disableOutputs
          (Journal.note (.transition .run .stop reason) (m.watched data s))))
  /-- A machine that was put into `stop` finishes. -/
  | finishes (here : m.state = .stop) :
      Way m data s (m.counted.moved .idle .completed)
        (Journal.note (.transition .stop .idle .completed) (Plant.disableOutputs s))
  /-- The stop line trips a halting machine. -/
  | trips {m₁ : Machine} {s₁ : σ} (halting : Halting m data s m₁ s₁)
      (tripped : m₁.supervisor.stopLineTripped = true) :
      Way m data s (m₁.failed .stopLine)
        (Plant.assertLine (Plant.estop
          (secured (Journal.note (.transition .halt .error .stopLine) s₁))))
  /-- A halting machine meets a fault. -/
  | breaks {m₁ : Machine} {s₁ : σ} (halting : Halting m data s m₁ s₁)
      (clear : m₁.supervisor.stopLineTripped = false) (faulty : Plant.faulty s₁ = true) :
      Way m data s (m₁.failed .hardwareFault)
        (Plant.assertLine (Plant.estop
          (Journal.note (.transition .halt .error .hardwareFault) (Plant.disableOutputs s₁))))
  /-- The halt controller makes a step. -/
  | halts {m₁ : Machine} {s₁ : σ} (halting : Halting m data s m₁ s₁)
      (clear : m₁.supervisor.stopLineTripped = false) (sound : Plant.faulty s₁ = false)
      (succeeded : (Plant.runHalt s₁).1 = true) :
      Way m data s m₁ (Plant.runHalt s₁).2
  /-- The halt controller gives up. -/
  | givesUp {m₁ : Machine} {s₁ : σ} (halting : Halting m data s m₁ s₁)
      (clear : m₁.supervisor.stopLineTripped = false) (sound : Plant.faulty s₁ = false)
      (failed : (Plant.runHalt s₁).1 = false) :
      Way m data s (m₁.failed .haltFailed)
        (Journal.note (.transition .halt .error .haltFailed)
          (Plant.disableOutputs (Plant.runHalt s₁).2))
  /-- A reset finishes. -/
  | clears (here : m.state = .reset) :
      Way m data s (m.counted.cleared.moved .idle .completed)
        (Journal.note (.transition .reset .idle .completed)
          (Plant.resetError (Plant.releaseLine s)))
  /-- A machine stays in `error`. -/
  | dwells (here : m.state = .error)
      (kept : ¬(data.command = some .reset ∧ m.supervisor.tickDwell.dwellElapsed = true)) :
      Way m data s m.counted.dwelt (Plant.assertLine (Plant.estop s))
  /-- A reset command ends the error. -/
  | leaves (here : m.state = .error) (command : data.command = some .reset)
      (elapsed : m.supervisor.tickDwell.dwellElapsed = true) :
      Way m data s (m.counted.dwelt.moved .reset .commanded)
        (Journal.note (.transition .error .reset .commanded) (Plant.assertLine (Plant.estop s)))

/-! ### The stages, one after another -/

theorem enter_of_ne (m : Machine) {target : State} (reason : Reason) (s : σ)
    (h : m.state ≠ target) :
    m.enter target reason s =
      (m.moved target reason, Journal.note (.transition m.state target reason) s) := by
  simp [enter, Journal.noteIf, h]

theorem enter_of_eq (m : Machine) {target : State} (reason : Reason) (s : σ)
    (h : m.state = target) : m.enter target reason s = (m, s) := by
  simp [enter, Journal.noteIf, moved_self m target reason h, h]

theorem enterError_of_ne (m : Machine) (reason : Reason) (s : σ) (h : m.state ≠ .error) :
    m.enterError reason s =
      (m.failed reason, Journal.note (.transition m.state .error reason) s) := by
  unfold enterError
  rw [enter_of_ne m reason s h]
  simp [failed]

/-- The tick that enters `error` cannot leave it: a dwell of zero is never over. -/
theorem errorStage_entered (m : Machine) (data : ProcessData) (s : σ)
    (fresh : m.supervisor.dwell = 0) :
    m.errorStage data true s = (m, Plant.assertLine (Plant.estop s)) := by
  simp [errorStage, Supervisor.dwellElapsed, fresh]

theorem failStage_of_ne (m : Machine) (reason : Reason) (data : ProcessData) (s : σ)
    (h : m.state ≠ .error) :
    m.failStage reason data s =
      (m.failed reason, Plant.assertLine (Plant.estop
        (Journal.note (.transition m.state .error reason) s))) := by
  unfold failStage
  rw [enterError_of_ne m reason s h]
  exact errorStage_entered _ data _ rfl

/-- Failing again only repeats the emergency stop. -/
theorem failStage_failed (m : Machine) (first reason : Reason) (data : ProcessData) (s : σ) :
    (m.failed first).failStage reason data s =
      (m.failed first, Plant.assertLine (Plant.estop s)) := by
  have stays : (m.failed first).enterError reason s = (m.failed first, s) := by
    unfold enterError
    rw [enter_of_eq _ reason s (state_failed m first)]
    rfl
  unfold failStage
  rw [stays]
  exact errorStage_entered _ data _ rfl

variable {m m₁ : Machine} {data : ProcessData} {s s₁ : σ}

theorem Checking.state (h : Checking m data s m₁ s₁) : m₁.state = .init := by
  cases h with
  | commanded => exact state_moved _ _ _
  | resumed here => exact here

theorem Halting.state (h : Halting m data s m₁ s₁) : m₁.state = .halt := by
  cases h with
  | entered => exact state_moved _ _ _
  | standing here => exact here

theorem Checking.origin (h : Checking m data s m₁ s₁) : m.state = .idle ∨ m.state = .init := by
  cases h with
  | commanded here => exact Or.inl here
  | resumed here => exact Or.inr here

theorem Halting.origin (h : Halting m data s m₁ s₁) : m.state = .run ∨ m.state = .halt := by
  cases h with
  | entered here => exact Or.inl here
  | standing here => exact Or.inr here

theorem findings_cases {reason : Reason} (h : findings s = some reason) :
    reason = .stopLine ∨ reason = .hardwareFault ∨ reason = .haltRequested := by
  unfold findings initDecision at h
  split at h
  · simp_all
  split at h
  · simp_all
  split at h <;> simp_all

theorem initStage_eq (m : Machine) (data : ProcessData) (s : σ) :
    m.initStage data s =
      match findings (Plant.resetError s) with
      | some reason => (m.rearmed data).failStage reason data (Plant.resetError s)
      | none =>
        (m.rearmed data).enter .run .initComplete (Plant.enableOutputs (Plant.resetError s)) := rfl

theorem Checking.way (h : Checking m data s m₁ s₁) :
    Way m data s (m₁.initStage data s₁).1 (m₁.initStage data s₁).2 := by
  have here : (m₁.rearmed data).state = .init := h.state
  have idle : (m₁.rearmed data).state ≠ .run := by rw [here]; decide
  have sound : (m₁.rearmed data).state ≠ .error := by rw [here]; decide
  rw [initStage_eq]
  cases found : findings (Plant.resetError s₁) with
  | none =>
      simp only [enter_of_ne _ .initComplete _ idle, here]
      exact .starts h found
  | some reason =>
      simp only [failStage_of_ne _ reason data _ sound, here]
      exact .refuses h found

theorem Halting.way (h : Halting m data s m₁ s₁) :
    Way m data s (m₁.haltStage data s₁).1 (m₁.haltStage data s₁).2 := by
  have here : m₁.state = .halt := h.state
  have away : m₁.state ≠ .error := by rw [here]; decide
  unfold haltStage
  cases tripped : m₁.supervisor.stopLineTripped with
  | true =>
      simp only [if_true, enterError_of_ne m₁ .stopLine s₁ away, here]
      have way := Way.trips h tripped
      -- A fault on top of the trip only switches the outputs off before the same end.
      cases faulty : Plant.faulty (Journal.note (.transition .halt .error .stopLine) s₁) with
      | true =>
          simp only [secured, faulty, if_true] at way
          simpa only [if_true, failStage_failed] using way
      | false =>
          simp only [secured, faulty, Bool.false_eq_true, if_false] at way
          rw [if_neg (by simp), errorStage_entered _ data _ rfl]
          exact way
  | false =>
      simp only [Bool.false_eq_true, if_false]
      cases faulty : Plant.faulty s₁ with
      | true =>
          simp only [if_true, failStage_of_ne m₁ .hardwareFault data _ away, here]
          exact .breaks h tripped faulty
      | false =>
          simp only [Bool.false_eq_true, if_false]
          cases succeeded : (Plant.runHalt s₁).1 with
          | true => simpa only [if_true] using Way.halts h tripped faulty succeeded
          | false =>
              simp only [Bool.false_eq_true, if_false, enterError_of_ne m₁ .haltFailed _ away, here]
              exact .givesUp h tripped faulty succeeded

/-! ### Leaving `run` -/

/-- **The causes to leave `run` are ranked.**  The last check of a tick comes first, and what is
commanded last, but for an error. -/
theorem runDecision_ranked (command : Option State) (stalled halting tripped faulty : Bool) :
    runDecision command stalled halting tripped faulty =
      if faulty then some (.error, .hardwareFault)
      else if tripped then some (.error, .stopLine)
      else if stalled then some (.error, .masterWatchdog)
      else if command = some .error then some (.error, .commanded)
      else if halting then some (.halt, .haltRequested)
      else
        match command with
        | some .halt => some (.halt, .commanded)
        | some .stop | some .idle => some (.stop, .commanded)
        | _ => none := by
  cases faulty with
  | true => rfl
  | false =>
      cases tripped with
      | true => rfl
      | false =>
          cases stalled with
          | true => cases halting <;> rfl
          | false =>
              rcases command with _ | command
              · cases halting <;> rfl
              · cases command <;> cases halting <;> rfl

/-- A fault comes before every other cause. -/
theorem decision_of_faulty (h : Plant.faulty (m.watched data s) = true) :
    m.decision data s = some (.error, .hardwareFault) := by
  rw [decision, runDecision_ranked, if_pos h]

/-- A running machine goes to `error`, `halt` or `stop`, if it goes anywhere, and each for reasons
of its own. -/
theorem decision_cases {target : State} {reason : Reason}
    (h : m.decision data s = some (target, reason)) :
    target = .error ∧ (reason = .hardwareFault ∨ reason = .stopLine ∨
        reason = .masterWatchdog ∨ reason = .commanded) ∨
      target = .halt ∧ (reason = .haltRequested ∨ reason = .commanded) ∨
      target = .stop ∧ reason = .commanded := by
  rw [decision, runDecision_ranked] at h
  split at h
  · simp_all
  split at h
  · simp_all
  split at h
  · simp_all
  split at h
  · simp_all
  split at h
  · simp_all
  split at h <;> simp_all

/-- Without a failure the plant shows no fault, so its outputs stay as they are. -/
theorem secured_of_decision (h : ∀ reason, m.decision data s ≠ some (.error, reason)) :
    secured (m.watched data s) = m.watched data s := by
  unfold secured
  rw [if_neg]
  exact fun faulty => h _ (decision_of_faulty faulty)

theorem runStage_eq (m : Machine) (data : ProcessData) (s : σ) :
    m.counted.runStage data s =
      match m.decision data s with
      | none => (m.counted.observed data, Plant.updateOutputs data (secured (m.watched data s)))
      | some (.error, reason) =>
        (m.counted.observed data).failStage reason data (secured (m.watched data s))
      | some (.halt, reason) =>
        let (m, s) := (m.counted.observed data).enter .halt reason (secured (m.watched data s))
        m.haltStage data s
      | some (_, reason) =>
        let (m, s) := (m.counted.observed data).enter .stop reason (secured (m.watched data s))
        m.stopStage s := rfl

/-- A running machine takes one of the ways out of `run`, or stays. -/
theorem runStage_way (here : m.state = .run) :
    Way m data s (m.counted.runStage data s).1 (m.counted.runStage data s).2 := by
  have running : (m.counted.observed data).state = .run := here
  have sound : (m.counted.observed data).state ≠ .error := by rw [running]; decide
  have awake : (m.counted.observed data).state ≠ .halt := by rw [running]; decide
  have going : (m.counted.observed data).state ≠ .stop := by rw [running]; decide
  rw [runStage_eq]
  cases decided : m.decision data s with
  | none =>
      have safe : secured (m.watched data s) = m.watched data s :=
        secured_of_decision (by simp [decided])
      rw [safe]
      exact .runs here decided
  | some choice =>
      obtain ⟨target, reason⟩ := choice
      obtain ⟨rfl, -⟩ | ⟨rfl, -⟩ | ⟨rfl, -⟩ := decision_cases decided
      · simp only [failStage_of_ne _ reason data _ sound, running]
        exact .fails here decided
      · have safe : secured (m.watched data s) = m.watched data s :=
          secured_of_decision (by simp [decided])
        simp only [safe, enter_of_ne _ reason _ awake, running]
        exact (Halting.entered here decided).way
      · have stopping : ((m.counted.observed data).moved .stop reason).state ≠ .idle := by
          rw [state_moved]; decide
        have safe : secured (m.watched data s) = m.watched data s :=
          secured_of_decision (by simp [decided])
        simp only [safe, enter_of_ne _ reason _ going, running, stopStage,
          enter_of_ne _ .completed _ stopping, state_moved]
        exact .stops here decided

theorem tick_eq (m : Machine) (data : ProcessData) (s : σ) :
    m.tick data s =
      match m.state with
      | .idle => m.counted.idleStage data s
      | .init => m.counted.initStage data s
      | .run => m.counted.runStage data s
      | .stop => m.counted.stopStage s
      | .halt => m.counted.haltStage data s
      | .reset => m.counted.resetStage s
      | .error => m.counted.errorStage data false s := rfl

/-- **Every tick takes one of the ways.** -/
theorem tick_way (m : Machine) (data : ProcessData) (s : σ) :
    Way m data s (m.tick data s).1 (m.tick data s).2 := by
  rw [tick_eq]
  cases here : m.state with
  | idle =>
      unfold idleStage
      by_cases command : data.command = some .run
      · have away : m.counted.state ≠ .init := by simp [here]
        simp only [command, if_true, enter_of_ne _ .commanded _ away, state_counted, here]
        exact (Checking.commanded here command).way
      · simp only [command, if_false]
        exact .waits here command
  | init => exact (Checking.resumed here).way
  | run => exact runStage_way here
  | stop =>
      have away : m.counted.state ≠ .idle := by simp [here]
      simp only [stopStage, enter_of_ne _ .completed _ away, state_counted, here]
      exact .finishes here
  | halt => exact (Halting.standing here).way
  | reset =>
      have away : m.counted.cleared.state ≠ .idle := by simp [here]
      have stage : m.counted.resetStage s =
          m.counted.cleared.enter .idle .completed (Plant.resetError (Plant.releaseLine s)) := rfl
      simp only [stage, enter_of_ne _ .completed _ away, state_cleared, state_counted, here]
      exact .clears here
  | error =>
      have away : m.counted.dwelt.state ≠ .reset := by simp [here]
      have stage : m.counted.errorStage data false s =
          if data.command = some .reset ∧ m.supervisor.tickDwell.dwellElapsed = true then
            m.counted.dwelt.enter .reset .commanded (Plant.assertLine (Plant.estop s))
          else (m.counted.dwelt, Plant.assertLine (Plant.estop s)) := rfl
      simp only [stage]
      split
      · rename_i left
        simp only [enter_of_ne _ .commanded _ away, state_dwelt, state_counted, here]
        exact .leaves here left.1 left.2
      · rename_i kept
        exact .dwells here kept

end Ways
end Machine
end FieldbusNode
