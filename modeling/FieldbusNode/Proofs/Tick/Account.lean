/-
What an observer sees of a tick.

An observer who sees the hooks that are called and the transitions that are
recorded, but nothing of the plant, sees one of the accounts listed in `Account`.
A tick on a recorded plant gives one of them (`tick_account`), whatever plant is
recorded and whatever it answers.  Statements about the order of hooks and about
recorded transitions are then settled on short lists.
-/
import FieldbusNode.Bench.Script
import FieldbusNode.Proofs.Tick.Records
namespace FieldbusNode

open Bench (Hook Recorded)

namespace Bench.Recorded

variable {σ : Type} [Plant σ] (r : Recorded σ)

/-! ### What the hooks of a recorded plant record -/

@[simp] theorem hooks_note (e : Event) : (Journal.note e r).hooks = r.hooks := rfl

@[simp] theorem hooks_noteAll (events : List Event) :
    (Journal.noteAll events r).hooks = r.hooks :=
  Journal.noteAll_leaves (f := hooks) (fun _ _ => rfl) events r

@[simp] theorem hooks_enableOutputs :
    (Plant.enableOutputs r).hooks = .enableOutputs :: r.hooks := rfl

@[simp] theorem hooks_disableOutputs :
    (Plant.disableOutputs r).hooks = .disableOutputs :: r.hooks := rfl

@[simp] theorem hooks_updateOutputs (data : ProcessData) :
    (Plant.updateOutputs data r).hooks = .updateOutputs :: r.hooks := rfl

@[simp] theorem hooks_estop : (Plant.estop r).hooks = .estop :: r.hooks := rfl

@[simp] theorem hooks_resetError : (Plant.resetError r).hooks = .resetError :: r.hooks := rfl

@[simp] theorem hooks_runHalt : (Plant.runHalt r).2.hooks = .runHalt :: r.hooks := rfl

@[simp] theorem hooks_assertLine : (Plant.assertLine r).hooks = .assertLine :: r.hooks := rfl

@[simp] theorem hooks_releaseLine : (Plant.releaseLine r).hooks = .releaseLine :: r.hooks := rfl

@[simp] theorem hooks_watched (m : Machine) (data : ProcessData) :
    (m.watched data r).hooks = r.hooks := hooks_noteAll _ _

theorem hooks_secured :
    ∃ off, (off = [] ∨ off = [Hook.disableOutputs]) ∧ (Machine.secured r).hooks = off ++ r.hooks := by
  unfold Machine.secured
  split
  · exact ⟨[.disableOutputs], Or.inr rfl, rfl⟩
  · exact ⟨[], Or.inl rfl, rfl⟩

end Bench.Recorded

namespace Machine

/-- What is seen of a tick up to its pre-run checks. -/
inductive Account.Checking (tick : Nat) : State → List TransitionRecord → List Hook → Prop
  | commanded :
      Checking tick .idle [⟨tick, .idle, .init, .commanded⟩] [.releaseLine]
  | resumed : Checking tick .init [] []

/-- What is seen of a tick up to its halt controller. -/
inductive Account.Halting (tick : Nat) : State → List TransitionRecord → List Hook → Prop
  | entered {reason : Reason} (cause : reason = .haltRequested ∨ reason = .commanded) :
      Halting tick .run [⟨tick, .run, .halt, reason⟩] []
  | standing : Halting tick .halt [] []

/-- What is seen of a tick: the state before it, the transitions it records and the hooks it calls,
both in order, and the state after it. -/
inductive Account (tick : Nat) : State → List TransitionRecord → List Hook → State → Prop
  | waits : Account tick .idle [] [.releaseLine] .idle
  | starts {before : State} {records : List TransitionRecord} {hooks : List Hook}
      (lead : Account.Checking tick before records hooks) :
      Account tick before (records ++ [⟨tick, .init, .run, .initComplete⟩])
        (hooks ++ [.resetError, .enableOutputs]) .run
  | refuses {before : State} {records : List TransitionRecord} {hooks : List Hook}
      (lead : Account.Checking tick before records hooks) {reason : Reason}
      (cause : reason = .stopLine ∨ reason = .hardwareFault ∨ reason = .haltRequested) :
      Account tick before (records ++ [⟨tick, .init, .error, reason⟩])
        (hooks ++ [.resetError, .estop, .assertLine]) .error
  | runs : Account tick .run [] [.updateOutputs] .run
  | fails {reason : Reason} (cause : reason = .hardwareFault ∨ reason = .stopLine ∨
        reason = .masterWatchdog ∨ reason = .commanded)
      {off : List Hook} (switched : off = [] ∨ off = [.disableOutputs]) :
      Account tick .run [⟨tick, .run, .error, reason⟩] (off ++ [.estop, .assertLine]) .error
  | stops :
      Account tick .run [⟨tick, .run, .stop, .commanded⟩, ⟨tick, .stop, .idle, .completed⟩]
        [.disableOutputs] .idle
  | finishes :
      Account tick .stop [⟨tick, .stop, .idle, .completed⟩] [.disableOutputs] .idle
  | trips {before : State} {records : List TransitionRecord} {hooks : List Hook}
      (lead : Account.Halting tick before records hooks) {off : List Hook}
      (switched : off = [] ∨ off = [.disableOutputs]) :
      Account tick before (records ++ [⟨tick, .halt, .error, .stopLine⟩])
        (hooks ++ off ++ [.estop, .assertLine]) .error
  | breaks {before : State} {records : List TransitionRecord} {hooks : List Hook}
      (lead : Account.Halting tick before records hooks) :
      Account tick before (records ++ [⟨tick, .halt, .error, .hardwareFault⟩])
        (hooks ++ [.disableOutputs, .estop, .assertLine]) .error
  | halts {before : State} {records : List TransitionRecord} {hooks : List Hook}
      (lead : Account.Halting tick before records hooks) :
      Account tick before records (hooks ++ [.runHalt]) .halt
  | givesUp {before : State} {records : List TransitionRecord} {hooks : List Hook}
      (lead : Account.Halting tick before records hooks) :
      Account tick before (records ++ [⟨tick, .halt, .error, .haltFailed⟩])
        (hooks ++ [.runHalt, .disableOutputs]) .error
  | clears :
      Account tick .reset [⟨tick, .reset, .idle, .completed⟩] [.releaseLine, .resetError] .idle
  | dwells : Account tick .error [] [.estop, .assertLine] .error
  | leaves :
      Account tick .error [⟨tick, .error, .reset, .commanded⟩] [.estop, .assertLine] .reset

section Ways

variable {σ : Type} [Plant σ] {m m₁ m' : Machine} {data : ProcessData} {s s₁ s' : Recorded σ}
  {old : List TransitionRecord}

theorem Checking.account (logs : m.Logs old) (fresh : s.hooks = [])
    (way : Checking m data s m₁ s₁) :
    ∃ records hooks, Account.Checking (m.ticks + 1) m.state records hooks ∧
      m₁.Logs records ∧ m₁.ticks = m.ticks + 1 ∧ records.length ≤ 1 ∧
      s₁.hooks = hooks.reverse := by
  cases way with
  | commanded here =>
      have logs₁ := logs.counted.left (by decide) rfl here .init (by decide) .commanded
      rw [here]
      exact ⟨_, _, .commanded, logs₁, by simp, by simp, by simp [fresh]⟩
  | resumed here =>
      rw [here]
      exact ⟨_, _, .resumed, logs.counted, rfl, by simp, fresh⟩

theorem Halting.account (logs : m.Logs old) (fresh : s.hooks = [])
    (way : Halting m data s m₁ s₁) :
    ∃ records hooks, Account.Halting (m.ticks + 1) m.state records hooks ∧
      m₁.Logs records ∧ m₁.ticks = m.ticks + 1 ∧ records.length ≤ 1 ∧
      s₁.hooks = hooks.reverse := by
  cases way with
  | @entered reason here decided =>
      have cause : reason = .haltRequested ∨ reason = .commanded := by
        simpa using decision_cases decided
      have observed : (m.counted.observed data).Logs [] := logs.counted.congr rfl rfl
      have logs₁ := observed.left (by decide) rfl here .halt (by decide) reason
      rw [here]
      exact ⟨_, _, .entered cause, logs₁, by simp, by simp, by simp [fresh]⟩
  | standing here =>
      rw [here]
      exact ⟨_, _, .standing, logs.counted, rfl, by simp, fresh⟩

/-- **A tick is seen as one of the accounts.** -/
theorem Way.account (logs : m.Logs old) (fresh : s.hooks = []) (way : Way m data s m' s') :
    ∃ records hooks, Account (m.ticks + 1) m.state records hooks m'.state ∧
      m'.Logs records ∧ m'.ticks = m.ticks + 1 ∧ s'.hooks = hooks.reverse := by
  have observed : (m.counted.observed data).Logs [] := logs.counted.congr rfl rfl
  cases way with
  | waits here =>
      rw [state_counted, here]
      exact ⟨_, _, .waits, logs.counted, rfl, by simp [fresh]⟩
  | @starts m₁ s₁ checking clear =>
      obtain ⟨records, hooks, lead, logs₁, ticks₁, short, called⟩ := checking.account logs fresh
      have rearmed : (m₁.rearmed data).Logs records := logs₁.congr rfl rfl
      have done := rearmed.left (Nat.lt_of_le_of_lt short (by decide)) ticks₁ checking.state .run
        (by decide) .initComplete
      rw [state_moved]
      exact ⟨_, _, .starts lead, done, by simp [ticks₁], by simp [called]⟩
  | @refuses m₁ s₁ reason checking found =>
      obtain ⟨records, hooks, lead, logs₁, ticks₁, short, called⟩ := checking.account logs fresh
      have rearmed : (m₁.rearmed data).Logs records := logs₁.congr rfl rfl
      have done := rearmed.failed (Nat.lt_of_le_of_lt short (by decide)) ticks₁ checking.state
        (by decide) reason
      rw [state_failed]
      exact ⟨_, _, .refuses lead (findings_cases found), done, by simp [ticks₁], by simp [called]⟩
  | runs here =>
      rw [state_observed, state_counted, here]
      exact ⟨_, _, .runs, observed, rfl, by simp [fresh]⟩
  | @fails reason here decided =>
      have cause : reason = .hardwareFault ∨ reason = .stopLine ∨ reason = .masterWatchdog ∨
          reason = .commanded := by
        simpa using decision_cases decided
      have done := observed.failed (by decide) rfl here (by decide) reason
      obtain ⟨off, switched, called⟩ := Bench.Recorded.hooks_secured (m.watched data s)
      rw [state_failed, here]
      refine ⟨_, _, .fails cause switched, done, by simp, ?_⟩
      rcases switched with rfl | rfl <;> simp [called, fresh]
  | @stops reason here decided =>
      obtain rfl : reason = .commanded := by simpa using decision_cases decided
      have stopping := observed.left (by decide) rfl here .stop (by decide) .commanded
      have done := stopping.left (by simp [historyDepth]) (ticks_moved _ _ _) (state_moved _ _ _)
        .idle (by decide) .completed
      rw [state_moved, here]
      exact ⟨_, _, .stops, done, by simp, by simp [fresh]⟩
  | finishes here =>
      have done := logs.counted.left (by decide) rfl here .idle (by decide) .completed
      rw [state_moved, here]
      exact ⟨_, _, .finishes, done, by simp, by simp [fresh]⟩
  | @trips m₁ s₁ halting =>
      obtain ⟨records, hooks, lead, logs₁, ticks₁, short, called⟩ := halting.account logs fresh
      have done := logs₁.failed (Nat.lt_of_le_of_lt short (by decide)) ticks₁ halting.state
        (by decide) .stopLine
      obtain ⟨off, switched, secured⟩ := Bench.Recorded.hooks_secured
        (Journal.note (.transition .halt .error .stopLine) s₁)
      rw [state_failed]
      refine ⟨_, _, .trips lead switched, done, by simp [ticks₁], ?_⟩
      rcases switched with rfl | rfl <;> simp [secured, called]
  | @breaks m₁ s₁ halting =>
      obtain ⟨records, hooks, lead, logs₁, ticks₁, short, called⟩ := halting.account logs fresh
      have done := logs₁.failed (Nat.lt_of_le_of_lt short (by decide)) ticks₁ halting.state
        (by decide) .hardwareFault
      rw [state_failed]
      exact ⟨_, _, .breaks lead, done, by simp [ticks₁], by simp [called]⟩
  | halts halting =>
      obtain ⟨records, hooks, lead, logs₁, ticks₁, short, called⟩ := halting.account logs fresh
      rw [halting.state]
      exact ⟨_, _, .halts lead, logs₁, ticks₁, by simp [called]⟩
  | @givesUp m₁ s₁ halting =>
      obtain ⟨records, hooks, lead, logs₁, ticks₁, short, called⟩ := halting.account logs fresh
      have done := logs₁.failed (Nat.lt_of_le_of_lt short (by decide)) ticks₁ halting.state
        (by decide) .haltFailed
      rw [state_failed]
      exact ⟨_, _, .givesUp lead, done, by simp [ticks₁], by simp [called]⟩
  | clears here =>
      have cleared : m.counted.cleared.Logs [] := logs.counted.congr rfl rfl
      have done := cleared.left (by decide) rfl here .idle (by decide) .completed
      rw [state_moved, here]
      exact ⟨_, _, .clears, done, by simp, by simp [fresh]⟩
  | dwells here =>
      rw [state_dwelt, state_counted, here]
      exact ⟨_, _, .dwells, logs.counted.congr rfl rfl, rfl, by simp [fresh]⟩
  | leaves here =>
      have dwelt : m.counted.dwelt.Logs [] := logs.counted.congr rfl rfl
      have done := dwelt.left (by decide) rfl here .reset (by decide) .commanded
      rw [state_moved, here]
      exact ⟨_, _, .leaves, done, by simp, by simp [fresh]⟩

end Ways
end Machine
end FieldbusNode
