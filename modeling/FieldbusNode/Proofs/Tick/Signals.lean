/-
Signals of a tick.

A signal is a Boolean of a plant that some hooks set and some clear, whatever the plant
answers.  What a tick makes of a signal is then what its hooks make of it one after
another (`tick_signal`).

Two signals tell of trouble: the own assertion of the stop line, and the mark that an
emergency stop leaves.  Different hooks work them, but every account of a tick leaves
both of them on exactly in `error` and in `reset` (`Account.alarm`).  The one exception
is a halt controller that gives up: that tick ends in `error` before the stage of the
state.
-/
import FieldbusNode.Proofs.HookProtocol
import FieldbusNode.Proofs.Tick.Plant
namespace FieldbusNode

open Bench (Hook Recorded)

/-- The hooks of a plant work a signal: each sets it, clears it, or leaves it as it is. -/
structure Plant.Works {σ : Type} [Plant σ] (effect : Hook → Option Bool) (signal : σ → Bool) :
    Prop where
  note : ∀ (e : Event) (s : σ), signal (Journal.note e s) = signal s
  enableOutputs : ∀ s : σ,
    signal (Plant.enableOutputs s) = (effect .enableOutputs).getD (signal s)
  disableOutputs : ∀ s : σ,
    signal (Plant.disableOutputs s) = (effect .disableOutputs).getD (signal s)
  updateOutputs : ∀ (data : ProcessData) (s : σ),
    signal (Plant.updateOutputs data s) = (effect .updateOutputs).getD (signal s)
  estop : ∀ s : σ, signal (Plant.estop s) = (effect .estop).getD (signal s)
  resetError : ∀ s : σ, signal (Plant.resetError s) = (effect .resetError).getD (signal s)
  runHalt : ∀ s : σ, signal (Plant.runHalt s).2 = (effect .runHalt).getD (signal s)
  assertLine : ∀ s : σ, signal (Plant.assertLine s) = (effect .assertLine).getD (signal s)
  releaseLine : ∀ s : σ, signal (Plant.releaseLine s) = (effect .releaseLine).getD (signal s)

namespace Bench.Hook

/-- What hooks make of the own assertion of the stop line. -/
def onLine : Hook → Option Bool
  | .assertLine => some true
  | .releaseLine => some false
  | _ => none

/-- What hooks make of the mark of the emergency stop. -/
def onMark : Hook → Option Bool
  | .estop => some true
  | .resetError => some false
  | _ => none

/-- What hooks, one after another, leave of a signal. -/
def leave (effect : Hook → Option Bool) (hooks : List Hook) (on : Bool) : Bool :=
  hooks.foldl (fun on hook => (effect hook).getD on) on

theorem leave_concat (effect : Hook → Option Bool) (hooks : List Hook) (hook : Hook) (on : Bool) :
    leave effect (hooks ++ [hook]) on = (effect hook).getD (leave effect hooks on) := by
  simp [leave]

end Bench.Hook

open Bench.Hook (onLine onMark leave leave_concat)

namespace Machine

section Works

variable {σ : Type} [Plant σ] {effect : Hook → Option Bool} {signal : σ → Bool}

/-- A recorded plant has the signal that its record says. -/
theorem signal_keeps (works : Plant.Works effect signal) (on : Bool) :
    Plant.Keeps fun r : Recorded σ => signal r.plant = leave effect r.hooks.reverse on := by
  have called {r : Recorded σ} {hook : Hook} {f : σ → σ}
      (worked : signal (f r.plant) = (effect hook).getD (signal r.plant))
      (h : signal r.plant = leave effect r.hooks.reverse on) :
      signal (r.call hook f).plant = leave effect (r.call hook f).hooks.reverse on := by
    have longer : (r.call hook f).hooks.reverse = r.hooks.reverse ++ [hook] := List.reverse_cons
    rw [longer, leave_concat, ← h]
    exact worked
  exact
    { note := fun e r h => (works.note e r.plant).trans h
      enableOutputs := fun r h => called (works.enableOutputs r.plant) h
      disableOutputs := fun r h => called (works.disableOutputs r.plant) h
      updateOutputs := fun data r h => called (works.updateOutputs data r.plant) h
      estop := fun r h => called (works.estop r.plant) h
      resetError := fun r h => called (works.resetError r.plant) h
      runHalt := fun r h => called (works.runHalt r.plant) h
      assertLine := fun r h => called (works.assertLine r.plant) h
      releaseLine := fun r h => called (works.releaseLine r.plant) h }

/-- **A tick leaves of a signal what its hooks leave of it.** -/
theorem tick_signal (works : Plant.Works effect signal) (m : Machine) (data : ProcessData) (s : σ) :
    signal (m.tick data s).2 =
      leave effect (m.tick data (⟨s, []⟩ : Recorded σ)).2.hooks.reverse (signal s) := by
  have way := tick_way m data (⟨s, []⟩ : Recorded σ)
  have kept := way.keeps (signal_keeps works (signal s)) rfl
  rwa [(m.tick_recorded data ⟨s, []⟩).2] at kept

end Works

/-! ### Signals of trouble -/

/-- The halt controller gave up in the latest tick. -/
def GaveUp (m : Machine) : Prop :=
  ∃ r ∈ m.latest, r.target = .error ∧ r.reason = .haltFailed

instance (m : Machine) : Decidable m.GaveUp :=
  inferInstanceAs (Decidable (∃ r ∈ m.latest, r.target = .error ∧ r.reason = .haltFailed))

/-- A machine that ought to be seen to be in trouble. -/
def Alarmed (m : Machine) : Prop :=
  (m.state = .error ∨ m.state = .reset) ∧ ¬m.GaveUp

variable {tick : Nat} {before after : State} {records : List TransitionRecord} {hooks : List Hook}
  {effect : Hook → Option Bool} {on : Bool}

/-- **Either signal of trouble is on exactly in `error` and in `reset`**, unless the tick ran the
halt controller. -/
theorem Account.alarm (account : Account tick before records hooks after)
    (trouble : effect = onLine ∨ effect = onMark)
    (quiet : before ≠ .error → before ≠ .reset → on = false) :
    leave effect hooks on = true ↔ (after = .error ∨ after = .reset) ∧ .runHalt ∉ hooks := by
  rcases trouble with rfl | rfl
  all_goals
    cases account with
    | fails cause switched =>
        rcases switched with rfl | rfl <;> simp [leave, onLine, onMark]
    | trips lead switched =>
        cases lead <;> rcases switched with rfl | rfl <;> simp [leave, onLine, onMark]
    | starts lead | refuses lead | breaks lead | halts lead | givesUp lead =>
        cases lead <;> simp [leave, onLine, onMark, quiet]
    | _ => simp [leave, onLine, onMark, quiet]

/-- In `error` and in `reset` a tick that ran the halt controller is one that gave up. -/
theorem Account.gaveUp_iff (account : Account tick before records hooks after)
    (trouble : after = .error ∨ after = .reset) :
    (∃ r ∈ records, r.target = .error ∧ r.reason = .haltFailed) ↔ .runHalt ∈ hooks := by
  rw [account.runHalt_mem_iff]
  rcases trouble with rfl | rfl <;> simp

theorem Account.error_of_gaveUp (account : Account tick before records hooks after)
    (gaveUp : ∃ r ∈ records, r.target = .error ∧ r.reason = .haltFailed) : after = .error := by
  have ran := account.runHalt_mem_iff.mpr (Or.inr gaveUp)
  cases account with
  | halts lead => cases lead <;> simp at gaveUp
  | starts lead => cases lead <;> simp at ran
  | refuses | fails | trips | breaks | givesUp | dwells => rfl
  | _ => simp at ran

section Tick

variable {σ : Type} [Plant σ] {m : Machine} {data : ProcessData} {old : List TransitionRecord}

/-- A tick is seen as one of the accounts, with the hooks that were recorded of it. -/
theorem tick_seen (logs : m.Logs old) (s : σ) : ∃ records hooks,
    Account (m.ticks + 1) m.state records hooks (m.tick data s).1.state ∧
      (m.tick data s).1.Logs records ∧ (m.tick data s).1.latest = records ∧
      (m.tick data (⟨s, []⟩ : Recorded σ)).2.hooks = hooks.reverse := by
  obtain ⟨records, hooks, account, logs', -, called⟩ :=
    (tick_way m data (⟨s, []⟩ : Recorded σ)).account logs rfl
  rw [(m.tick_recorded data ⟨s, []⟩).1] at account logs'
  exact ⟨records, hooks, account, logs', logs'.latest, called⟩

theorem logs_tick (logs : m.Logs old) (s : σ) :
    (m.tick data s).1.Logs (m.tick data s).1.latest := by
  obtain ⟨records, hooks, -, logs', latest, -⟩ := tick_seen logs s
  rw [latest]
  exact logs'

/-- **A tick leaves either signal of trouble as the machine wants it.** -/
theorem tick_alarm {signal : σ → Bool} (works : Plant.Works effect signal)
    (trouble : effect = onLine ∨ effect = onMark) (logs : m.Logs old) (s : σ)
    (quiet : m.state ≠ .error → m.state ≠ .reset → signal s = false) :
    signal (m.tick data s).2 = true ↔ (m.tick data s).1.Alarmed := by
  obtain ⟨records, hooks, account, -, latest, called⟩ := tick_seen logs s
  rw [tick_signal works, called, List.reverse_reverse, account.alarm trouble quiet, Alarmed]
  refine and_congr_right fun troubled => not_congr ?_
  rw [GaveUp, latest, account.gaveUp_iff troubled]

/-- A tick that ran the halt controller and ends in `error` ended there because the controller gave
up. -/
theorem Way.of_runHalt {m' : Machine} {s s' : Recorded σ} (fresh : s.hooks = [])
    (way : Way m data s m' s') (ran : .runHalt ∈ s'.hooks) (failed : m'.state = .error) :
    ∃ s₁ : Recorded σ, (Plant.runHalt s₁).1 = false ∧
      s' = Journal.note (.transition .halt .error .haltFailed)
        (Plant.disableOutputs (Plant.runHalt s₁).2) := by
  have secured (s : Recorded σ) (ran : .runHalt ∈ (secured s).hooks) : .runHalt ∈ s.hooks := by
    obtain ⟨off, switched, called⟩ := s.hooks_secured
    rcases switched with rfl | rfl <;> simpa [called] using ran
  cases way with
  | givesUp _ _ _ refused => exact ⟨_, refused, rfl⟩
  | halts halting =>
      rw [halting.state] at failed
      nomatch failed
  | starts => simp at failed
  | refuses checking => cases checking <;> simp [fresh] at ran
  | fails =>
      have ran := secured _ (by simpa using ran)
      simp [fresh] at ran
  | trips halting =>
      have ran := secured _ (by simpa using ran)
      cases halting <;> simp [fresh] at ran
  | breaks halting => cases halting <;> simp [fresh] at ran
  | _ => simp [fresh] at ran

/-- **A halt controller that gave up has said so**, and its outputs were switched off behind it. -/
theorem tick_gaveUp (logs : m.Logs old) {s : σ} (gaveUp : (m.tick data s).1.GaveUp) :
    (m.tick data s).1.state = .error ∧ ∃ s₁ : σ, (Plant.runHalt s₁).1 = false ∧
      (m.tick data s).2 = Journal.note (.transition .halt .error .haltFailed)
        (Plant.disableOutputs (Plant.runHalt s₁).2) := by
  obtain ⟨records, hooks, account, -, latest, called⟩ := tick_seen logs s
  rw [GaveUp, latest] at gaveUp
  have failed := account.error_of_gaveUp gaveUp
  have ran : .runHalt ∈ (m.tick data (⟨s, []⟩ : Recorded σ)).2.hooks := by
    rw [called, List.mem_reverse]
    exact account.runHalt_mem_iff.mpr (Or.inr gaveUp)
  obtain ⟨same, plant⟩ := m.tick_recorded data ⟨s, []⟩
  have way := tick_way m data (⟨s, []⟩ : Recorded σ)
  rw [same] at way
  obtain ⟨s₁, refused, after⟩ := way.of_runHalt rfl ran failed
  refine ⟨failed, s₁.plant, refused, ?_⟩
  rw [← plant, after]
  rfl

end Tick
end Machine
end FieldbusNode
