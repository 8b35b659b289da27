/-
Ticks on related plants.

A tick learns of its plant only what the plant answers.  So two plants that are
related, and whose hooks keep them related and give the same answers, take the
same machine to the same machine and stay related (`tick_simulates`).

The first use is that recording hooks does not disturb them: a recorded plant and
the plant in it are related by taking the record away.
-/
import FieldbusNode.Bench.Script
import FieldbusNode.Machine
namespace FieldbusNode

open Bench (Recorded)

/-- The hooks of two plants keep a relation and answer alike wherever it holds. -/
structure Plant.Simulates {σ τ : Type} [Plant σ] [Plant τ] (R : σ → τ → Prop) : Prop where
  note : ∀ (e : Event) {s : σ} {t : τ}, R s t → R (Journal.note e s) (Journal.note e t)
  enableOutputs : ∀ {s : σ} {t : τ}, R s t → R (Plant.enableOutputs s) (Plant.enableOutputs t)
  disableOutputs : ∀ {s : σ} {t : τ}, R s t → R (Plant.disableOutputs s) (Plant.disableOutputs t)
  updateOutputs : ∀ (data : ProcessData) {s : σ} {t : τ}, R s t →
    R (Plant.updateOutputs data s) (Plant.updateOutputs data t)
  estop : ∀ {s : σ} {t : τ}, R s t → R (Plant.estop s) (Plant.estop t)
  resetError : ∀ {s : σ} {t : τ}, R s t → R (Plant.resetError s) (Plant.resetError t)
  runHalt : ∀ {s : σ} {t : τ}, R s t →
    (Plant.runHalt s).1 = (Plant.runHalt t).1 ∧ R (Plant.runHalt s).2 (Plant.runHalt t).2
  assertLine : ∀ {s : σ} {t : τ}, R s t → R (Plant.assertLine s) (Plant.assertLine t)
  releaseLine : ∀ {s : σ} {t : τ}, R s t → R (Plant.releaseLine s) (Plant.releaseLine t)
  faulty : ∀ {s : σ} {t : τ}, R s t → Plant.faulty s = Plant.faulty t
  wantsHalt : ∀ {s : σ} {t : τ}, R s t → Plant.wantsHalt s = Plant.wantsHalt t
  lineAsserted : ∀ {s : σ} {t : τ}, R s t → Plant.lineAsserted s = Plant.lineAsserted t

namespace Machine

variable {σ τ : Type} [Plant σ] [Plant τ] {R : σ → τ → Prop} {s : σ} {t : τ}

/-- The same machine on related plants. -/
def Alike (R : σ → τ → Prop) (p : Machine × σ) (q : Machine × τ) : Prop :=
  p.1 = q.1 ∧ R p.2 q.2

section Stages

variable (sim : Plant.Simulates R)
include sim

theorem noteAll_simulates (events : List Event) {s : σ} {t : τ} (h : R s t) :
    R (Journal.noteAll events s) (Journal.noteAll events t) := by
  unfold Journal.noteAll
  induction events generalizing s t with
  | nil => exact h
  | cons e rest ih => exact ih (sim.note e h)

theorem enter_simulates (m : Machine) (target : State) (reason : Reason) (h : R s t) :
    Alike R (m.enter target reason s) (m.enter target reason t) := by
  refine ⟨rfl, ?_⟩
  unfold enter Journal.noteIf
  split
  · exact sim.note _ h
  · exact h

theorem enterError_simulates (m : Machine) (reason : Reason) (h : R s t) :
    Alike R (m.enterError reason s) (m.enterError reason t) :=
  ⟨rfl, (enter_simulates sim m .error reason h).2⟩

theorem errorStage_simulates (m : Machine) (data : ProcessData) (entered : Bool) (h : R s t) :
    Alike R (m.errorStage data entered s) (m.errorStage data entered t) := by
  have stopped := sim.assertLine (sim.estop h)
  unfold errorStage
  dsimp only
  generalize (if entered = true then m
    else { m with supervisor := m.supervisor.tickDwell }) = counted
  split
  · exact enter_simulates sim _ _ _ stopped
  · exact ⟨rfl, stopped⟩

theorem failStage_simulates (m : Machine) (reason : Reason) (data : ProcessData) (h : R s t) :
    Alike R (m.failStage reason data s) (m.failStage reason data t) :=
  errorStage_simulates sim _ data true (enterError_simulates sim m reason h).2

theorem resetStage_simulates (m : Machine) (h : R s t) :
    Alike R (m.resetStage s) (m.resetStage t) :=
  enter_simulates sim _ _ _ (sim.resetError (sim.releaseLine h))

theorem stopStage_simulates (m : Machine) (h : R s t) :
    Alike R (m.stopStage s) (m.stopStage t) :=
  enter_simulates sim _ _ _ (sim.disableOutputs h)

theorem haltStage_simulates (m : Machine) (data : ProcessData) (h : R s t) :
    Alike R (m.haltStage data s) (m.haltStage data t) := by
  unfold haltStage
  cases m.supervisor.stopLineTripped with
  | true =>
      have entered := (enterError_simulates sim m .stopLine h).2
      simp only [if_true, sim.faulty entered]
      split
      · exact failStage_simulates sim _ _ data (sim.disableOutputs entered)
      · exact errorStage_simulates sim _ data true entered
  | false =>
      simp only [Bool.false_eq_true, if_false, sim.faulty h]
      split
      · exact failStage_simulates sim _ _ data (sim.disableOutputs h)
      · obtain ⟨answer, after⟩ := sim.runHalt h
        rw [answer]
        split
        · exact ⟨rfl, after⟩
        · exact enterError_simulates sim _ _ (sim.disableOutputs after)

theorem runStage_simulates (m : Machine) (data : ProcessData) (h : R s t) :
    Alike R (m.runStage data s) (m.runStage data t) := by
  have watched :=
    noteAll_simulates sim (m.supervisor.observeMasterEvents data.masterCounter) h
  unfold runStage
  dsimp only
  rw [sim.faulty watched, sim.wantsHalt watched]
  generalize Plant.faulty (Journal.noteAll _ t) = faulty
  have secured : R
      (if faulty then Plant.disableOutputs (Journal.noteAll
        (m.supervisor.observeMasterEvents data.masterCounter) s)
        else Journal.noteAll (m.supervisor.observeMasterEvents data.masterCounter) s)
      (if faulty then Plant.disableOutputs (Journal.noteAll
        (m.supervisor.observeMasterEvents data.masterCounter) t)
        else Journal.noteAll (m.supervisor.observeMasterEvents data.masterCounter) t) := by
    split
    · exact sim.disableOutputs watched
    · exact watched
  split
  · exact ⟨rfl, sim.updateOutputs data secured⟩
  · exact failStage_simulates sim _ _ data secured
  · exact haltStage_simulates sim _ data (enter_simulates sim _ .halt _ secured).2
  · exact stopStage_simulates sim _ (enter_simulates sim _ .stop _ secured).2

theorem initStage_simulates (m : Machine) (data : ProcessData) (h : R s t) :
    Alike R (m.initStage data s) (m.initStage data t) := by
  have reset := sim.resetError h
  unfold initStage
  dsimp only
  rw [sim.lineAsserted reset, sim.faulty reset, sim.wantsHalt reset]
  split
  · exact failStage_simulates sim _ _ data reset
  · exact enter_simulates sim _ _ _ (sim.enableOutputs reset)

theorem idleStage_simulates (m : Machine) (data : ProcessData) (h : R s t) :
    Alike R (m.idleStage data s) (m.idleStage data t) := by
  have released := sim.releaseLine h
  unfold idleStage
  dsimp only
  split
  · exact initStage_simulates sim _ data (enter_simulates sim _ .init .commanded released).2
  · exact ⟨rfl, released⟩

/-- **Related plants take a machine to the same machine and stay related.** -/
theorem tick_simulates (m : Machine) (data : ProcessData) (h : R s t) :
    Alike R (m.tick data s) (m.tick data t) := by
  unfold tick
  dsimp only
  split
  · exact idleStage_simulates sim _ data h
  · exact initStage_simulates sim _ data h
  · exact runStage_simulates sim _ data h
  · exact stopStage_simulates sim _ h
  · exact haltStage_simulates sim _ data h
  · exact resetStage_simulates sim _ h
  · exact errorStage_simulates sim _ data false h

end Stages

/-! ### Recording -/

theorem recorded_simulates :
    Plant.Simulates fun (r : Recorded σ) (s : σ) => r.plant = s where
  note _ _ _ h := h ▸ rfl
  enableOutputs h := h ▸ rfl
  disableOutputs h := h ▸ rfl
  updateOutputs _ _ _ h := h ▸ rfl
  estop h := h ▸ rfl
  resetError h := h ▸ rfl
  runHalt h := h ▸ ⟨rfl, rfl⟩
  assertLine h := h ▸ rfl
  releaseLine h := h ▸ rfl
  faulty h := h ▸ rfl
  wantsHalt h := h ▸ rfl
  lineAsserted h := h ▸ rfl

/-- **Recording the hooks of a tick changes nothing else.** -/
theorem tick_recorded (m : Machine) (data : ProcessData) (r : Recorded σ) :
    (m.tick data r).1 = (m.tick data r.plant).1 ∧
      (m.tick data r).2.plant = (m.tick data r.plant).2 :=
  tick_simulates recorded_simulates m data rfl

end Machine
end FieldbusNode
