/-
What a tick learns of the inbound record.

A tick asks the record for a command and for the counter of the master, and a machine that
keeps running hands the record on to its plant.  Of the command no more than its meaning is
heard: to a node `idle` is another word for `stop`, and `init` asks for nothing, as a byte
does that names no state.

A tick that enters `error` stays there whatever is commanded, since the dwell starts at
zero.  So the stage of `halt`, which ends in `halt` or in `error`, hears nothing at all
(`tick_of_halt`).
-/
import FieldbusNode.Proofs.Tick
namespace FieldbusNode

namespace State

/-- What a command amounts to. -/
def meaning : Option State → Option State
  | some .idle => some .stop
  | some .init => none
  | command => command

theorem meaning_eq_run (command : Option State) :
    meaning command = some .run ↔ command = some .run := by
  rcases command with _ | s
  · decide
  · cases s <;> decide

theorem meaning_eq_reset (command : Option State) :
    meaning command = some .reset ↔ command = some .reset := by
  rcases command with _ | s
  · decide
  · cases s <;> decide

end State

/-- Two records ask a machine for the same. -/
structure ProcessData.SameOrders (data data' : ProcessData) : Prop where
  command : State.meaning data.command = State.meaning data'.command
  counter : data.masterCounter = data'.masterCounter

namespace ProcessData.SameOrders

variable {data data' : ProcessData}

theorem run (h : SameOrders data data') :
    data.command = some .run ↔ data'.command = some .run := by
  rw [← State.meaning_eq_run, h.command, State.meaning_eq_run]

theorem reset (h : SameOrders data data') :
    data.command = some .reset ↔ data'.command = some .reset := by
  rw [← State.meaning_eq_reset, h.command, State.meaning_eq_reset]

end ProcessData.SameOrders

namespace Machine

/-- A running machine decides by the meaning of a command. -/
theorem runDecision_meaning (command : Option State) (stalled halting tripped faulty : Bool) :
    runDecision (State.meaning command) stalled halting tripped faulty =
      runDecision command stalled halting tripped faulty := by
  rcases command with _ | s
  · rfl
  · cases s <;> rfl

variable {σ : Type} [Plant σ] (m : Machine) (data data' : ProcessData) (s : σ)

/-! ### Stages that hear nothing -/

theorem failStage_deaf (reason : Reason) :
    m.failStage reason data s = m.failStage reason data' s :=
  (errorStage_entered _ data _ rfl).trans (errorStage_entered _ data' _ rfl).symm

theorem haltStage_deaf : m.haltStage data s = m.haltStage data' s := by
  unfold haltStage
  cases m.supervisor.stopLineTripped with
  | true =>
      simp only [if_true]
      split
      · exact failStage_deaf _ data data' _ _
      · exact (errorStage_entered _ data _ rfl).trans (errorStage_entered _ data' _ rfl).symm
  | false =>
      simp only [Bool.false_eq_true, if_false]
      split
      · exact failStage_deaf _ data data' _ _
      · rfl

/-- **Nothing that a master can write changes what a tick does in `halt`.** -/
theorem tick_of_halt (here : m.state = .halt) : m.tick data s = m.tick data' s := by
  rw [tick_eq, tick_eq, here]
  exact haltStage_deaf m.counted data data' s

/-! ### Stages that hear the meaning of a command -/

variable {data data'} (orders : data.SameOrders data')
include orders

theorem errorStage_congr (entered : Bool) :
    m.errorStage data entered s = m.errorStage data' entered s := by
  unfold errorStage
  simp only [orders.reset]

theorem initStage_congr : m.initStage data s = m.initStage data' s := by
  unfold initStage
  rw [orders.counter]
  dsimp only
  split
  · exact failStage_deaf _ data data' _ _
  · rfl

theorem idleStage_congr : m.idleStage data s = m.idleStage data' s := by
  unfold idleStage
  simp only [orders.run, initStage_congr _ _ orders]

variable (applied : ∀ s : σ, Plant.updateOutputs data s = Plant.updateOutputs data' s)
include applied

theorem runStage_congr : m.runStage data s = m.runStage data' s := by
  unfold runStage
  rw [orders.counter]
  dsimp only
  rw [← runDecision_meaning data.command, orders.command, runDecision_meaning]
  split
  · rw [applied]
  · exact failStage_deaf _ data data' _ _
  · exact haltStage_deaf _ data data' _
  · rfl

/-- **A tick against two records that ask for the same is the same, if the plant takes them for the
same.** -/
theorem tick_congr : m.tick data s = m.tick data' s := by
  rw [tick_eq, tick_eq]
  cases m.state with
  | idle => exact idleStage_congr m.counted s orders
  | init => exact initStage_congr m.counted s orders
  | run => exact runStage_congr m.counted s orders applied
  | stop => rfl
  | halt => exact haltStage_deaf m.counted data data' s
  | reset => rfl
  | error => exact errorStage_congr m.counted s orders false

end Machine
end FieldbusNode
