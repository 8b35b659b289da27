/-
What a tick does to its plant.

Two facts hold of any plant whose hooks obey simple laws.  A property that every
hook keeps is kept by a tick (`Way.keeps`).  And if the hooks that energize and
de-energize do what their names say, the outputs are live after a tick exactly if
it ends in `run` or `halt`, provided they were so before (`Way.outputs_live`): a way into
`run` is the only one that enables outputs, and every way out of `run` and `halt`
disables them.

The laws are asked for on the states of an invariant only, because an actuator
obeys them and a boom, which has no outputs, does not.
-/
import FieldbusNode.Proofs.Tick
namespace FieldbusNode

namespace Plant

variable {σ : Type} [Plant σ]

/-- A property that everything a tick does to a plant keeps. -/
structure Keeps (I : σ → Prop) : Prop where
  note : ∀ (e : Event) (s : σ), I s → I (Journal.note e s)
  enableOutputs : ∀ s : σ, I s → I (Plant.enableOutputs s)
  disableOutputs : ∀ s : σ, I s → I (Plant.disableOutputs s)
  updateOutputs : ∀ (data : ProcessData) (s : σ), I s → I (Plant.updateOutputs data s)
  estop : ∀ s : σ, I s → I (Plant.estop s)
  resetError : ∀ s : σ, I s → I (Plant.resetError s)
  runHalt : ∀ s : σ, I s → I (Plant.runHalt s).2
  assertLine : ∀ s : σ, I s → I (Plant.assertLine s)
  releaseLine : ∀ s : σ, I s → I (Plant.releaseLine s)

/-- The hooks switch the outputs, as far as an invariant holds. -/
structure Switches (I : σ → Prop) (live : σ → Bool) : Prop where
  note : ∀ (e : Event) (s : σ), live (Journal.note e s) = live s
  enableOutputs : ∀ s : σ, I s → live (Plant.enableOutputs s) = true
  disableOutputs : ∀ s : σ, I s → live (Plant.disableOutputs s) = false
  updateOutputs : ∀ (data : ProcessData) (s : σ), live (Plant.updateOutputs data s) = live s
  estop : ∀ s : σ, I s → live (Plant.estop s) = false
  resetError : ∀ s : σ, live (Plant.resetError s) = live s
  runHalt : ∀ s : σ, live (Plant.runHalt s).2 = live s
  assertLine : ∀ s : σ, live (Plant.assertLine s) = live s
  releaseLine : ∀ s : σ, live (Plant.releaseLine s) = live s

end Plant

namespace Machine

variable {σ : Type} [Plant σ] {I : σ → Prop} {live : σ → Bool}
  {m m₁ m' : Machine} {data : ProcessData} {s s₁ s' : σ}

/-! ### Properties that every hook keeps -/

section Keeps

variable (kept : Plant.Keeps I)
include kept

theorem watched_keeps (m : Machine) (data : ProcessData) (h : I s) : I (m.watched data s) :=
  Journal.noteAll_keeps kept.note _ h

theorem secured_keeps (h : I s) : I (secured s) := by
  unfold secured
  split
  · exact kept.disableOutputs s h
  · exact h

theorem Checking.keeps (way : Checking m data s m₁ s₁) (h : I s) : I s₁ := by
  cases way with
  | commanded => exact kept.note _ _ (kept.releaseLine _ h)
  | resumed => exact h

theorem Halting.keeps (way : Halting m data s m₁ s₁) (h : I s) : I s₁ := by
  cases way with
  | entered => exact kept.note _ _ (watched_keeps kept m data h)
  | standing => exact h

/-- **What every hook keeps, a tick keeps.** -/
theorem Way.keeps (way : Way m data s m' s') (h : I s) : I s' := by
  cases way with
  | waits => exact kept.releaseLine _ h
  | starts checking =>
      exact kept.note _ _ (kept.enableOutputs _ (kept.resetError _ (checking.keeps kept h)))
  | refuses checking =>
      exact kept.assertLine _ (kept.estop _
        (kept.note _ _ (kept.resetError _ (checking.keeps kept h))))
  | runs => exact kept.updateOutputs _ _ (watched_keeps kept m data h)
  | fails =>
      exact kept.assertLine _ (kept.estop _
        (kept.note _ _ (secured_keeps kept (watched_keeps kept m data h))))
  | stops =>
      exact kept.note _ _ (kept.disableOutputs _ (kept.note _ _ (watched_keeps kept m data h)))
  | finishes => exact kept.note _ _ (kept.disableOutputs _ h)
  | trips halting =>
      exact kept.assertLine _ (kept.estop _
        (secured_keeps kept (kept.note _ _ (halting.keeps kept h))))
  | breaks halting =>
      exact kept.assertLine _ (kept.estop _
        (kept.note _ _ (kept.disableOutputs _ (halting.keeps kept h))))
  | halts halting => exact kept.runHalt _ (halting.keeps kept h)
  | givesUp halting =>
      exact kept.note _ _ (kept.disableOutputs _ (kept.runHalt _ (halting.keeps kept h)))
  | clears => exact kept.note _ _ (kept.resetError _ (kept.releaseLine _ h))
  | dwells => exact kept.assertLine _ (kept.estop _ h)
  | leaves => exact kept.note _ _ (kept.assertLine _ (kept.estop _ h))

end Keeps

/-! ### Live outputs -/

section Switches

variable (switches : Plant.Switches I live)
include switches

theorem live_watched (m : Machine) (data : ProcessData) (s : σ) :
    live (m.watched data s) = live s :=
  Journal.noteAll_leaves switches.note _ s

/-- A halting machine came there with the outputs it had. -/
theorem Halting.outputs_live (way : Halting m data s m₁ s₁)
    (h : live s = m.state.outputsLive) : live s₁ = true := by
  cases way with
  | entered here => rw [switches.note, live_watched switches, h, here]; rfl
  | standing here => rw [h, here]; rfl

/-- **The outputs are live in `run` and `halt` and nowhere else, tick after tick.** -/
theorem Way.outputs_live (kept : Plant.Keeps I) (way : Way m data s m' s') (inv : I s)
    (h : live s = m.state.outputsLive) : live s' = m'.state.outputsLive := by
  -- An emergency stop ends every way into `error`, whatever came before it.
  have stopped : ∀ {t : σ}, I t → live (Plant.assertLine (Plant.estop t)) = false := by
    intro t inv
    rw [switches.assertLine, switches.estop t inv]
  have watched := watched_keeps kept m data inv
  cases way with
  | waits here => rw [switches.releaseLine, h, state_counted]
  | starts checking =>
      rw [switches.note, switches.enableOutputs _ (kept.resetError _ (checking.keeps kept inv)),
        state_moved]
      rfl
  | refuses checking =>
      rw [stopped (kept.note _ _ (kept.resetError _ (checking.keeps kept inv))), state_failed]
      rfl
  | runs here => rw [switches.updateOutputs, live_watched switches, h]; rfl
  | fails =>
      rw [stopped (kept.note _ _ (secured_keeps kept watched)), state_failed]
      rfl
  | stops =>
      rw [switches.note, switches.disableOutputs _ (kept.note _ _ watched), state_moved]
      rfl
  | finishes => rw [switches.note, switches.disableOutputs _ inv, state_moved]; rfl
  | trips halting =>
      rw [stopped (secured_keeps kept (kept.note _ _ (halting.keeps kept inv))), state_failed]
      rfl
  | breaks halting =>
      rw [stopped (kept.note _ _ (kept.disableOutputs _ (halting.keeps kept inv))), state_failed]
      rfl
  | halts halting => rw [switches.runHalt, halting.outputs_live switches h, halting.state]; rfl
  | givesUp halting =>
      rw [switches.note, switches.disableOutputs _ (kept.runHalt _ (halting.keeps kept inv)),
        state_failed]
      rfl
  | clears here =>
      rw [switches.note, switches.resetError, switches.releaseLine, h, here, state_moved]
      rfl
  | dwells here => rw [stopped inv, state_dwelt, state_counted, here]; rfl
  | leaves => rw [switches.note, stopped inv, state_moved]; rfl

end Switches
end Machine
end FieldbusNode
