/-
A tick that meets a fault.

Four ways lead from `run` and `halt` into `error`, and on each of them a stop line, a
stalled master or a command may be there as well.  If the plant shows a fault none of
that matters: outputs off, emergency stop, stop line, in this order, and nothing
else but reports.
-/
import FieldbusNode.Proofs.Tick
namespace FieldbusNode

variable {σ : Type} [Plant σ]

namespace Machine

/-- What is reported has no part in whether a plant shows a fault. -/
def Frank (σ : Type) [Plant σ] : Prop :=
  ∀ (e : Event) (s : σ), Plant.faulty (Journal.note e s) = Plant.faulty s

variable {m m₁ m' : Machine} {data : ProcessData} {s s₁ s' : σ}

theorem Frank.watched (frank : Frank σ) (m : Machine) (data : ProcessData) (s : σ) :
    Plant.faulty (m.watched data s) = Plant.faulty s :=
  Journal.noteAll_leaves frank _ s

theorem Frank.decision (frank : Frank σ) (m : Machine) (data : ProcessData)
    (faulty : Plant.faulty s = true) : m.decision data s = some (.error, .hardwareFault) :=
  decision_of_faulty ((frank.watched m data s).trans faulty)

theorem Halting.of_faulty (frank : Frank σ) (halting : Halting m data s m₁ s₁)
    (faulty : Plant.faulty s = true) : s₁ = s := by
  cases halting with
  | entered _ decided =>
      rw [frank.decision m data faulty] at decided
      nomatch decided
  | standing => rfl

/-- **A fault in `run` or `halt` ends in `error`, whatever else there is.** -/
theorem Way.of_faulty (frank : Frank σ) (way : Way m data s m' s')
    (live : m.state = .run ∨ m.state = .halt) (faulty : Plant.faulty s = true) :
    m'.state = .error ∧ m'.supervisor.dwell = 0 ∧ ∃ before after : List Event,
      s' = Plant.assertLine (Plant.estop
        (Journal.noteAll after (Plant.disableOutputs (Journal.noteAll before s)))) := by
  have decides := frank.decision m data faulty
  cases way with
  | @fails reason here decided =>
      refine ⟨state_failed _ _, rfl, m.supervisor.observeMasterEvents data.masterCounter,
        [.transition .run .error reason], ?_⟩
      have shows : Plant.faulty (m.watched data s) = true := by rw [frank.watched, faulty]
      rw [secured, if_pos shows]
      rfl
  | trips halting =>
      obtain rfl := halting.of_faulty frank faulty
      refine ⟨state_failed _ _, rfl, [.transition .halt .error .stopLine], [], ?_⟩
      rw [secured, if_pos ((frank _ _).trans faulty)]
      rfl
  | breaks halting =>
      obtain rfl := halting.of_faulty frank faulty
      exact ⟨state_failed _ _, rfl, [], [.transition .halt .error .hardwareFault], rfl⟩
  | runs _ decided | stops _ decided =>
      rw [decides] at decided
      cases decided
  | halts halting _ sound | givesUp halting _ sound =>
      obtain rfl := halting.of_faulty frank faulty
      rw [faulty] at sound
      cases sound
  | starts checking | refuses checking =>
      rcases checking.origin with here | here <;> simp [here] at live
  | _ => simp_all

end Machine
end FieldbusNode
