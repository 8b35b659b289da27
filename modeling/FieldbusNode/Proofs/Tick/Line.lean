/-
The stop line in a tick.

A line is asserted by this node or by somebody else, and a tick can only touch its
own assertion.  `idle`, and the way through `reset`, release it; what asserts it again
ends in `error`.  So a node asserts the line in `error` and in `reset` at most, and one
that gets from anywhere else into `run` has found the line clear.
-/
import FieldbusNode.Proofs.Tick.Supervision
namespace FieldbusNode

/-- The hooks work a line: by itself or by somebody else it is asserted, and two hooks switch the
own assertion. -/
structure Plant.Wired {σ : Type} [Plant σ] (line : σ → Bool × Bool) : Prop where
  asserted : ∀ s : σ, Plant.lineAsserted s = ((line s).1 || (line s).2)
  note : ∀ (e : Event) (s : σ), line (Journal.note e s) = line s
  enableOutputs : ∀ s : σ, line (Plant.enableOutputs s) = line s
  disableOutputs : ∀ s : σ, line (Plant.disableOutputs s) = line s
  updateOutputs : ∀ (data : ProcessData) (s : σ), line (Plant.updateOutputs data s) = line s
  resetError : ∀ s : σ, line (Plant.resetError s) = line s
  runHalt : ∀ s : σ, line (Plant.runHalt s).2 = line s
  releaseLine : ∀ s : σ, line (Plant.releaseLine s) = (false, (line s).2)

namespace Machine

variable {σ : Type} {line : σ → Bool × Bool} {m m₁ m' : Machine} {data : ProcessData} {s s₁ s' : σ}

/-- The node asserts the line itself in `error` and in `reset` only. -/
def OwnLine (line : σ → Bool × Bool) (m : Machine) (s : σ) : Prop :=
  (line s).1 = true → m.state = .error ∨ m.state = .reset

theorem OwnLine.quiet (own : OwnLine line m s) (sound : m.state ≠ .error)
    (set : m.state ≠ .reset) : (line s).1 = false := by
  rw [Bool.eq_false_iff]
  intro asserts
  rcases own asserts with here | here
  · exact sound here
  · exact set here

section Wired

variable [Plant σ] (wired : Plant.Wired line)
include wired

theorem line_watched (m : Machine) (data : ProcessData) (s : σ) :
    line (m.watched data s) = line s :=
  Journal.noteAll_leaves wired.note _ s

theorem Halting.line_eq (halting : Halting m data s m₁ s₁) : line s₁ = line s := by
  cases halting with
  | entered => rw [wired.note, line_watched wired]
  | standing => rfl

/-- A node does not assert the line at its pre-run checks. -/
theorem Checking.line_eq (own : OwnLine line m s) (checking : Checking m data s m₁ s₁) :
    line s₁ = (false, (line s).2) := by
  cases checking with
  | commanded => rw [wired.note, wired.releaseLine]
  | resumed here => rw [← own.quiet (by simp [here]) (by simp [here])]

/-- **A tick leaves no assertion of the line behind but in `error` and in `reset`.** -/
theorem Way.ownLine (own : OwnLine line m s) (way : Way m data s m' s') : OwnLine line m' s' := by
  intro asserts
  cases way with
  | waits =>
      rw [wired.releaseLine] at asserts
      nomatch asserts
  | starts checking =>
      rw [wired.note, wired.enableOutputs, wired.resetError, checking.line_eq wired own] at asserts
      nomatch asserts
  | refuses | fails | trips | breaks | givesUp => exact Or.inl (state_failed _ _)
  | runs here =>
      rw [wired.updateOutputs, line_watched wired] at asserts
      exact own asserts
  | stops here =>
      rw [wired.note, wired.disableOutputs, wired.note, line_watched wired,
        own.quiet (by simp [here]) (by simp [here])] at asserts
      nomatch asserts
  | finishes here =>
      rw [wired.note, wired.disableOutputs, own.quiet (by simp [here]) (by simp [here])] at asserts
      nomatch asserts
  | halts halting =>
      have quiet : (line s).1 = false := by
        rcases halting.origin with here | here <;> exact own.quiet (by simp [here]) (by simp [here])
      rw [wired.runHalt, halting.line_eq wired, quiet] at asserts
      nomatch asserts
  | clears =>
      rw [wired.note, wired.resetError, wired.releaseLine] at asserts
      nomatch asserts
  | dwells here => exact Or.inl here
  | leaves => exact Or.inr (state_moved _ _ _)

/-- **A tick that gets into `run` has found the line clear.** -/
theorem Way.clear_of_start (own : OwnLine line m s) (way : Way m data s m' s')
    (away : ¬(m.state = .run ∨ m.state = .halt)) (live : m'.state = .run ∨ m'.state = .halt) :
    m'.state = .run ∧ (m.state = .idle ∨ m.state = .init) ∧ Plant.lineAsserted s = false := by
  obtain ⟨running, m₁, s₁, checking, clear⟩ := way.start away live
  have origin := checking.origin
  have quiet : (line s).1 = false := by
    rcases origin with here | here <;> exact own.quiet (by simp [here]) (by simp [here])
  have looked : Plant.lineAsserted (Plant.resetError s₁) = false := by
    rw [Bool.eq_false_iff]
    intro asserted
    simp [findings, initDecision, asserted] at clear
  -- The checks look behind a release of the line, which a node that asserts nothing does not need.
  rw [wired.asserted, wired.resetError, checking.line_eq wired own] at looked
  refine ⟨running, origin, ?_⟩
  rw [wired.asserted, quiet]
  exact looked

end Wired
end Machine
end FieldbusNode
