/-
The order in which a machine calls its plant.

A plant may rely on five things, whatever it answers.  Commands are applied only in
a tick that stays in `run`.  The halt controller runs only in a tick that ends in
`halt`, or that it ends in `error` itself.  Outputs are energized only on the way
into `run`, as the last call of the tick, behind a reset after which nothing stood
against running.  Behind a call that de-energizes no other call of the tick touches
the outputs.  And outputs are never energized twice without a call that
de-energizes between.

The first four are read off the accounts of one tick.  The last is about whole
courses: what the hooks so far leave of the outputs, `Hook.leaves`, is always what
the state says, so a machine on its way into `run` has de-energized before.
-/
import FieldbusNode.Proofs.Course
namespace FieldbusNode

open Bench (Hook)

namespace Bench.Hook

/-- The call takes the energy off the outputs. -/
def deenergizes : Hook → Bool
  | .disableOutputs | .estop => true
  | _ => false

/-- The call puts energy on the outputs, or may move them. -/
def energizes : Hook → Bool
  | .enableOutputs | .updateOutputs | .runHalt => true
  | _ => false

/-- Whether the outputs are energized after a call, going by the calls alone. -/
def leaves (energized : Bool) : Hook → Bool
  | .enableOutputs => true
  | .disableOutputs | .estop => false
  | _ => energized

/-- Between any two calls that energize the outputs there is one that de-energizes them. -/
def Alternates (hooks : List Hook) : Prop :=
  ∀ before between rest : List Hook,
    hooks = before ++ enableOutputs :: (between ++ enableOutputs :: rest) →
      disableOutputs ∈ between ∨ estop ∈ between

/-- No call energizes outputs that are energized, going by the calls alone. -/
def guarded : Bool → List Hook → Bool
  | _, [] => true
  | energized, hook :: rest =>
    !(energized && hook == .enableOutputs) && guarded (leaves energized hook) rest

theorem guarded_append (energized : Bool) (a b : List Hook) :
    guarded energized (a ++ b) = (guarded energized a && guarded (a.foldl leaves energized) b) := by
  induction a generalizing energized with
  | nil => rfl
  | cons hook rest ih => simp [guarded, ih, Bool.and_assoc]

theorem foldl_leaves_of_energized {hooks : List Hook} (disable : disableOutputs ∉ hooks)
    (stop : estop ∉ hooks) : hooks.foldl leaves true = true := by
  induction hooks with
  | nil => rfl
  | cons hook rest ih =>
      rw [List.mem_cons, not_or] at disable stop
      have stays : leaves true hook = true := by
        cases hook with
        | disableOutputs => exact absurd rfl disable.1
        | estop => exact absurd rfl stop.1
        | _ => rfl
      rw [List.foldl_cons, stays]
      exact ih disable.2 stop.2

theorem alternates_of_guarded {energized : Bool} {hooks : List Hook}
    (h : guarded energized hooks = true) : Alternates hooks := by
  intro before between rest split
  by_cases disable : disableOutputs ∈ between
  · exact Or.inl disable
  by_cases stop : estop ∈ between
  · exact Or.inr stop
  -- At the second call the outputs would still be energized from the first.
  exfalso
  have standing := foldl_leaves_of_energized disable stop
  rw [split, guarded_append, guarded, guarded_append] at h
  simp [guarded, leaves, standing] at h

end Bench.Hook

namespace Machine.Account

variable {tick : Nat} {before after : State} {records : List TransitionRecord}
  {hooks : List Hook}

/-! ### What the account of one tick shows -/

theorem updateOutputs_mem_iff (account : Account tick before records hooks after) :
    .updateOutputs ∈ hooks ↔ before = .run ∧ after = .run := by
  cases account with
  | starts lead => cases lead <;> simp
  | refuses lead => cases lead <;> simp
  | fails cause switched => rcases switched with rfl | rfl <;> simp
  | trips lead switched => cases lead <;> rcases switched with rfl | rfl <;> simp
  | breaks lead => cases lead <;> simp
  | halts lead => cases lead <;> simp
  | givesUp lead => cases lead <;> simp
  | _ => simp

theorem runHalt_mem_iff (account : Account tick before records hooks after) :
    .runHalt ∈ hooks ↔
      after = .halt ∨ ∃ r ∈ records, r.target = .error ∧ r.reason = .haltFailed := by
  cases account with
  | starts lead => cases lead <;> simp
  | refuses lead cause => cases lead <;> rcases cause with rfl | rfl | rfl <;> simp
  | fails cause switched =>
      rcases cause with rfl | rfl | rfl | rfl <;> rcases switched with rfl | rfl <;> simp
  | trips lead switched => cases lead <;> rcases switched with rfl | rfl <;> simp
  | breaks lead => cases lead <;> simp
  | halts lead => cases lead <;> simp
  | givesUp lead => cases lead <;> simp
  | _ => simp

theorem enableOutputs_mem_iff (account : Account tick before records hooks after) :
    .enableOutputs ∈ hooks ↔ ∃ r ∈ records, r.target = .run := by
  cases account with
  | starts lead => cases lead <;> simp
  | refuses lead => cases lead <;> simp
  | fails cause switched => rcases switched with rfl | rfl <;> simp
  | trips lead switched => cases lead <;> rcases switched with rfl | rfl <;> simp
  | breaks lead => cases lead <;> simp
  | halts lead => cases lead <;> simp
  | givesUp lead => cases lead <;> simp
  | _ => simp

/-- A tick that finds an idle machine and energizes the outputs calls nothing else but the stop
line and the reset, and those first. -/
theorem hooks_of_enableOutputs (account : Account tick before records hooks after)
    (rested : before ≠ .init) (h : .enableOutputs ∈ hooks) :
    before = .idle ∧ after = .run ∧ hooks = [.releaseLine, .resetError, .enableOutputs] := by
  cases account with
  | starts lead =>
      cases lead with
      | commanded => exact ⟨rfl, rfl, rfl⟩
      | resumed => exact absurd rfl rested
  | refuses lead => cases lead <;> simp at h
  | fails cause switched => rcases switched with rfl | rfl <;> simp at h
  | trips lead switched => cases lead <;> rcases switched with rfl | rfl <;> simp at h
  | breaks lead => cases lead <;> simp at h
  | halts lead => cases lead <;> simp at h
  | givesUp lead => cases lead <;> simp at h
  | _ => simp at h

/-- Behind a call that de-energizes, no call of the same tick touches the outputs. -/
theorem hooks_ordered (account : Account tick before records hooks after) :
    hooks.Pairwise fun a b => a.deenergizes = true → b.energizes = false := by
  cases account with
  | starts lead => cases lead <;> simp [Hook.deenergizes]
  | refuses lead => cases lead <;> simp [Hook.deenergizes, Hook.energizes]
  | fails cause switched =>
      rcases switched with rfl | rfl <;> simp [Hook.deenergizes, Hook.energizes]
  | trips lead switched =>
      cases lead <;> rcases switched with rfl | rfl <;> simp [Hook.deenergizes, Hook.energizes]
  | breaks lead => cases lead <;> simp [Hook.deenergizes, Hook.energizes]
  | halts lead => cases lead <;> simp
  | givesUp lead => cases lead <;> simp [Hook.deenergizes]
  | _ => simp [Hook.deenergizes, Hook.energizes]

/-- A tick never energizes live outputs, and its calls leave them as the state says. -/
theorem hooks_guarded (account : Account tick before records hooks after) :
    Hook.guarded before.outputsLive hooks = true ∧
      hooks.foldl Hook.leaves before.outputsLive = after.outputsLive := by
  cases account with
  | starts lead => cases lead <;> exact ⟨rfl, rfl⟩
  | refuses lead => cases lead <;> exact ⟨rfl, rfl⟩
  | fails cause switched => rcases switched with rfl | rfl <;> exact ⟨rfl, rfl⟩
  | trips lead switched => cases lead <;> rcases switched with rfl | rfl <;> exact ⟨rfl, rfl⟩
  | breaks lead => cases lead <;> exact ⟨rfl, rfl⟩
  | halts lead => cases lead <;> exact ⟨rfl, rfl⟩
  | givesUp lead => cases lead <;> exact ⟨rfl, rfl⟩
  | _ => exact ⟨rfl, rfl⟩

end Machine.Account

namespace Machine

variable {σ : Type} [Plant σ] {m m' : Machine} {data : ProcessData} {s s' : σ}

/-- The plant as the pre-run checks of an idle machine ask it. -/
def checked (s : σ) : σ :=
  Plant.resetError (Journal.note (.transition .idle .init .commanded) (Plant.releaseLine s))

/-- An idle machine gets into `run` only through checks that find nothing. -/
theorem Way.checks_of_run (way : Way m data s m' s') (before : m.state = .idle)
    (after : m'.state = .run) :
    findings (checked s) = none ∧
      s' = Journal.note (.transition .init .run .initComplete) (Plant.enableOutputs (checked s)) := by
  cases way with
  | starts checking clear =>
      cases checking with
      | commanded => exact ⟨clear, rfl⟩
      | resumed here => simp [here] at before
  | trips | breaks | givesUp => simp at after
  | halts halting => simp [halting.state] at after
  | _ => simp_all

/-- The checks find nothing if all three answers are good. -/
theorem findings_eq_none : findings s = none ↔
    Plant.lineAsserted s = false ∧ Plant.faulty s = false ∧ Plant.wantsHalt s = false := by
  unfold findings initDecision
  cases Plant.lineAsserted s <;> cases Plant.faulty s <;> cases Plant.wantsHalt s <;> simp

end Machine

namespace Course

variable {σ : Type} [Plant σ]

/-- What the calls of one tick of a course obey. -/
structure HooksInOrder (c : Course σ) (n : Nat) : Prop where
  /-- Commands are applied in ticks that stay in `run`. -/
  updates : .updateOutputs ∈ c.hooks n ↔ c.state n = .run ∧ c.state (n + 1) = .run
  /-- The halt controller runs in ticks that end in `halt`, or that its failure ends in `error`. -/
  halts : .runHalt ∈ c.hooks n ↔ c.state (n + 1) = .halt ∨
    ∃ r ∈ (c.machine (n + 1)).latest, r.target = .error ∧ r.reason = .haltFailed
  /-- Outputs are energized in ticks that enter `run`. -/
  enables : .enableOutputs ∈ c.hooks n ↔ ∃ r ∈ (c.machine (n + 1)).latest, r.target = .run
  /-- They are energized last, behind a reset after which nothing stands against running. -/
  checks : .enableOutputs ∈ c.hooks n →
    c.hooks n = [.releaseLine, .resetError, .enableOutputs] ∧
      Plant.lineAsserted (Machine.checked (c.scene n)) = false ∧
      Plant.faulty (Machine.checked (c.scene n)) = false ∧
      Plant.wantsHalt (Machine.checked (c.scene n)) = false ∧
      (c.after (n + 1)).2 = Journal.note (.transition .init .run .initComplete)
        (Plant.enableOutputs (Machine.checked (c.scene n)))
  /-- Behind a call that de-energizes, nothing touches the outputs. -/
  ordered : (c.hooks n).Pairwise fun a b => a.deenergizes = true → b.energizes = false

theorem hooksInOrder (c : Course σ) (n : Nat) : c.HooksInOrder n where
  updates := (c.account n).updateOutputs_mem_iff
  halts := (c.account n).runHalt_mem_iff
  enables := (c.account n).enableOutputs_mem_iff
  checks := by
    intro h
    obtain ⟨before, after, hooks⟩ := (c.account n).hooks_of_enableOutputs (c.resting n).1 h
    obtain ⟨clear, plant⟩ := (c.ready_way n).checks_of_run before after
    obtain ⟨line, fault, zone⟩ := Machine.findings_eq_none.mp clear
    exact ⟨hooks, line, fault, zone, plant⟩
  ordered := (c.account n).hooks_ordered

/-- The calls of the first ticks never energize live outputs, and leave them as the state says. -/
theorem hooks_guarded (c : Course σ) (n : Nat) :
    Hook.guarded false ((List.range n).flatMap c.hooks) = true ∧
      ((List.range n).flatMap c.hooks).foldl Hook.leaves false = (c.state n).outputsLive := by
  induction n with
  | zero => exact ⟨rfl, rfl⟩
  | succ n ih =>
      obtain ⟨guarded, leaves⟩ := ih
      obtain ⟨step, left⟩ := (c.account n).hooks_guarded
      simp only [List.range_succ, List.flatMap_append, List.flatMap_cons, List.flatMap_nil,
        List.append_nil, List.foldl_append, Hook.guarded_append, guarded, leaves, step, left,
        Bool.and_self, and_self]

/--
**Hooks are called in order.**

Every tick of every course calls its plant as `HooksInOrder` says, and over the
whole course energizing calls alternate with de-energizing ones.
-/
theorem hook_protocol (c : Course σ) :
    (∀ n, c.HooksInOrder n) ∧ ∀ n, Hook.Alternates ((List.range n).flatMap c.hooks) :=
  ⟨c.hooksInOrder, fun n => Hook.alternates_of_guarded (c.hooks_guarded n).1⟩

end Course
end FieldbusNode
