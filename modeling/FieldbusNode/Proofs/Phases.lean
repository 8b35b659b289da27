/-
The phases of a cycle on a simulated board.

Everything a cycle does before and after its tick is about inputs, records and time.
It touches neither the amplifier nor what the device knows of it, nor the state;
`Quiet` says so, and a chain of quiet phases is quiet.  So only ticks, and the stop
at the end of a watchdog, are left to look at where outputs are concerned.
-/
import FieldbusNode.Proofs.Cycle
import FieldbusNode.Proofs.Drive
import FieldbusNode.Proofs.Sampling
namespace FieldbusNode

open Simulation (SimBoard)

namespace Device

/-- The device keeps its kind and its limits, and what it knows of its outputs. -/
structure Retains (d d' : Device) : Prop where
  kind : d'.kind = d.kind
  follows : ∀ limits, d.Follows limits → d'.Follows limits
  outputs : d'.outputsEnabled = d.outputsEnabled

theorem Retains.refl (d : Device) : Retains d d :=
  ⟨rfl, fun _ follows => follows, rfl⟩

variable (d : Device) (b : SimBoard)

theorem retains_updateInputs (sinceEdge : Nat) (data : ProcessData) :
    Retains d (d.updateInputs sinceEdge data b).1 := by
  cases d with
  | actuator joint m =>
      rw [updateInputs_actuator]
      exact ⟨rfl, fun _ follows => follows, rfl⟩
  | boom unit => exact ⟨rfl, fun _ follows => follows, rfl⟩
  | imu unit => exact ⟨rfl, fun _ follows => follows, rfl⟩

theorem amplifier_updateInputs (sinceEdge : Nat) (data : ProcessData) :
    (d.updateInputs sinceEdge data b).2.2.amplifier = b.amplifier := by
  rcases d.wiring_updateInputs sinceEdge data b with same | fetched
  · exact SimBoard.amplifier_of_wiring same
  · rw [SimBoard.amplifier_of_wiring fetched]
    rfl

theorem published_updateInputs (sinceEdge : Nat) (data : ProcessData) :
    (d.updateInputs sinceEdge data b).2.2.published = b.published := by
  rcases d.wiring_updateInputs sinceEdge data b with same | fetched
  · exact SimBoard.published_of_wiring same
  · rw [SimBoard.published_of_wiring fetched]
    rfl

/-- A simulated sensor takes every pulse, so nothing is latched. -/
theorem postSync_eq : (d.postSync b).1 = d ∧ (d.postSync b).2.amplifier = b.amplifier ∧
    (d.postSync b).2.published = b.published := by
  cases d <;> exact ⟨rfl, rfl, rfl⟩

end Device

namespace Controller

/-- Between two controllers nothing happened to the outputs or to the state. -/
structure Quiet (c c' : Controller SimBoard) : Prop where
  device : c.device.Retains c'.device
  amplifier : c'.board.amplifier = c.board.amplifier
  state : c'.machine.state = c.machine.state

section Quiet

variable {c c₁ c₂ : Controller SimBoard} {limits : Limits} {kind : Kind}

theorem Quiet.trans (first : Quiet c c₁) (second : Quiet c₁ c₂) : Quiet c c₂ where
  device :=
    { kind := second.device.kind.trans first.device.kind
      follows := fun limits h => second.device.follows limits (first.device.follows limits h)
      outputs := second.device.outputs.trans first.device.outputs }
  amplifier := second.amplifier.trans first.amplifier
  state := second.state.trans first.state

theorem Quiet.sound (quiet : Quiet c c₁) (h : c.mounted.Sound limits kind) :
    c₁.mounted.Sound limits kind :=
  h.congr quiet.device.kind (quiet.device.follows limits) quiet.device.outputs quiet.amplifier

end Quiet

variable (c : Controller SimBoard)

theorem quiet_of_wiring {b : SimBoard} (wiring : b.wiring = c.board.wiring) :
    Quiet c { c with board := b } :=
  ⟨.refl _, SimBoard.amplifier_of_wiring wiring, rfl⟩

/-! ### Before the tick -/

theorem wiring_accountEdge (edge : Edge) :
    (c.accountEdge edge).board.wiring = c.board.wiring :=
  accountEdge_leaves (f := SimBoard.wiring) (fun _ _ => rfl) (fun _ _ => rfl) c edge

theorem quiet_accountEdge (edge : Edge) : Quiet c (c.accountEdge edge) :=
  ⟨.refl _, SimBoard.amplifier_of_wiring (wiring_accountEdge c edge), rfl⟩

theorem quiet_sampleInputs (sinceEdge : Nat) : Quiet c (c.sampleInputs sinceEdge) :=
  ⟨c.device.retains_updateInputs c.board sinceEdge c.data,
    c.device.amplifier_updateInputs c.board sinceEdge c.data, rfl⟩

theorem quiet_exchange : Quiet c c.exchange :=
  ⟨.refl _, rfl, rfl⟩

theorem quiet_afterExchange : Quiet c c.afterExchange := by
  obtain ⟨device, amplifier, -⟩ := c.device.postSync_eq c.board
  refine ⟨?_, amplifier, rfl⟩
  show c.device.Retains (c.device.postSync c.board).1
  rw [device]
  exact .refl _

theorem quiet_feed (edgeSeen : Bool) : Quiet c (c.feed edgeSeen) := by
  unfold feed
  split
  · exact quiet_of_wiring c (SimBoard.wiring_feed _)
  · exact quiet_of_wiring c rfl

theorem quiet_sampleStopLine : Quiet c c.sampleStopLine :=
  ⟨.refl _, SimBoard.amplifier_of_wiring (SimBoard.wiring_noteAll _ _), rfl⟩

/-- Everything before the tick of a cycle is quiet. -/
theorem quiet_readied (edge : Edge) : Quiet c (c.readied edge) :=
  (quiet_accountEdge c edge).trans <| (quiet_sampleInputs _ _).trans <|
    (quiet_exchange _).trans <| (quiet_afterExchange _).trans <|
    (quiet_feed _ true).trans (quiet_sampleStopLine _)

/-! ### Around the cycle -/

theorem quiet_note (e : Event) : Quiet c (c.note e) :=
  quiet_of_wiring c rfl

theorem quiet_publish : Quiet c c.publish :=
  ⟨.refl _, rfl, rfl⟩

theorem wiring_recordCycle (edge : Edge) (sinceEdge : Nat) :
    (c.recordCycle edge sinceEdge).board.wiring = c.board.wiring :=
  recordCycle_leaves (f := SimBoard.wiring) (fun _ _ => rfl) (fun _ _ => rfl) c edge sinceEdge

/-- The wiring behind a cycle is that behind its tick. -/
theorem wiring_syncCycle (edge : Edge) :
    (c.syncCycle edge).board.wiring = (c.readied edge).tick.board.wiring :=
  syncCycle_leaves (f := SimBoard.wiring) (fun _ _ => rfl) (fun _ _ => rfl) c edge

theorem quiet_recordCycle (edge : Edge) (sinceEdge : Nat) :
    Quiet c (c.recordCycle edge sinceEdge) :=
  ⟨.refl _, SimBoard.amplifier_of_wiring (c.wiring_recordCycle edge sinceEdge), rfl⟩

theorem quiet_idlePass : Quiet c c.idlePass := by
  have counted : Quiet c
      { c with statistics := { c.statistics with idlePolls := c.statistics.idlePolls + 1 } } :=
    ⟨.refl _, rfl, rfl⟩
  exact counted.trans (quiet_feed _ false)

end Controller
end FieldbusNode
