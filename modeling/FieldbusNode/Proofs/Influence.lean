/-
What a master can make a difference with.

Of an inbound record a node takes the command, the counter and, if it drives a motor, the
current.  The current goes to the amplifier and nowhere else: two runs in which the masters
send different values behind the header are alike but for the current of the motor, and a
value that the layout has no room for makes no difference at all
(`current_cannot_steer`).  The command counts for what it means, and in `halt` not even for
that (`only_meaning_matters`).

Both compare two runs pass by pass.  What is compared is all there is: the outcome of the
pass, the hooks its tick calls, and the node it leaves, with its board.
-/
import FieldbusNode.Proofs.Twins
namespace FieldbusNode

open Bench (Hook)
open Simulation (SimBoard Rig Move Shadows Aside)

/-! ### What is compared -/

namespace Controller

variable {c c' : Controller SimBoard} {alike : UInt8 → UInt8 → Prop} {n : Nat} {hidden : Bool}

/-- All that a pass shows: its outcome, the hooks of its tick, and the node behind it without
the inbound record and, if it is hidden, the current of the motor. -/
def sight (hidden : Bool) (c : Controller SimBoard) :
    Except Expiry Outcome × List Hook × Controller SimBoard :=
  (c.poll.1, c.passHooks, c.poll.2.veil hidden)

/-- The controller without the inbound record on its board. -/
def unwired (c : Controller SimBoard) : Controller SimBoard :=
  { c with board := { c.board with rx := .zero } }

/-- All that a pass shows, with what the node has taken over of the inbound record. -/
def fullSight (c : Controller SimBoard) :
    Except Expiry Outcome × List Hook × Controller SimBoard :=
  (c.poll.1, c.passHooks, c.poll.2.unwired)

/-- The controller with another inbound record on its board. -/
def handed (c : Controller SimBoard) (r : Record) : Controller SimBoard :=
  { c with board := { c.board with rx := r } }

theorem Twins.sight (h : Twins alike n hidden c c') (enough : Enough alike n hidden c.data.layout) :
    c.sight hidden = c'.sight hidden := by
  obtain ⟨twins, outcome, hooks⟩ := h.poll enough
  rw [Controller.sight, Controller.sight, outcome, hooks, twins.veil]

/-- Nothing a node takes over differs if the records agree as far as it takes over bytes. -/
theorem Twins.fullSight (h : Twins Eq n false c c') (enough : Enough Eq n false c.data.layout) :
    c.fullSight = c'.fullSight := by
  obtain ⟨twins, outcome, hooks⟩ := h.poll enough
  have layout : c.poll.2.data.layout = c.data.layout := c.poll_pass.layout
  have whole : c.data.layout.rxSize ≤ n := enough.shown rfl
  have inbound : c.poll.2.data.inbound = c'.poll.2.data.inbound := by
    apply Record.eq_of_getByte
    intro i
    have behind := twins.behind i
    rw [layout] at behind
    by_cases first : i = 0
    · rw [first]
      exact twins.taken.command
    · by_cases below : i < n
      · exact twins.taken.rest i (Nat.one_le_iff_ne_zero.mpr first) below
      · exact behind (Nat.le_trans whole (Nat.le_of_not_lt below))
  have unwired : c.poll.2.unwired = c'.poll.2.unwired := by
    have carried := congrArg₂ (fun (c : Controller SimBoard) inbound =>
      { c with data := { c.data with inbound } }) twins.veil inbound
    exact carried
  rw [Controller.fullSight, Controller.fullSight, outcome, hooks, unwired]

theorem layout_of_start {config : Config} {kind : Kind}
    (named : config.device.id.kind? = some kind) {b b' : SimBoard}
    (h : start config b = (.ok c, b')) : c.data.layout = kind.layout := by
  obtain ⟨found, data, board, named', setUp, rfl⟩ := eq_of_start h
  obtain rfl : kind = found := Option.some.inj (named.symm.trans named')
  rw [layout_assembled]
  exact Device.layout_setUp setUp

end Controller

namespace Simulation.Station

variable {config : Config} {s : Station} {run run' : List Move} {n : Nat}

/-! ### Currents -/

/--
**The commanded current cannot steer a node.**

Two runs are the same but for what the masters write at an offset behind the header or
further back.  Then every pass of the one has the outcome that it has in the other, calls the
same hooks, and leaves the same node on the same board, but for the current of the motor.
If that offset lies behind all that the layout takes over, or if the device has no motor,
then the current and what is taken over are the same too.
-/
theorem current_cannot_steer {kind : Kind} (named : config.device.id.kind? = some kind)
    (started : Started config s) (header : Inbound.headerEnd ≤ n)
    (shadows : Shadows Eq n run run') :
    s.gather (fun c => some (c.sight true)) run = s.gather (fun c => some (c.sight true)) run' ∧
      (kind = .boom ∨ kind = .imu ∨ kind.layout.rxSize ≤ n →
        s.gather (fun c => some c.fullSight) run = s.gather (fun c => some c.fullSight) run') := by
  obtain ⟨period, before, h⟩ := started
  obtain ⟨_, found, -⟩ := controller_of_start h
  have layout : s.controller.data.layout = kind.layout := Controller.layout_of_start named found
  have valid : s.controller.data.layout.Valid := (starts_of_start h).1.layout
  have meaning (raw raw' : UInt8) (same : raw = raw') :
      State.meaning (State.ofByte? raw) = State.meaning (State.ofByte? raw') := by rw [same]
  refine ⟨?_, fun unmoved => ?_⟩
  · have enough : Enough Eq n true kind.layout := ⟨fun _ => rfl, meaning, header, nofun⟩
    refine (Twins.refl (fun _ => rfl) valid).gather enough ?_ layout shadows
    intro c c' twins kept
    rw [← kept] at enough
    rw [twins.sight enough]
  · have whole : kind.layout.rxSize ≤ n := by
      rcases unmoved with rfl | rfl | whole
      · exact header
      · exact header
      · exact whole
    have enough : Enough Eq n false kind.layout := ⟨fun _ => rfl, meaning, header, fun _ => whole⟩
    refine (Twins.refl (fun _ => rfl) valid).gather enough ?_ layout shadows
    intro c c' twins kept
    rw [← kept] at enough
    rw [twins.fullSight enough]

/-- A leg gets into `run` under a current, and two cycles are served. -/
def driven (current : Int) : List Move :=
  [.act (.command State.run.toByte), .act (.setInbound Inbound.motorCurrent .i32 current),
    .act .step, .poll, .act .step, .poll]

theorem shadows_driven (current current' : Int) :
    Shadows Eq Inbound.headerEnd (driven current) (driven current') := by
  have aside : Aside Inbound.headerEnd Inbound.motorCurrent .i32 := ⟨by decide, by decide, by decide⟩
  exact .same _ (.left aside _ (.right aside _ (.same _ (.same _ (.same _ (.same _ .done))))))

/-- Two currents, one over the clamp and one negative, are all that tells two runs apart. -/
theorem current_cannot_steer_driven : ∃ s, Started legConfig s ∧
    (s.moves (driven 40000)).state = .run ∧
    (s.moves (driven 40000)).board.motorCurrent = 30000 ∧
    (s.moves (driven (-7))).board.motorCurrent = -7 ∧
    s.gather (fun c => some (c.sight true)) (driven 40000) =
      s.gather (fun c => some (c.sight true)) (driven (-7)) := by
  obtain ⟨s, started, running, high, low⟩ : ∃ s, Started legConfig s ∧
      (s.moves (driven 40000)).state = .run ∧
      (s.moves (driven 40000)).board.motorCurrent = 30000 ∧
      (s.moves (driven (-7))).board.motorCurrent = -7 := by
    refine ⟨_, ⟨1000000, [], rfl⟩, ?_, ?_, ?_⟩ <;> decide +kernel
  have named : legConfig.device.id.kind? = some .leg := rfl
  obtain ⟨same, -⟩ := current_cannot_steer named started (Nat.le_refl _) (shadows_driven 40000 (-7))
  exact ⟨s, started, running, high, low, same⟩

/-! ### Commands -/

/-- Two command bytes that mean the same: `idle` and `stop`, or two of which neither asks for
anything, that is `init` and all bytes that name no state. -/
def Interchangeable (raw raw' : UInt8) : Prop :=
  raw = raw' ∨ (Rests raw ∧ Rests raw') ∨ (Mute raw ∧ Mute raw')
where
  /-- The command to be idle. -/
  Rests (raw : UInt8) : Prop := raw = State.idle.toByte ∨ raw = State.stop.toByte
  /-- No command at all. -/
  Mute (raw : UInt8) : Prop := raw = State.init.toByte ∨ 7 ≤ raw

theorem Interchangeable.meaning {raw raw' : UInt8} (h : Interchangeable raw raw') :
    State.meaning (State.ofByte? raw) = State.meaning (State.ofByte? raw') := by
  have rests {raw : UInt8} (rests : Rests raw) :
      State.meaning (State.ofByte? raw) = some .stop := by
    rcases rests with rfl | rfl <;> rfl
  have mute {raw : UInt8} (mute : Mute raw) : State.meaning (State.ofByte? raw) = none := by
    rcases mute with rfl | beyond
    · rfl
    · have none : State.ofByte? raw = none :=
        List.getElem?_eq_none (UInt8.le_iff_toNat_le.mp beyond)
      rw [none]
      rfl
  rcases h with rfl | ⟨h, h'⟩ | ⟨h, h'⟩
  · rfl
  · rw [rests h, rests h']
  · rw [mute h, mute h']

/--
**Of a command only the meaning matters.**

Two runs are the same but for command bytes that can be exchanged for one another.  Then
every pass of the one has the outcome that it has in the other, calls the same hooks, and
leaves the same node on the same board.  In `halt` the inbound record does not matter at
all: whatever two records are on the board, a cycle calls the same hooks and leaves the
same node, so a master can neither prolong, shorten nor leave `halt`.
-/
theorem only_meaning_matters (started : Started config s)
    (shadows : Shadows Interchangeable recordCapacity run run') :
    s.gather (fun c => some (c.sight false)) run =
        s.gather (fun c => some (c.sight false)) run' ∧
      ∀ (c : Controller SimBoard) (edge : Edge) (r r' : Record), c.machine.state = .halt →
        ((c.handed r).syncCycle edge).veil false = ((c.handed r').syncCycle edge).veil false ∧
        ((c.handed r).readied edge).tickHooks = ((c.handed r').readied edge).tickHooks := by
  obtain ⟨period, before, h⟩ := started
  have valid : s.controller.data.layout.Valid := (starts_of_start h).1.layout
  refine ⟨?_, fun c edge r r' here => ?_⟩
  · have enough : Enough Interchangeable recordCapacity false s.controller.data.layout :=
      ⟨fun _ => Or.inl rfl, fun _ _ => Interchangeable.meaning, by decide, fun _ => valid.2.2.1⟩
    refine (Twins.refl (fun _ => Or.inl rfl) valid).gather enough ?_ rfl shadows
    intro c c' twins kept
    rw [← kept] at enough
    rw [twins.sight enough]
  · have same : (c.handed r).veil false = (c.handed r').veil false := rfl
    have still : ((c.handed r).readied edge).machine.state = .halt :=
      (Controller.quiet_readied _ edge).state.trans here
    exact Controller.syncCycle_alike same edge
      (Controller.ticksAlike_of_halt (Controller.readied_alike same edge) still)

/-- A leg leaves `run` on a command. -/
def dismissed (raw : UInt8) : List Move :=
  [.act (.command State.run.toByte), .act .step, .poll, .act .step, .poll, .act (.command raw),
    .act .step, .poll]

theorem only_meaning_matters_dismissed : ∃ s, Started legConfig s ∧
    (s.moves ((dismissed 0).take 5)).state = .run ∧ (s.moves (dismissed 0)).state = .idle ∧
    s.gather (fun c => some (c.sight false)) (dismissed 0) =
      s.gather (fun c => some (c.sight false)) (dismissed 3) := by
  obtain ⟨s, started, running, idle⟩ : ∃ s, Started legConfig s ∧
      (s.moves ((dismissed 0).take 5)).state = .run ∧ (s.moves (dismissed 0)).state = .idle := by
    refine ⟨_, ⟨1000000, [], rfl⟩, ?_, ?_⟩ <;> decide +kernel
  have exchanged : Interchangeable 0 3 := Or.inr (Or.inl ⟨Or.inl rfl, Or.inr rfl⟩)
  have shadows : Shadows Interchangeable recordCapacity (dismissed 0) (dismissed 3) :=
    .same _ (.same _ (.same _ (.same _ (.same _ (.command exchanged
      (.same _ (.same _ .done)))))))
  obtain ⟨same, -⟩ := only_meaning_matters started shadows
  exact ⟨s, started, running, idle, same⟩

end Simulation.Station
end FieldbusNode
