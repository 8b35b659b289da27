/-
Trouble is shown.

A node tells of trouble in two ways: it asserts the stop line itself, and it has the
mark of the emergency stop among the flags of its headers.  A tick leaves either of
them as the machine wants it (`Machine.tick_alarm`), and between two ticks nothing
touches the own assertion or the mark, as long as no pass has failed (`Shows`).  So
after every cycle the line is right.

A header is written before the tick.  It has the state and the mark that the tick before
has left, so what it says of both fits together, one cycle late.

The tick in which the halt controller gives up is the exception.  It goes to `error`
without an emergency stop, and the stage of `error` catches up with it one cycle later.
What has made the halt controller give up is a hardware fault, and the header between
carries that.
-/
import FieldbusNode.Proofs.Header
import FieldbusNode.Proofs.Tick.Signals
namespace FieldbusNode

open Bench.Hook (onLine onMark)
open Flags (Grows)
open Simulation (SimBoard Rig Action Station Move)

/-! ### The two signals of a node -/

namespace Mounted

/-- Only the hooks that are about the line move the own assertion. -/
theorem line_works : Plant.Works onLine fun p : Mounted SimBoard => p.board.selfAsserted where
  note e p := congrArg Prod.fst (wired.note e p)
  enableOutputs p := congrArg Prod.fst (wired.enableOutputs p)
  disableOutputs p := congrArg Prod.fst (wired.disableOutputs p)
  updateOutputs data p := congrArg Prod.fst (wired.updateOutputs data p)
  estop := by
    intro ⟨device, b⟩
    cases device <;> rfl
  resetError p := congrArg Prod.fst (wired.resetError p)
  runHalt p := congrArg Prod.fst (wired.runHalt p)
  assertLine _ := rfl
  releaseLine p := congrArg Prod.fst (wired.releaseLine p)

variable {β : Type} [Board β]

/-- Only the emergency stop and the reset of errors move the mark, on any board. -/
theorem mark_works : Plant.Works onMark fun p : Mounted β => p.device.flags.has .estop where
  note _ _ := rfl
  enableOutputs p := (p.device.grows_enable p.board).estop
  disableOutputs p := (p.device.grows_disable p.board).estop
  updateOutputs data p := (p.device.grows_updateOutputs p.board data).estop
  estop p := (p.device.flags_estop p.board).2
  resetError p := by
    show p.device.resetError.flags.has .estop = false
    rw [Device.flags_resetError, Flags.has_empty]
  runHalt p := (p.device.grows_runHalt p.board).estop
  assertLine _ := rfl
  releaseLine _ := rfl

/-- A hardware fault has made a halt controller give up, and switching off keeps it. -/
theorem hasFault_of_givenUp {p : Mounted β} (refused : (Plant.runHalt p).1 = false) :
    (Plant.disableOutputs (Plant.runHalt p).2).device.flags.hasFault = true := by
  have fault := p.device.hasFault_of_givenUp p.board refused
  exact Flags.hasFault_mono (Device.grows_disable _ _).subset fault

end Mounted

/-! ### What is shown of trouble -/

namespace Record

/-- The state in the header of a record, as a byte. -/
def headerState (r : Record) : UInt8 :=
  r.getByte Outbound.deviceState.offset

/-- The header of a record has a state of trouble. -/
def Troubled (r : Record) : Prop :=
  r.headerState = State.error.toByte ∨ r.headerState = State.reset.toByte

/-- The flags in the header of a record fit its state. -/
structure Coherent (r : Record) : Prop where
  error : r.headerState = State.error.toByte → r.headerFlags ≠ ∅
  estop : r.headerFlags.has .estop = true → r.Troubled

theorem of_leading {r : Record} {id counter : UInt8} {state : State} {flags : Flags}
    (h : r.leading Outbound.headerEnd = [id, state.toByte, counter, flags.toByte]) :
    r.headerState = state.toByte ∧ r.headerFlags = flags := by
  have stateInside : Outbound.deviceState.offset < Outbound.headerEnd := by decide
  have flagsInside : Outbound.errorFlags.offset < Outbound.headerEnd := by decide
  refine ⟨?_, ?_⟩
  · rw [headerState, ← r.getD_leading stateInside, h]
    rfl
  · rw [headerFlags, ← r.getD_leading flagsInside, h]
    exact Flags.ofByte_toByte flags

theorem troubled_iff {r : Record} {state : State} (h : r.headerState = state.toByte) :
    r.Troubled ↔ state = .error ∨ state = .reset := by
  rw [Troubled, h]
  cases state <;> decide

end Record

namespace Controller

/-- What is seen of a controller tells of trouble as its machine wants it. -/
structure Shows (c : Controller SimBoard) : Prop where
  logs : c.machine.Logs c.machine.latest
  line : c.board.selfAsserted = true ↔ c.machine.Alarmed
  mark : c.device.flags.has .estop = true ↔ c.machine.Alarmed
  /-- What the mark leaves out, another flag shows. -/
  fault : c.machine.GaveUp → c.machine.state = .error ∧ c.device.flags.hasFault = true

/-- What a cycle shows of trouble, from the controller before it to the one behind it. -/
structure Announces (c c' : Controller SimBoard) : Prop where
  line : c'.board.selfAsserted = true ↔
    (c'.machine.state = .error ∨ c'.machine.state = .reset) ∧ ¬c'.machine.GaveUp
  gaveUp : c'.machine.GaveUp → c'.machine.state = .error
  header : c'.board.tx.headerFlags.has .estop = true ↔
    c'.board.tx.Troubled ∧ ¬c.machine.GaveUp
  /-- The first header behind a halt controller that gave up has a hardware fault. -/
  fault : c.machine.GaveUp → c'.board.tx.headerState = State.error.toByte ∧
    c'.board.tx.headerFlags.hasFault = true

variable {c c' : Controller SimBoard}

/-- Samples of the stop line change no more than the supervisor, and no more of the machine counts
here. -/
theorem Shows.kept (shows : c.Shows)
    (machine : c'.machine = { c.machine with supervisor := c'.machine.supervisor })
    (own : c'.board.selfAsserted = c.board.selfAsserted)
    (grown : Grows c.device.flags c'.device.flags) : c'.Shows := by
  have logs : c'.machine.Logs c.machine.latest := by
    rw [machine]
    exact shows.logs.congr rfl rfl
  have alarmed : c'.machine.Alarmed ↔ c.machine.Alarmed := by
    rw [machine]
    exact Iff.rfl
  refine ⟨?_, ?_, ?_, ?_⟩
  · rw [logs.latest]
    exact logs
  · rw [own, alarmed]
    exact shows.line
  · rw [grown.estop, alarmed]
    exact shows.mark
  · rw [machine]
    intro gaveUp
    obtain ⟨failed, fault⟩ := shows.fault gaveUp
    exact ⟨failed, Flags.hasFault_mono grown.subset fault⟩

/-! ### One cycle -/

/-- Sampling and exchanging leave the line and the mark alone. -/
theorem Shows.readied (shows : c.Shows) (edge : Edge) : (c.readied edge).Shows := by
  refine shows.kept ?_ (congrArg Prod.fst (c.line_readied edge)) ?_
  · rw [machine_readied]
    rfl
  · exact (c.grows_inputsSampled edge).trans (c.grows_readied edge)

/-- **A tick leaves the line and the mark as the machine wants them.** -/
theorem Shows.tick (shows : c.Shows) : c.tick.Shows := by
  have calm (sound : c.machine.state ≠ .error) (set : c.machine.state ≠ .reset) :
      ¬c.machine.Alarmed := by
    rintro ⟨failed | reset, -⟩
    · exact sound failed
    · exact set reset
  refine ⟨Machine.logs_tick shows.logs c.mounted, ?_, ?_, ?_⟩
  · refine Machine.tick_alarm Mounted.line_works (Or.inl rfl) shows.logs c.mounted ?_
    intro sound set
    exact Bool.eq_false_iff.mpr fun on => calm sound set (shows.line.mp on)
  · refine Machine.tick_alarm Mounted.mark_works (Or.inr rfl) shows.logs c.mounted ?_
    intro sound set
    exact Bool.eq_false_iff.mpr fun on => calm sound set (shows.mark.mp on)
  · intro gaveUp
    obtain ⟨failed, p, refused, after⟩ := Machine.tick_gaveUp shows.logs gaveUp
    have left : c.tick.device = (Journal.note (.transition .halt .error .haltFailed)
        (Plant.disableOutputs (Plant.runHalt p).2)).device := congrArg Mounted.device after
    refine ⟨failed, ?_⟩
    rw [left]
    exact Mounted.hasFault_of_givenUp refused

theorem Shows.syncCycle (shows : c.Shows) (edge : Edge) : (c.syncCycle edge).Shows := by
  rw [syncCycle_eq]
  have own := congrArg SimBoard.selfAsserted (c.wiring_syncCycle edge)
  exact (shows.readied edge).tick.kept rfl own (.refl _)

/-- The header of a cycle shows what the tick before it has left. -/
theorem Shows.header_syncCycle (shows : c.Shows) (valid : c.data.layout.Valid) (edge : Edge) :
    (c.syncCycle edge).board.tx.headerState = c.machine.state.toByte ∧
      ((c.syncCycle edge).board.tx.headerFlags.has .estop = true ↔ c.machine.Alarmed) ∧
      (c.machine.GaveUp → (c.syncCycle edge).board.tx.headerFlags.hasFault = true) := by
  -- The sampling before the header may add faults to what the tick has left.
  obtain ⟨state, flags⟩ := Record.of_leading (c.header_syncCycle valid edge)
  have sampled : Grows c.device.flags (c.syncCycle edge).board.tx.headerFlags := by
    rw [flags]
    exact c.grows_inputsSampled edge
  refine ⟨state, ?_, ?_⟩
  · rw [sampled.estop]
    exact shows.mark
  · exact fun gaveUp => Flags.hasFault_mono sampled.subset (shows.fault gaveUp).2

/-- **A cycle announces the trouble before it, and has the line right behind it.** -/
theorem Shows.announces (shows : c.Shows) (valid : c.data.layout.Valid) (edge : Edge) :
    Announces c (c.syncCycle edge) := by
  obtain ⟨state, mark, fault⟩ := shows.header_syncCycle valid edge
  have behind := shows.syncCycle edge
  refine ⟨behind.line, fun gaveUp => (behind.fault gaveUp).1, ?_, ?_⟩
  · rw [mark, Record.troubled_iff state]
    exact Iff.rfl
  · intro gaveUp
    refine ⟨?_, fault gaveUp⟩
    rw [state, (shows.fault gaveUp).1]

/-- A header in `error` has a flag: the mark, or the fault that stands in for it. -/
theorem Shows.coherent (shows : c.Shows) (valid : c.data.layout.Valid) (edge : Edge) :
    (c.syncCycle edge).board.tx.Coherent := by
  obtain ⟨state, mark, fault⟩ := shows.header_syncCycle valid edge
  refine ⟨?_, ?_⟩
  · intro named none
    rw [state] at named
    have failed : c.machine.state = .error := State.toByte_injective named
    by_cases gaveUp : c.machine.GaveUp
    · have unflagged := fault gaveUp
      rw [none] at unflagged
      nomatch unflagged
    · have marked := mark.mpr ⟨Or.inl failed, gaveUp⟩
      rw [none] at marked
      nomatch marked
  · intro marked
    exact (Record.troubled_iff state).mpr (mark.mp marked).1

/-! ### One pass -/

theorem shows_ready {ready : Controller SimBoard} {edge : Edge}
    (shows : c.board.watchdogExpired = false → c.Shows) (cycle : c.cycle? = some (ready, edge)) :
    ready.Shows := by
  obtain ⟨rest, alive, -, rfl⟩ := eq_of_cycle? cycle
  have line := SimBoard.line_of_wiring (SimBoard.wiring_latchWatchdog c.board)
  exact (shows (alive_of_latched alive)).kept rfl (congrArg Prod.fst line) (.refl _)

/-- **What is shown stays right pass after pass, until one fails.** -/
theorem Pass.shows {outcome : Except Expiry Outcome} (pass : Pass c outcome c')
    (shows : c.board.watchdogExpired = false → c.Shows)
    (alive' : c'.board.watchdogExpired = false) : c'.Shows := by
  cases pass with
  | expires expired => exact absurd alive' (by simp [expired_expires expired])
  | syncs _ cycle => exact (shows_ready shows cycle).syncCycle _
  | waits alive =>
      cases c.told_waits alive with
      | rest machine own =>
          obtain ⟨alive, own⟩ := own alive'
          have device (c : Controller SimBoard) : c.idlePass.device = c.device :=
            device_feed _ false
          refine (shows alive).kept (by rw [machine]) own ?_
          rw [device]
          exact .refl _

/-- A pass announces trouble if it runs a cycle, and publishes nothing if it does not. -/
theorem Pass.coherent {outcome : Except Expiry Outcome} (pass : Pass c outcome c')
    (valid : c.data.layout.Valid) (shows : c.board.watchdogExpired = false → c.Shows)
    (coherent : c.board.tx.Coherent) :
    c'.board.tx.Coherent ∧ ∀ t, outcome = .ok (.synced t) → Announces c c' := by
  have quiet {c' : Controller SimBoard} (same : c'.board.published = c.board.published) :
      c'.board.tx.Coherent := by
    have tx : c'.board.tx = c.board.tx := congrArg Prod.fst same
    rw [tx]
    exact coherent
  cases pass with
  | expires => exact ⟨quiet c.unreported_expires.published, nofun⟩
  | @syncs ready edge _ cycle =>
      have shown := shows_ready shows cycle
      obtain ⟨rest, -, -, made⟩ := eq_of_cycle? cycle
      have machine : ready.machine = c.machine := by rw [made]
      have valid' : ready.data.layout.Valid := by rwa [made]
      obtain ⟨line, gaveUp, header, fault⟩ := shown.announces valid' edge
      rw [machine] at header fault
      exact ⟨shown.coherent valid' edge, fun _ _ => ⟨line, gaveUp, header, fault⟩⟩
  | waits => exact ⟨quiet c.unreported_waits.published, nofun⟩

end Controller

/-! ### Runs -/

namespace Simulation.Station

/-- A station that tells of trouble as it should. -/
structure Candid (s : Station) : Prop where
  valid : s.controller.data.layout.Valid
  shows : s.board.watchdogExpired = false → s.controller.Shows
  coherent : s.board.tx.Coherent

theorem Started.candid {config : Config} {s : Station} (started : Started config s) :
    s.Candid := by
  have headed := started.headed
  have silent := started.selfAsserted
  obtain ⟨period, before, h⟩ := started
  obtain ⟨_, found, -⟩ := controller_of_start h
  obtain ⟨kind, data, board, -, -, made⟩ := Controller.eq_of_start found
  have machine : s.controller.machine = .ofConfig config.safety := by
    rw [made]
    rfl
  have unflagged : s.controller.device.flags = ∅ := by
    rw [made]
    cases kind <;> rfl
  have calm : ¬s.controller.machine.Alarmed := by
    rw [machine]
    rintro ⟨failed | reset, -⟩
    · nomatch failed
    · nomatch reset
  have header : s.board.tx.leading Outbound.headerEnd =
      [config.device.id.byte, State.idle.toByte, 0, (∅ : Flags).toByte] := headed.header
  obtain ⟨state, flags⟩ := Record.of_leading header
  refine ⟨headed.valid, fun _ => ⟨?_, ?_, ?_, ?_⟩, ?_, ?_⟩
  · rw [machine]
    exact Machine.logs_ofConfig config.safety
  · rw [iff_false_right calm, Bool.not_eq_true]
    exact silent
  · rw [iff_false_right calm, unflagged, Bool.not_eq_true]
    rfl
  · rw [machine]
    rintro ⟨r, recorded, -⟩
    nomatch recorded
  · intro failed
    rw [state] at failed
    nomatch State.toByte_injective failed
  · intro marked
    rw [flags] at marked
    nomatch marked

theorem Candid.act {s : Station} (h : s.Candid) (action : Action) : (s.act action).Candid := by
  refine ⟨h.valid, ?_, ?_⟩
  · intro alive'
    have alive : s.board.watchdogExpired = false := by
      rw [Bool.eq_false_iff]
      intro expired
      have still : (s.act action).board.watchdogExpired = true :=
        Rig.watchdogExpired_act ⟨s.board, s.master⟩ action expired
      rw [still] at alive'
      nomatch alive'
    exact (h.shows alive).kept rfl (Rig.selfAsserted_act ⟨s.board, s.master⟩ action) (.refl _)
  · rw [tx_act]
    exact h.coherent

theorem Candid.poll {s : Station} (h : s.Candid) : s.poll.2.Candid := by
  have pass := s.controller.poll_pass
  have layout : s.poll.2.controller.data.layout = s.controller.data.layout := pass.layout
  refine ⟨?_, pass.shows h.shows, (pass.coherent h.valid h.shows h.coherent).1⟩
  rw [layout]
  exact h.valid

theorem Candid.moves {s : Station} (h : s.Candid) (run : List Move) : (s.moves run).Candid :=
  moves_keeps (fun _ action h => h.act action) (fun _ h => h.poll) h run

/--
**The line and the header tell of trouble as the state does.**

This is about any kind of device, under any configuration it starts with, and any run of
actions and passes.  A cycle runs only as long as no pass has failed, and behind it the
node asserts the stop line itself exactly in `error` and in `reset`.  The header it has
published has the mark of the emergency stop exactly if its state is one of these.
The one exception to both is a tick that goes to `error` because the halt controller
gave up: the line waits for the tick behind it, and the header between has a hardware
fault instead of the mark.

So no header in `error` is without flags, and none but those in `error` and in `reset`
has the mark.
-/
theorem trouble_is_shown {config : Config} {s : Station} (started : Started config s)
    (run : List Move) :
    (∀ t, (s.moves run).poll.1 = .ok (.synced t) →
      Controller.Announces (s.moves run).controller (s.moves run).poll.2.controller) ∧
      (s.moves run).board.tx.Coherent := by
  have candid := started.candid.moves run
  have pass := (s.moves run).controller.poll_pass
  exact ⟨(pass.coherent candid.valid candid.shows candid.coherent).2, candid.coherent⟩

/-- A run command and one cycle, then a halt command with an amplifier that refuses every current,
one more cycle and another edge. -/
def refused : List Move :=
  [.act (.command State.run.toByte), .act .step, .poll, .act (.amplifierReject true),
    .act (.command State.halt.toByte), .act .step, .poll, .act .step]

/-- A leg that could not halt is in `error` without the line, and its next header has a hardware
fault instead of the mark; then the line follows. -/
theorem trouble_is_shown_refused : ∃ s c', Started legConfig s ∧
    (s.moves refused).state = .error ∧ (s.moves refused).board.selfAsserted = false ∧
    (s.moves refused).poll.2.controller = c' ∧ c'.board.selfAsserted = true ∧
    c'.board.tx.headerState = State.error.toByte ∧ c'.board.tx.headerFlags.hasFault = true ∧
    c'.board.tx.headerFlags.has .estop = false := by
  obtain ⟨s, started, failed, silent, gaveUp, synced, still, again⟩ : ∃ s, Started legConfig s ∧
      (s.moves refused).state = .error ∧ (s.moves refused).board.selfAsserted = false ∧
      (s.moves refused).controller.machine.GaveUp ∧
      (s.moves refused).poll.1.toOption = some (.synced ⟨.error, .error⟩) ∧
      (s.moves refused).poll.2.state = .error ∧
      ¬(s.moves refused).poll.2.controller.machine.GaveUp := by
    refine ⟨_, ⟨1000000, [], rfl⟩, ?_, ?_, ?_, ?_, ?_, ?_⟩ <;> decide +kernel
  obtain ⟨announced, -⟩ := trouble_is_shown started refused
  obtain ⟨line, -, header, fault⟩ := announced _ (ok_of_toOption synced)
  obtain ⟨named, flagged⟩ := fault gaveUp
  have unmarked := Bool.eq_false_iff.mpr fun marked => (header.mp marked).2 gaveUp
  exact ⟨s, _, started, failed, silent, rfl, line.mpr ⟨Or.inl still, again⟩, named, flagged,
    unmarked⟩

end Simulation.Station
end FieldbusNode
