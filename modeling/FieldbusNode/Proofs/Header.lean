/-
The header a master sees.

A cycle publishes before it counts and before it ticks.  So the header of the n-th cycle
carries the state the cycles before it have left, the number of those cycles, and the
flags as they stand when the inputs have just been sampled.  Between cycles the record
stays as it is: neither a pass without an edge nor a failed one publishes, and nobody
else writes the record.

What a cycle has to say is its `Report`.  The reports of a run, in order, determine the
header behind it (`headerAfter`).
-/
import FieldbusNode.Proofs.Chronicle
import FieldbusNode.Proofs.Latching
import FieldbusNode.Proofs.Publishing
namespace FieldbusNode

open Flags (Grows)
open Simulation (SimBoard Rig Action Station Move)

/-! ### The bytes of a header -/

/-- What a cycle has to say in headers: its own flags, and the state the next one will find. -/
structure Report where
  /-- The flags right after the inputs were sampled. -/
  flags : Flags
  /-- The state the cycle ended in. -/
  after : State
  deriving DecidableEq

namespace Report

/-- The state after some cycles of a node. -/
def stateAfter (reports : List Report) : State :=
  (reports.getLast?.map (·.after)).getD .idle

/-- The header after some cycles of a node. -/
def headerAfter (id : Identity) (reports : List Report) : List UInt8 :=
  match reports.getLast? with
  | none => [id.byte, State.idle.toByte, 0, 0]
  | some last =>
    [id.byte, (stateAfter reports.dropLast).toByte, UInt8.ofNat (reports.length - 1),
      last.flags.toByte]

theorem stateAfter_concat (reports : List Report) (last : Report) :
    stateAfter (reports ++ [last]) = last.after := by
  simp [stateAfter]

theorem headerAfter_concat (id : Identity) (reports : List Report) (last : Report) :
    headerAfter id (reports ++ [last]) =
      [id.byte, (stateAfter reports).toByte, UInt8.ofNat reports.length, last.flags.toByte] := by
  simp [headerAfter]

end Report

namespace Record

theorem getD_leading (r : Record) {size i : Nat} (inside : i < size) :
    (r.leading size).getD i 0 = r.getByte i := by
  simp [leading, slice, inside]

/-- A record begins with the header of what is published into it. -/
theorem leading_put_wireBytes (r : Record) {p : ProcessData} (valid : p.layout.Valid)
    (id : Identity) (state : State) (counter : UInt8) (flags : Flags) :
    (r.put 0 (p.writeHeader id state counter flags).wireBytes).leading Outbound.headerEnd =
      [id.byte, state.toByte, counter, flags.toByte] := by
  obtain ⟨-, holds, -, fits⟩ := valid
  have taken := r.slice_put_leading (p.writeHeader id state counter flags).outbound
    (Nat.le_trans (Nat.le_of_eq (Nat.zero_add Outbound.headerEnd)) holds) fits
  have four : 0 + [id.byte, state.toByte, counter, flags.toByte].length ≤ recordCapacity := by
    show 4 ≤ 64
    decide
  have header := p.outbound.slice_put 0 [id.byte, state.toByte, counter, flags.toByte] four
  exact taken.trans header

theorem getByte_zero (i : Nat) : zero.getByte i = 0 := by
  unfold getByte zero
  by_cases inside : i < recordCapacity <;> simp [inside]

/-- Behind what is published a record stays as it is. -/
theorem getByte_put_wireBytes_behind (r : Record) (p : ProcessData) {i : Nat}
    (behind : p.layout.txSize ≤ i) : (r.put 0 p.wireBytes).getByte i = r.getByte i := by
  have short : p.wireBytes.length ≤ i := by
    rw [ProcessData.wireBytes, Record.leading, Record.length_slice]
    exact behind
  rw [getByte_put]
  split
  · rw [Nat.sub_zero, List.getElem?_eq_none short]
    rfl
  · rfl

end Record

/-! ### One cycle -/

namespace Controller

section Board

variable {β : Type} [Board β] (c : Controller β)

/-- The controller of a cycle that has just sampled its inputs. -/
def inputsSampled (edge : Edge) : Controller β :=
  (c.accountEdge edge).sampleInputs (Board.sinceEdge (c.accountEdge edge).board)

/-- The bytes a cycle for an edge hands to the transport. -/
def sent (edge : Edge) : List UInt8 :=
  ((c.inputsSampled edge).data.writeHeader c.id c.machine.state c.counter
    (c.inputsSampled edge).device.flags).wireBytes

/-- What a cycle for an edge has to say. -/
def report (edge : Edge) : Report where
  flags := (c.inputsSampled edge).device.flags
  after := (c.syncCycle edge).machine.state

/-- What the cycle of the next pass has to say, if it runs one. -/
def report? : Option Report :=
  c.cycle?.map fun (ready, edge) => ready.report edge

/-- Sampling latches, it clears nothing. -/
theorem grows_inputsSampled (edge : Edge) :
    Grows c.device.flags (c.inputsSampled edge).device.flags :=
  c.device.grows_updateInputs _ _ _

/-- Nothing is cleared between the exchange and the tick. -/
theorem grows_readied (edge : Edge) :
    Grows (c.inputsSampled edge).device.flags (c.readied edge).device.flags := by
  have device : (c.readied edge).device = (c.inputsSampled edge).exchange.afterExchange.device :=
    device_feed _ true
  rw [device]
  exact (c.inputsSampled edge).exchange.device.grows_postSync _

/-- What every header of a node carries besides what is sampled and ticked. -/
def stamp : Identity × UInt8 := (c.id, c.counter)

theorem stamp_feed (edgeSeen : Bool) : (c.feed edgeSeen).stamp = c.stamp := by
  unfold feed
  split <;> rfl

/-- A cycle is counted behind the exchange. -/
theorem stamp_syncCycle (edge : Edge) : (c.syncCycle edge).stamp = (c.id, c.counter + 1) :=
  stamp_feed ((c.inputsSampled edge).exchange.afterExchange) true

end Board

variable (c : Controller SimBoard)

/-- The record behind the cycle was published by its exchange. -/
theorem tx_syncCycle (edge : Edge) :
    (c.syncCycle edge).board.tx = c.board.tx.put 0 (c.sent edge) := by
  have ticked : (c.readied edge).tick.board.tx = (c.readied edge).board.tx :=
    congrArg Prod.fst (c.readied edge).published_tick
  have settled : (c.readied edge).board.tx = (c.inputsSampled edge).exchange.board.tx :=
    congrArg Prod.fst (c.settled_readied edge).published
  have sampled : (c.inputsSampled edge).board.tx = c.board.tx :=
    congrArg Prod.fst (((c.accountEdge edge).published_sampleInputs _).trans
      (SimBoard.published_of_wiring (c.wiring_accountEdge edge)))
  have handed : (c.inputsSampled edge).exchange.board.tx =
      (c.inputsSampled edge).board.tx.put 0 (c.sent edge) := rfl
  rw [← sampled, ← handed, ← settled, ← ticked]
  exact congrArg Prod.fst (SimBoard.published_of_wiring (c.wiring_syncCycle edge))

/-- **The header of a cycle.** -/
theorem header_syncCycle (valid : c.data.layout.Valid) (edge : Edge) :
    (c.syncCycle edge).board.tx.leading Outbound.headerEnd =
      [c.id.byte, c.machine.state.toByte, c.counter, (c.report edge).flags.toByte] := by
  rw [tx_syncCycle]
  refine Record.leading_put_wireBytes _ ?_ _ _ _ _
  rw [inputsSampled, layout_sampleInputs]
  exact valid

theorem behind_syncCycle (edge : Edge) {i : Nat} (behind : c.data.layout.txSize ≤ i) :
    (c.syncCycle edge).board.tx.getByte i = c.board.tx.getByte i := by
  rw [tx_syncCycle]
  refine Record.getByte_put_wireBytes_behind _ _ ?_
  rw [ProcessData.layout_writeHeader, inputsSampled, layout_sampleInputs]
  exact behind

/-! ### One pass -/

section Pass

variable {c} {c' : Controller SimBoard} {outcome : Except Expiry Outcome}

/-- A cycle reports on the controller of its pass. -/
structure Reported (c : Controller SimBoard) (k : Report) (c' : Controller SimBoard) : Prop where
  stamp : c'.stamp = (c.id, c.counter + 1)
  state : c'.machine.state = k.after
  header : c.data.layout.Valid → c'.board.tx.leading Outbound.headerEnd =
    [c.id.byte, c.machine.state.toByte, c.counter, k.flags.toByte]
  behind : ∀ i, c.data.layout.txSize ≤ i → c'.board.tx.getByte i = c.board.tx.getByte i

/-- Nothing a header carries has changed, and none was published. -/
structure Unreported (c c' : Controller SimBoard) : Prop where
  stamp : c'.stamp = c.stamp
  state : c'.machine.state = c.machine.state
  published : c'.board.published = c.board.published

theorem report?_eq_none (h : c.told? = none) : c.report? = none := by
  have none : c.cycle? = none := Option.map_eq_none_iff.mp h
  rw [report?, none]
  rfl

theorem reported_syncs {ready : Controller SimBoard} {edge : Edge}
    (cycle : c.cycle? = some (ready, edge)) :
    Reported c (ready.report edge) (ready.syncCycle edge) := by
  obtain ⟨rest, -, -, made⟩ := eq_of_cycle? cycle
  have id : ready.id = c.id := by rw [made]
  have counter : ready.counter = c.counter := by rw [made]
  have machine : ready.machine = c.machine := by rw [made]
  have data : ready.data = c.data := by rw [made]
  have tx : ready.board.tx = c.board.tx := by
    rw [made]
    exact congrArg Prod.fst (SimBoard.published_of_wiring (SimBoard.wiring_latchWatchdog c.board))
  refine ⟨?_, rfl, ?_, ?_⟩
  · rw [stamp_syncCycle, id, counter]
  · intro valid
    rw [header_syncCycle ready (by rwa [data]), id, machine, counter]
  · intro i behind
    rw [behind_syncCycle ready edge (by rwa [data]), tx]

theorem unreported_expires (c : Controller SimBoard) :
    Unreported c { c with board := (Board.expired c.board).2 }.expire.2 := by
  refine ⟨rfl, rfl, (published_expire _).trans ?_⟩
  exact SimBoard.published_of_wiring (SimBoard.wiring_latchWatchdog c.board)

theorem unreported_waits (c : Controller SimBoard) :
    Unreported c { c with
      board := (Board.awaitEdge c.idlePoll (Board.expired c.board).2).2 }.idlePass := by
  have waited := (SimBoard.wiring_awaitEdge c.board.latchWatchdog c.idlePoll).trans
    (SimBoard.wiring_latchWatchdog c.board)
  have fed (c : Controller SimBoard) : (c.feed false).machine.state = c.machine.state := by
    unfold feed
    split <;> rfl
  refine ⟨stamp_feed _ false, fed _, (settled_feed _ false).published.trans ?_⟩
  exact SimBoard.published_of_wiring waited

/-- **A pass reports exactly if it runs a cycle.** -/
theorem Pass.reports (pass : Pass c outcome c') :
    (∃ k, c.report? = some k ∧ outcome = .ok (.synced ⟨c.machine.state, k.after⟩) ∧
        Reported c k c') ∨
      (c.report? = none ∧ (∀ t, outcome ≠ .ok (.synced t)) ∧ Unreported c c') := by
  cases pass with
  | expires expired =>
      have silent : c.told? = none := by simp [told?, cycle?, expired]
      exact Or.inr ⟨report?_eq_none silent, by simp, c.unreported_expires⟩
  | @syncs ready edge _ cycle =>
      refine Or.inl ⟨ready.report edge, ?_, rfl, reported_syncs cycle⟩
      rw [report?, cycle]
      rfl
  | waits alive quiet =>
      exact Or.inr ⟨report?_eq_none (told?_of_waiting alive quiet), by simp, c.unreported_waits⟩

end Pass
end Controller

/-! ### The start -/

theorem Simulation.Rig.published_run (rig : Rig) (schedule : List Action) :
    (rig.run schedule).board.published = rig.board.published := by
  induction schedule generalizing rig with
  | nil => rfl
  | cons action rest ih => exact (ih (rig.act action)).trans (rig.published_act action)

/-! ### Runs -/

namespace Simulation.Station

open Report (stateAfter headerAfter)

/-- The record of a station that has reported some cycles. -/
structure Headed (id : Identity) (reports : List Report) (s : Station) : Prop where
  stamp : s.controller.stamp = (id, UInt8.ofNat reports.length)
  state : s.state = stateAfter reports
  valid : s.controller.data.layout.Valid
  header : s.board.tx.leading Outbound.headerEnd = headerAfter id reports
  behind : ∀ i, s.controller.data.layout.txSize ≤ i → s.board.tx.getByte i = 0

theorem Started.headed {config : Config} {s : Station} (started : Started config s) :
    Headed config.device.id [] s := by
  obtain ⟨period, before, h⟩ := started
  obtain ⟨_, found, -⟩ := controller_of_start h
  obtain ⟨kind, data, board, -, setUp, made⟩ := Controller.eq_of_start found
  have layout : data.layout = kind.layout := Device.layout_setUp setUp
  have valid : data.layout.Valid := by
    rw [layout]
    exact kind.layout_valid
  have blank : board.tx = .zero := by
    have kept := (Device.ofKind kind config.limits).published_setUp (.ofLayout kind.layout)
      (Journal.note (.deviceSelected config.device.id kind)
        ((Rig.fresh config.safety period).run before).board)
    rw [setUp] at kept
    have fresh := kept.trans (Rig.published_run _ before)
    exact congrArg Prod.fst fresh
  have sent : s.board.tx = Record.zero.put 0 (data.writeHeader config.device.id .idle 0
      (Device.ofKind kind config.limits).flags).wireBytes := by
    rw [← blank, Station.board, made]
    rfl
  have unflagged : (Device.ofKind kind config.limits).flags = ∅ := by
    cases kind <;> rfl
  have shaped : s.controller.data.layout = data.layout := by
    rw [made, Controller.layout_assembled]
  refine ⟨by rw [made]; rfl, by rw [Station.state, made]; rfl, by rwa [shaped], ?_, ?_⟩
  · rw [sent, Record.leading_put_wireBytes _ valid, unflagged]
    rfl
  · intro i behind
    rw [shaped] at behind
    have headed : (data.writeHeader config.device.id .idle 0
        (Device.ofKind kind config.limits).flags).layout.txSize ≤ i := behind
    rw [sent, Record.getByte_put_wireBytes_behind _ _ headed, Record.getByte_zero]

/-- Nothing from outside writes the record a master sees. -/
theorem tx_act (s : Station) (action : Action) : (s.act action).board.tx = s.board.tx :=
  congrArg Prod.fst (Rig.published_act ⟨s.board, s.master⟩ action)

theorem Headed.act {id : Identity} {reports : List Report} {s : Station}
    (h : Headed id reports s) (action : Action) : Headed id reports (s.act action) := by
  refine ⟨h.stamp, h.state, h.valid, ?_, ?_⟩
  · rw [tx_act]
    exact h.header
  · intro i behind
    rw [tx_act]
    exact h.behind i behind

theorem Headed.poll {id : Identity} {reports : List Report} {s : Station}
    (h : Headed id reports s) :
    Headed id (reports ++ s.controller.report?.toList) s.poll.2 := by
  have pass := s.controller.poll_pass
  have layout : s.poll.2.controller.data.layout = s.controller.data.layout := pass.layout
  have valid : s.poll.2.controller.data.layout.Valid := by
    rw [layout]
    exact h.valid
  rcases pass.reports with ⟨k, told, -, stamp, state, header, behind⟩ |
    ⟨told, -, stamp, state, published⟩
  · have named : s.controller.id = id := congrArg Prod.fst h.stamp
    have counted : s.controller.counter = UInt8.ofNat reports.length := congrArg Prod.snd h.stamp
    rw [told, Option.toList_some]
    refine ⟨?_, ?_, valid, ?_, ?_⟩
    · refine stamp.trans ?_
      rw [named, counted, List.length_append, List.length_singleton, UInt8.ofNat_add]
      rfl
    · rw [Report.stateAfter_concat]
      exact state
    · rw [Report.headerAfter_concat, ← h.state, ← counted, ← named]
      exact header h.valid
    · intro i far
      rw [layout] at far
      exact (behind i far).trans (h.behind i far)
  · have tx : s.poll.2.board.tx = s.board.tx := congrArg Prod.fst published
    rw [told, Option.toList_none, List.append_nil]
    refine ⟨stamp.trans h.stamp, state.trans h.state, valid, ?_, ?_⟩
    · rw [tx]
      exact h.header
    · intro i far
      rw [layout] at far
      rw [tx]
      exact h.behind i far

theorem Headed.moves {id : Identity} {s : Station} (h : Headed id [] s) (run : List Move) :
    Headed id (s.gather Controller.report? run) (s.moves run) := by
  have kept : Headed id ([] ++ s.gather Controller.report? run) (s.moves run) :=
    gather_keeps (fun _ _ action h => h.act action) (fun _ _ h => h.poll) h run
  rwa [List.nil_append] at kept

/--
**The header of a node says what the cycles before have left.**

This is about any kind of device, under any configuration it starts with, and any run of
actions and passes.  Before the first cycle the record begins with the identity, `idle`
and two zeros.  Behind the last of any number of cycles it begins with the identity, the
state after the cycles before that one, their number modulo 256, and the flags right
after the last sampling of inputs.  Every pass that is synchronized is among these
cycles, with the state it ended in; no other pass publishes anything, and behind the end
of the layout the record is zero.
-/
theorem header_law {config : Config} {s : Station} (started : Started config s)
    (run : List Move) :
    let reports := s.gather Controller.report? run
    let s' := s.moves run
    (reports = [] →
      s'.board.tx.leading 4 = [config.device.id.byte, State.idle.toByte, 0, 0]) ∧
      (∀ earlier last, reports = earlier ++ [last] →
        s'.board.tx.leading 4 = [config.device.id.byte, (stateAfter earlier).toByte,
          UInt8.ofNat earlier.length, last.flags.toByte]) ∧
      (∀ k, s'.controller.report? = some k → s'.poll.1 = .ok (.synced ⟨s'.state, k.after⟩)) ∧
      (s'.controller.report? = none → (∀ t, s'.poll.1 ≠ .ok (.synced t)) ∧
        s'.poll.2.board.published = s'.board.published) ∧
      ∀ i, s'.controller.data.layout.txSize ≤ i → s'.board.tx.getByte i = 0 := by
  intro reports s'
  have headed : Headed config.device.id reports s' := started.headed.moves run
  have header : s'.board.tx.leading 4 = headerAfter config.device.id reports := headed.header
  have pass := s'.controller.poll_pass.reports
  refine ⟨?_, ?_, ?_, ?_, headed.behind⟩
  · intro none
    rw [header, none]
    rfl
  · intro earlier last split
    rw [header, split, Report.headerAfter_concat]
  · intro k told
    rcases pass with ⟨k', told', synced, -⟩ | ⟨silent, -⟩
    · obtain rfl : k = k' := Option.some.inj (told.symm.trans told')
      exact synced
    · rw [told] at silent
      nomatch silent
  · intro silent
    rcases pass with ⟨k, told, -⟩ | ⟨-, unsynced, same⟩
    · rw [silent] at told
      nomatch told
    · exact ⟨unsynced, same.published⟩

/-- The second header of a leg carries the state the first cycle left. -/
theorem header_law_second :
    let run : List Move := [.act (.command State.run.toByte), .act .step, .poll, .act .step, .poll]
    ∃ s, Started legConfig s ∧ s.gather Controller.report? run = [⟨∅, .run⟩, ⟨∅, .run⟩] ∧
      (s.moves run).board.tx.leading 4 = [0x10, State.run.toByte, 1, 0] := by
  intro run
  refine ⟨_, ⟨1000000, [], rfl⟩, ?_, ?_⟩
  · decide +kernel
  · obtain ⟨-, header, -⟩ := header_law (⟨1000000, [], rfl⟩ : Started legConfig _) run
    exact header [⟨∅, .run⟩] ⟨∅, .run⟩ (by decide +kernel)

end Simulation.Station
end FieldbusNode
