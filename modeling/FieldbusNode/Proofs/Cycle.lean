/-
One pass of the loop.

A pass does one of three things: it stops the outputs for good, it runs a cycle
for an edge, or it waits.  `Pass` lists them, as `Machine.Way` lists what a tick
does.

A cycle is a tick with preparations.  `Controller.readied` is all that comes before
the tick, and `Controller.tickHooks` what the tick calls.
-/
import FieldbusNode.Controller
import FieldbusNode.Proofs.Tick.Account
import FieldbusNode.Proofs.Tick.Simulation
namespace FieldbusNode.Controller

open Bench (Hook Recorded)

variable {β : Type} [Board β]

/-- The controller as the tick of a cycle finds it. -/
def readied (c : Controller β) (edge : Edge) : Controller β :=
  let c := c.accountEdge edge
  let c := c.sampleInputs (Board.sinceEdge c.board) |>.exchange |>.afterExchange
  c.feed true |>.sampleStopLine

theorem syncCycle_eq (c : Controller β) (edge : Edge) :
    c.syncCycle edge =
      (c.readied edge).tick.recordCycle edge (Board.sinceEdge (c.accountEdge edge).board) := rfl

section Accounts

variable {α : Type} {f : β → α} (note : ∀ (e : Event) (b : β), f (Journal.note e b) = f b)
  (trap : ∀ (t : Trap) (b : β), f (Journal.trap t b) = f b)
include note trap

/-- Accounting for lost edges is a matter of reports, as far as the board goes. -/
theorem accountEdge_leaves (c : Controller β) (edge : Edge) :
    f (c.accountEdge edge).board = f c.board :=
  (Journal.noteIf_leaves note _ _ _).trans (Journal.trapIf_leaves trap _ _ c.board)

/-- So is recording a cycle. -/
theorem recordCycle_leaves (c : Controller β) (edge : Edge) (sinceEdge : Nat) :
    f (c.recordCycle edge sinceEdge).board = f c.board :=
  (note _ _).trans <| (Journal.noteIf_leaves note _ _ _).trans <|
    Journal.trapIf_leaves trap _ _ c.board

/-- Behind its tick a cycle has only reports and failed checks to tell the board. -/
theorem syncCycle_leaves (c : Controller β) (edge : Edge) :
    f (c.syncCycle edge).board = f (c.readied edge).tick.board :=
  recordCycle_leaves note trap (c.readied edge).tick edge _

end Accounts

/-- The device on its board. -/
def mounted (c : Controller β) : Mounted β := ⟨c.device, c.board⟩

/-- The hooks a tick calls, in order. -/
def tickHooks (c : Controller β) : List Hook :=
  (c.machine.tick c.data (⟨c.mounted, []⟩ : Recorded (Mounted β))).2.hooks.reverse

theorem tick_way (c : Controller β) :
    Machine.Way c.machine c.data c.mounted c.tick.machine c.tick.mounted :=
  Machine.tick_way _ _ _

/-- The controller that runs a cycle in the next pass, and the edge it runs it for, if the watchdog
has not run out and an edge comes. -/
def cycle? (c : Controller β) : Option (Controller β × Edge) :=
  let (expired, board) := Board.expired c.board
  if expired then none
  else
    match Board.awaitEdge c.idlePoll board with
    | (some edge, board) => some ({ c with board }, edge)
    | (none, _) => none

/-- The hooks the tick of the next pass calls, in order; none if no cycle runs in it. -/
def passHooks (c : Controller β) : List Hook :=
  match c.cycle? with
  | some (ready, edge) => (ready.readied edge).tickHooks
  | none => []

/-- A pass of the loop: its outcome and the controller behind it. -/
inductive Pass (c : Controller β) : Except Expiry Outcome → Controller β → Prop
  | expires (expired : (Board.expired c.board).1 = true) :
      Pass c (.error ⟨c.machine.state, c.statistics.cycleCount⟩)
        { c with board := (Board.expired c.board).2 }.expire.2
  | syncs {ready : Controller β} {edge : Edge} (alive : (Board.expired c.board).1 = false)
      (cycle : c.cycle? = some (ready, edge)) :
      Pass c (.ok (.synced ⟨c.machine.state, (ready.syncCycle edge).machine.state⟩))
        (ready.syncCycle edge)
  | waits (alive : (Board.expired c.board).1 = false)
      (none : (Board.awaitEdge c.idlePoll (Board.expired c.board).2).1 = none) :
      Pass c (.ok .idle)
        { c with
          board := (Board.awaitEdge c.idlePoll (Board.expired c.board).2).2 }.idlePass

theorem poll_pass (c : Controller β) : Pass c c.poll.1 c.poll.2 := by
  unfold poll
  cases expired : (Board.expired c.board).1 with
  | true =>
      simp only [expired, if_true]
      exact .expires expired
  | false =>
      simp only [expired, Bool.false_eq_true, if_false]
      cases await : Board.awaitEdge c.idlePoll (Board.expired c.board).2 with
      | mk found board =>
          cases found with
          | none =>
              have waits := Pass.waits expired (by rw [await])
              simpa only [await] using waits
          | some edge =>
              have cycle : c.cycle? = some ({ c with board }, edge) := by
                simp [cycle?, expired, await]
              exact .syncs expired cycle

end FieldbusNode.Controller
