/-
What a simulated board leaves alone.

The clock, the watchdog, the queue of edges and the log of a board change in every
pass, and none of the sensors or the amplifier depends on them.  `wiring` is the
board with all of that erased.  An operation that keeps the wiring keeps every
sensor and the amplifier, and a read looks at the wiring only; so what a cycle
reads is what the board showed when the pass began.

The watchdog has a law of its own: once it has run out it stays so.
-/
import FieldbusNode.Simulation.Rig
namespace FieldbusNode.Simulation.SimBoard

/-- Sensors, actuators, the stop line and the outbound record. -/
def wiring (b : SimBoard) : SimBoard :=
  { b with
    now := 0
    edges := []
    edgeSequence := 0
    lastEdgeAt := 0
    droppedEdges := 0
    lastFeed := 0
    feedCount := 0
    watchdogExpired := false
    rx := .zero
    reported := []
    trapped := none }

/-- Whether the amplifier is on, and the current it carries. -/
def amplifier (b : SimBoard) : Bool × Int32 :=
  (b.amplifierEnabled, b.motorCurrent)

/-- The record published last, and how often one was. -/
def published (b : SimBoard) : Record × Nat :=
  (b.tx, b.txWrites)

section Wiring

variable (b : SimBoard)

theorem wiring_noteAll (events : List Event) : (Journal.noteAll events b).wiring = b.wiring :=
  Journal.noteAll_leaves (f := wiring) (fun _ _ => rfl) events b

theorem wiring_noteIf (condition : Bool) (e : Event) :
    (Journal.noteIf condition e b).wiring = b.wiring := by
  unfold Journal.noteIf
  split <;> rfl

theorem wiring_latchWatchdog : b.latchWatchdog.wiring = b.wiring := by
  unfold latchWatchdog
  split <;> rfl

theorem wiring_advance (nanos : Nat) : (b.advance nanos).wiring = b.wiring := by
  unfold advance
  dsimp only
  rw [wiring_latchWatchdog]
  exact Journal.trapIf_leaves (f := wiring) (fun _ _ => rfl) _ _ _

theorem wiring_feed : b.feed.wiring = b.wiring :=
  wiring_latchWatchdog b

theorem wiring_pushEdge : b.pushEdge.wiring = b.wiring := by
  unfold pushEdge
  dsimp only
  split <;> rfl

theorem wiring_awaitEdge (timeout : Nat) : (b.awaitEdge timeout).2.wiring = b.wiring := by
  unfold awaitEdge
  split
  · rfl
  · exact wiring_advance b timeout

variable {b} {b' : SimBoard}

theorem amplifier_of_wiring (h : b'.wiring = b.wiring) : b'.amplifier = b.amplifier := by
  have erased := congrArg amplifier h
  exact erased

theorem published_of_wiring (h : b'.wiring = b.wiring) : b'.published = b.published := by
  have erased := congrArg published h
  exact erased

end Wiring

/-! ### The amplifier -/

section Amplifier

variable {b : SimBoard} (current : Int32)

theorem setCurrent_of_rejecting (h : b.amplifierReject = true) :
    Hardware.setCurrent current b = (.error (.actuatorFault "current command rejected"), b) :=
  if_pos h

theorem setCurrent_of_accepting (h : b.amplifierReject = false) :
    Hardware.setCurrent current b =
      (.ok (), { b with motorCurrent := if b.amplifierEnabled then current else 0 }) :=
  if_neg (by simp [h])

end Amplifier

/-! ### The watchdog -/

section Watchdog

variable {b : SimBoard}

theorem latchWatchdog_of_expired (h : b.watchdogExpired = true) : b.latchWatchdog = b := by
  simp [latchWatchdog, h]

theorem watchdogExpired_advance (nanos : Nat) (h : b.watchdogExpired = true) :
    (b.advance nanos).watchdogExpired = true := by
  have later : (Journal.trapIf (Duration.longest < b.now + nanos) .overflow
      { b with now := b.now + nanos }).watchdogExpired = true :=
    (Journal.trapIf_leaves (f := watchdogExpired) (fun _ _ => rfl) _ _ _).trans h
  exact (congrArg watchdogExpired (latchWatchdog_of_expired later)).trans later

theorem watchdogExpired_pushEdge (h : b.watchdogExpired = true) :
    b.pushEdge.watchdogExpired = true := by
  unfold pushEdge
  dsimp only
  split <;> exact h

end Watchdog
end FieldbusNode.Simulation.SimBoard

namespace FieldbusNode.Simulation.Rig

open SimBoard

/-! ### Actions from outside -/

theorem amplifier_act (rig : Rig) (action : Action) :
    (rig.act action).board.amplifier = rig.board.amplifier := by
  cases action with
  | step => exact amplifier_of_wiring ((wiring_pushEdge _).trans (wiring_advance _ _))
  | advance nanos => exact amplifier_of_wiring (wiring_advance _ _)
  | setInbound f t value =>
      simp only [act]
      split <;> rfl
  | _ => rfl

theorem amplifier_run (rig : Rig) (schedule : List Action) :
    (rig.run schedule).board.amplifier = rig.board.amplifier := by
  induction schedule generalizing rig with
  | nil => rfl
  | cons action rest ih => exact (ih (rig.act action)).trans (amplifier_act rig action)

theorem watchdogExpired_act (rig : Rig) (action : Action) (h : rig.board.watchdogExpired = true) :
    (rig.act action).board.watchdogExpired = true := by
  cases action with
  | step => exact watchdogExpired_pushEdge (watchdogExpired_advance _ h)
  | advance nanos => exact watchdogExpired_advance _ h
  | setInbound f t value =>
      simp only [act]
      split <;> exact h
  | _ => exact h

end FieldbusNode.Simulation.Rig
