/-
A node on a simulated rig.

The controller owns the board; the master and everybody else act on the same
board between two polls.  A run of a station is a list of moves: something
happens to the rig, or the controller polls once.
-/
import FieldbusNode.Controller
import FieldbusNode.Simulation.Rig
namespace FieldbusNode.Simulation

/-- A controller on a simulated board, with the board's master. -/
structure Station where
  controller : Controller SimBoard
  master : Master

/-- One move in a run of a station. -/
inductive Move
  /-- Something happens to the rig. -/
  | act (action : Action)
  /-- The controller polls once. -/
  | poll

namespace Station

/-- Starts a controller on a rig; a failed start leaves only its cause. -/
def start (config : Config) (rig : Rig) : Except StartError Station :=
  match Controller.start config rig.board with
  | (.ok controller, _) => .ok ⟨controller, rig.master⟩
  | (.error e, _) => .error e

/-- The board. -/
def board (s : Station) : SimBoard := s.controller.board

/-- The state of the node. -/
def state (s : Station) : State := s.controller.machine.state

/-- What an action makes of a station. -/
def act (s : Station) (action : Action) : Station :=
  let rig := Rig.act ⟨s.board, s.master⟩ action
  ⟨{ s.controller with board := rig.board }, rig.master⟩

/-- One pass of the loop. -/
def poll (s : Station) : Except Expiry Outcome × Station :=
  let (outcome, controller) := s.controller.poll
  (outcome, { s with controller })

/-- One synchronized cycle for a given edge. -/
def syncCycle (s : Station) (edge : Edge) : Transition × Station :=
  let controller := s.controller.syncCycle edge
  (⟨s.state, controller.machine.state⟩, { s with controller })

/-- The loop, for at most so many passes. -/
def run (s : Station) (maxCycles : Option Nat) (passes : Nat) : Except Expiry Unit × Station :=
  let (outcome, controller) := s.controller.run maxCycles passes
  (outcome, { s with controller })

/-- What a move makes of a station. -/
def move (s : Station) : Move → Station
  | .act action => s.act action
  | .poll => s.poll.2

/-- What a run makes of a station. -/
def moves (s : Station) (run : List Move) : Station :=
  run.foldl move s

@[simp] theorem moves_nil (s : Station) : s.moves [] = s := rfl

@[simp] theorem moves_cons (s : Station) (m : Move) (rest : List Move) :
    s.moves (m :: rest) = (s.move m).moves rest := rfl

theorem moves_append (s : Station) (a b : List Move) :
    s.moves (a ++ b) = (s.moves a).moves b := by
  simp [moves]

end Station
end FieldbusNode.Simulation
