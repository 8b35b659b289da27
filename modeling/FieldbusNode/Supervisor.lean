/-
The safety supervisor.

It owns what is counted every cycle whatever the state is: the debounced stop
line, the stall of the master, and the cycles spent in `error`, which a reset
command has to outwait.
-/
import FieldbusNode.Config
import FieldbusNode.Supervisor.Liveness
namespace FieldbusNode

/-- Stop-line debounce, master liveness and dwell in `error`. -/
structure Supervisor where
  stopLine : Debounce
  master : Liveness
  /-- Cycles spent in `error` so far, the one that entered it not counted. -/
  dwell : Nat
  /-- Cycles that have to be exceeded before a reset command is honoured. -/
  minDwell : Nat
  deriving DecidableEq

namespace Supervisor

/-- Zero counts, with the limits of a configuration. -/
def ofConfig (c : SafetySection) : Supervisor where
  stopLine := .ofLimit c.stopLineLimit.toNat
  master := .ofLimit masterStallLimit
  dwell := 0
  minDwell := c.errorDwell.toNat

/-! ### Stop line -/

/-- Takes one sample of the stop line. -/
def sampleStopLine (s : Supervisor) (asserted : Bool) : Supervisor :=
  { s with stopLine := s.stopLine.sample asserted }

/-- Whether the debounced stop line is over its limit. -/
def stopLineTripped (s : Supervisor) : Bool :=
  s.stopLine.tripped

/-- What sampling the stop line reports: the sample that trips it. -/
def sampleStopLineEvents (s : Supervisor) (asserted : Bool) : List Event :=
  let after := s.sampleStopLine asserted
  if after.stopLineTripped && !s.stopLineTripped then [.stopLineTripped after.stopLine.count]
  else []

/-! ### Master liveness -/

/-- Takes this cycle's master counter. -/
def observeMaster (s : Supervisor) (counter : UInt16) : Supervisor :=
  { s with master := s.master.observe counter }

/-- Whether the master has stalled for as long as the limit. -/
def masterStalled (s : Supervisor) : Bool :=
  s.master.tripped

/-- What observing the master reports: every cycle in which it counts as stalled. -/
def observeMasterEvents (s : Supervisor) (counter : UInt16) : List Event :=
  let after := s.observeMaster counter
  if after.masterStalled then [.masterStalled after.master.errors counter] else []

/-- Forgets a stall and takes a counter as the reference value. -/
def rearmMaster (s : Supervisor) (counter : UInt16) : Supervisor :=
  { s with master := s.master.rearm counter }

/-! ### Dwell in `error` -/

/-- Starts the dwell again. -/
def restartDwell (s : Supervisor) : Supervisor :=
  { s with dwell := 0 }

/-- Counts one cycle in `error`. -/
def tickDwell (s : Supervisor) : Supervisor :=
  { s with dwell := countUp s.dwell }

/-- Whether a reset command may be honoured. -/
def dwellElapsed (s : Supervisor) : Bool :=
  s.minDwell < s.dwell

/-! ### Reset -/

/-- Forgets the stall and the stop-line count. -/
def clear (s : Supervisor) : Supervisor :=
  { s with master := s.master.clear, stopLine := s.stopLine.reset }

end Supervisor

/-- Whether the local watchdog is fed in a pass of the loop: always on an edge, without one only
while idle, so live outputs that lose the fieldbus clock run into the watchdog. -/
def shouldFeed (edgeSeen : Bool) (state : State) : Bool :=
  edgeSeen || state == .idle

end FieldbusNode
