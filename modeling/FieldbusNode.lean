import FieldbusNode.Bench.Script
import FieldbusNode.Bench.Sensors
import FieldbusNode.CommandLine.Directory
import FieldbusNode.Json.Reader
import FieldbusNode.Main
import FieldbusNode.Proofs.Bursts
import FieldbusNode.Proofs.Countdown
import FieldbusNode.Proofs.Distress
import FieldbusNode.Proofs.Dwell
import FieldbusNode.Proofs.Excess
import FieldbusNode.Proofs.FaultReaction
import FieldbusNode.Proofs.Fields
import FieldbusNode.Proofs.HaltCurrent
import FieldbusNode.Proofs.History
import FieldbusNode.Proofs.HookProtocol
import FieldbusNode.Proofs.InertialUnit
import FieldbusNode.Proofs.Influence
import FieldbusNode.Proofs.Joints
import FieldbusNode.Proofs.LatchedFaults
import FieldbusNode.Proofs.LostClock
import FieldbusNode.Proofs.Ranking
import FieldbusNode.Proofs.Readout
import FieldbusNode.Proofs.Remainder
import FieldbusNode.Proofs.Republication
import FieldbusNode.Proofs.SamplingOffset
import FieldbusNode.Proofs.SequenceNumbers
import FieldbusNode.Proofs.Spelling
import FieldbusNode.Proofs.StartCondition
import FieldbusNode.Proofs.StopLine
import FieldbusNode.Proofs.Substitutes
import FieldbusNode.Proofs.Switching
import FieldbusNode.Proofs.Untrapped
