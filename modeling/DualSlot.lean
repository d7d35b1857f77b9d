import DualSlot.Action
import DualSlot.Bench.Basic
import DualSlot.Bench.Call
import DualSlot.Boot.Board
import DualSlot.Boot.Error
import DualSlot.Boot.Layout
import DualSlot.Boot.Message
import DualSlot.Boot.Status
import DualSlot.Bytes.LittleEndian
import DualSlot.Bytes.Pieces
import DualSlot.Checksum
import DualSlot.Firmware.Header
import DualSlot.Firmware.Image
import DualSlot.Firmware.Version
import DualSlot.Flash.Basic
import DualSlot.Flash.Cells
import DualSlot.Flash.Checksum
import DualSlot.Flash.Dump
import DualSlot.Flash.Error
import DualSlot.Flash.Fault
import DualSlot.Flash.Geometry
import DualSlot.Flash.Message
import DualSlot.Log
import DualSlot.Main
import DualSlot.Random
import DualSlot.Simulation.CommandLine
import DualSlot.Simulation.Options
import DualSlot.Simulation.Run
import DualSlot.Simulation.Transcript
import DualSlot.Text.Hex
import DualSlot.Text.Numeral
import DualSlot.Text.Tenths
import DualSlot.Text.Terminal
import DualSlot.Text.Utf8
import DualSlot.Update.Calls
import DualSlot.Update.Error
import DualSlot.Update.Message
import DualSlot.Update.Phase
import DualSlot.Update.Session
import DualSlot.Update.Statistics
import DualSlot.Update.Status
import DualSlot.Update.Transfer
import DualSlot.Proofs.Action
import DualSlot.Proofs.Flash.Reading
import DualSlot.Proofs.Boot.Image
import DualSlot.Proofs.Boot.Decision
import DualSlot.Proofs.Bytes.Pieces
import DualSlot.Proofs.Flash.Writing
import DualSlot.Proofs.Boot.Programming
import DualSlot.Proofs.Boot.Kept
import DualSlot.Proofs.Update.Effect
import DualSlot.Proofs.Update.Outcome
import DualSlot.Proofs.Bench.Step
import DualSlot.Proofs.Update.Kept
import DualSlot.Proofs.Bench.Recovery
import DualSlot.Proofs.Update.Lock
import DualSlot.Proofs.Bench.Exclusion
import DualSlot.Proofs.Update.Mirror
import DualSlot.Proofs.Update.Acceptance
import DualSlot.Proofs.Bytes.LittleEndian
import DualSlot.Proofs.Firmware.Version
import DualSlot.Proofs.Boot.Outcome
import DualSlot.Proofs.Boot.Move
import DualSlot.Proofs.Update.Gate
import DualSlot.Proofs.Update.Coherence
import DualSlot.Proofs.Update.Refusal
import DualSlot.Proofs.Boot.Rollback
import DualSlot.Proofs.Bench.Ownership
import DualSlot.Proofs.Update.Consistency
import DualSlot.Proofs.Boot.Alike
import DualSlot.Proofs.Update.Alike
import DualSlot.Proofs.Update.Shield
import DualSlot.Proofs.Boot.Failure
import DualSlot.Proofs.Boot.Verdict
import DualSlot.Proofs.Bench.Frame
import DualSlot.Proofs.Boot.Parallel
import DualSlot.Proofs.Update.Corruption
import DualSlot.Proofs.Update.Readiness
import DualSlot.Proofs.Update.Notices
import DualSlot.Proofs.Update.Rejection
import DualSlot.Proofs.Bench.Rejection
import DualSlot.Proofs.Bench.RefusedStart
import DualSlot.Proofs.Update.History
import DualSlot.Proofs.Firmware.Header
import DualSlot.Proofs.Boot.Validation
import DualSlot.Proofs.Update.Statistics
import DualSlot.Proofs.Firmware.Image
import DualSlot.Proofs.Update.Delivery
import DualSlot.Proofs.Simulation.Run
import DualSlot.Proofs.Flash.Alignment
import DualSlot.Proofs.Flash.Pages
import DualSlot.Proofs.Flash.Discipline
import DualSlot.Proofs.Flash.Installing
import DualSlot.Proofs.Boot.Splice
import DualSlot.Proofs.Boot.Stability
import DualSlot.Proofs.Update.Timeout
import DualSlot.Proofs.Firmware.Installing
import DualSlot.Proofs.Text.Utf8
import DualSlot.Proofs.Firmware.VersionString
import DualSlot.Proofs.Bench.Bounds
import DualSlot.Proofs.Text.Numeral
import DualSlot.Proofs.Simulation.Options
import DualSlot.Proofs.Text.Hex
import DualSlot.Proofs.Flash.Dump
