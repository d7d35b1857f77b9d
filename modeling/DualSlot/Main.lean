import DualSlot.Simulation.Run

/-!
# Command line of the simulation
-/

/-- Run the simulation with the given arguments and print what it leaves behind. -/
def main (arguments : List String) : IO UInt32 := do
  let report := DualSlot.Simulation.reportOf arguments
  for line in report.output do
    IO.println line
  if report.error != "" then
    IO.eprintln report.error
  pure report.exitCode.toUInt32
