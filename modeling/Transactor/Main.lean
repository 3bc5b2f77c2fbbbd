import Transactor.Scenario.Dispatchers
import Transactor.Shop.Demo

open Transactor Shop

def main : IO UInt32 := do
  let cycles ← IO.getEnv Settings.cyclesKey
  let timeLimit ← IO.getEnv DemoError.timeLimitKey
  let lookup := fun key =>
    if key = Settings.cyclesKey then cycles
    else if key = DemoError.timeLimitKey then timeLimit
    else none
  let report := Demo.run lookup ⟨← IO.rand 1 (UInt64.size - 1), 0⟩ Scenario.openingTime
  for line in report.lines do
    IO.println line
  for line in report.errorLines do
    IO.eprintln line
  return UInt32.ofNat report.exitCode
