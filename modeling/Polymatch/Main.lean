import Polymatch.CommandLine.Report

/-! # The program -/

open Polymatch in
def main (arguments : List String) : IO UInt32 := do
  let report := CommandLine.run arguments
  (← IO.getStdout).putStr report.output
  (← IO.getStderr).putStr report.errors
  return report.code.toUInt32
