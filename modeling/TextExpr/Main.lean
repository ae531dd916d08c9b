import TextExpr.CommandLine

/-!
# The program
-/

open TextExpr in
/-- Evaluate the expression that the arguments give. -/
def main (args : List String) : IO UInt32 := do
  let outcome := CommandLine.run args
  (← IO.getStdout).putStr outcome.output
  (← IO.getStderr).putStr outcome.errorText
  return UInt32.ofNat outcome.status
