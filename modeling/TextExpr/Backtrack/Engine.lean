import TextExpr.Backtrack.Machine
import TextExpr.Linear.Engine

/-!
# The backtracking engine

Patterns that need no backtracking are left to the linear engine as a whole. For the others the
plan is to pass over as few characters as possible and then to match the pattern as group 0.
-/

namespace TextExpr

namespace Backtrack

/-- The program of a pattern that needs backtracking. -/
def program (parsed : Parsed) : Except PatternError Program := do
  let plan ← parsed.tree.plan parsed.references true
  return ⟨.seq (.star false (.any true)) (.group 0 plan), parsed.groupCount⟩

/-- The matcher of a program. -/
def Program.matcher (p : Program) : Matcher where
  find position := (p.search position).mapError .engine

/-- The matcher of a pattern. -/
def matcher (pattern : String) : Except PatternError Matcher := do
  let parsed ← Parsed.ofPattern pattern
  if (parsed.tree.shape parsed.references).isHard then
    let p ← program parsed
    return p.matcher
  else
    match Linear.program? (parsed.tree.written 0) with
    | some p => return Linear.matcher p
    | none => throw .part

end Backtrack

/-- The engine. -/
def backtrackingEngine : Engine where
  name := "backtracking"
  compile source flags :=
    match Backtrack.matcher (flags.apply source) with
    | .ok m => .ok m
    | .error _ => .error (.engine .backtracking)

end TextExpr
