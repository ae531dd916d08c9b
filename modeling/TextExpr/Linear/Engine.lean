import TextExpr.Linear.Parser
import TextExpr.Linear.Search
import TextExpr.Linear.Size

/-!
# The linear engine

Compiles patterns to automata, so that a search takes time linear in the text.
-/

namespace TextExpr

namespace Linear

/-- The automaton of a pattern, if the pattern is well-formed and small enough. -/
def program? (pattern : List Char) : Option Program :=
  match Regex.ofPattern pattern with
  | .error _ => none
  | .ok e => if e.fits then some e.program else none

/-- The matcher of an automaton. -/
def matcher (p : Program) : Matcher where
  find position := .ok (p.search false position)

end Linear

/-- The engine. -/
def linearEngine : Engine where
  name := "linear"
  compile source flags :=
    match Linear.program? (flags.apply source).toList with
    | some p => .ok (Linear.matcher p)
    | none => .error (.engine .linear)

end TextExpr
