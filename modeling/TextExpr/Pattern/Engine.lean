import TextExpr.Pattern.Flags
import TextExpr.Text.Cursor

/-!
# Engines

An engine compiles a pattern source to a matcher. A matcher does one thing: it finds the leftmost
match that starts at or after a position. Both may fail with any error. Everything else about
patterns is written once, for all engines.
-/

namespace TextExpr

/-- What a match covers: the whole of it first, then each capture group. A group that takes no
part in the match has no span. -/
abbrev Captures := List (Option Span)

namespace Captures

/-- What the whole match covers. -/
def whole (captures : Captures) : Span := (captures.head?.join).getD ⟨0, 0⟩

/-- What the capture groups cover. -/
def groups (captures : Captures) : Captures := captures.drop 1

end Captures

/-- A compiled pattern. -/
structure Matcher where
  /-- The leftmost match that starts at or after a position. -/
  find : Cursor → Except EvalError (Option Captures)
  /-- Whether there is a match anywhere in a text. -/
  isMatch : List Char → Except EvalError Bool :=
    fun text => (find (Cursor.start text)).map Option.isSome

/-- A pattern language with its compiler. -/
structure Engine where
  /-- The name under which messages refer to the engine. -/
  name : String
  /-- Compile a pattern source under flags. -/
  compile : String → Flags → Except EvalError Matcher

end TextExpr
