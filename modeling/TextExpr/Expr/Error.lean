import TextExpr.Json.Writer
import TextExpr.Text.Quoted

/-!
# Errors of evaluation
-/

namespace TextExpr

/-- How many arguments a call may have. -/
inductive Arity where
  /-- This many. -/
  | exactly (count : Nat)
  /-- Any number up to this many. -/
  | atMost (count : Nat)
  /-- This many, or one less. -/
  | lastOptional (count : Nat)
deriving DecidableEq, Repr

/-- The wording of an arity. -/
def Arity.text : Arity → String
  | exactly count => toString count
  | atMost count => "0 to " ++ toString count
  | lastOptional count => toString (count - 1) ++ " or " ++ toString count

/-- Why one of the engines gave up. -/
inductive EngineFailure where
  /-- The linear engine does not accept the pattern. -/
  | linear
  /-- The backtracking engine does not accept the pattern. -/
  | backtracking
  /-- The backtracking engine took too many wrong turns in a search. -/
  | backtrackLimit
deriving DecidableEq, Repr

/-- Why an evaluation fails. -/
inductive EvalError where
  /-- The text of an expression is not JSON. -/
  | parse (message : String)
  /-- The value has none of the shapes of a pattern. -/
  | invalidPatternCandidate (candidate : Json)
  /-- A text that is no set of flags. -/
  | invalidFlags (flags : String)
  /-- A value of a type that is not among those expected. -/
  | type (expected : List Kind) (found : Kind)
  /-- A call with the wrong number of arguments. -/
  | arity (name : String) (expected : Arity) (found : Nat)
  /-- One of the engines gave up. -/
  | engine (failure : EngineFailure)
  /-- A matcher reported a span that does not run forward between characters of the text. -/
  | malformedSpan
  /-- A matcher reported matches that lead back to where it had been asked before. -/
  | endlessSearch
  /-- The evaluation never comes to an end. -/
  | endlessEvaluation
deriving Inhabited

/-- A stand-in for the wording of an engine failure, which is made up: the engines word their
failures at length and with the pattern in them. -/
def EngineFailure.message : EngineFailure → String
  | linear => "pattern is not accepted by the linear engine"
  | backtracking => "pattern is not accepted by the backtracking engine"
  | backtrackLimit => "search exceeds the limit for backtracking"

/-- The wording of an error. -/
def EvalError.message : EvalError → String
  | parse message => "parse error: " ++ message
  | invalidPatternCandidate candidate => "invalid pattern candidate: " ++ candidate.compact
  | invalidFlags flags => "invalid regular expression flags: " ++ quoted flags
  | type expected found =>
    "type error: expected " ++ " | ".intercalate (expected.map Kind.name) ++ ", found "
      ++ found.name
  | arity name expected found =>
    name ++ ": expected " ++ expected.text ++ " arguments, found " ++ toString found
  | engine failure => failure.message
  | malformedSpan => "match does not lie in the text"
  | endlessSearch => "search for matches does not end"
  | endlessEvaluation => "evaluation does not end"

end TextExpr
