import TextExpr.Backtrack.Engine
import TextExpr.Expr.Evaluate
import TextExpr.Expr.PatternOp
import TextExpr.Linear.Engine

/-!
# The command line

One JSON expression is evaluated and its value printed. Options give the current value, further
bindings, the engine, and the form of the output.
-/

namespace TextExpr

namespace CommandLine

/-- What the arguments ask for. -/
structure Request where
  /-- The expression. -/
  expression : Option String := none
  /-- The current value, a string. -/
  value : Option String := none
  /-- Further bindings, as the text of a JSON object. -/
  scope : Option String := none
  /-- The engine of the pattern operations. -/
  engine : Option Engine := none
  /-- Print without white space. -/
  compact : Bool := false

/-- How reading the arguments ends. -/
inductive Reading where
  /-- All arguments are read. -/
  | complete (request : Request)
  /-- The version is asked for. -/
  | version
  /-- The help text is asked for. -/
  | help
  /-- The arguments are wrong. -/
  | misuse

/-- The engine of a name. -/
def engineNamed? : String → Option Engine
  | "linear" => some linearEngine
  | "backtracking" => some backtrackingEngine
  | _ => none

/-- The request with the value of an option; none if there is no such option, if it is given
twice or if it does not take the value. -/
def Request.setOption? (r : Request) (name value : String) : Option Request :=
  if name = "value" ∧ r.value.isNone then some { r with value := value }
  else if name = "scope" ∧ r.scope.isNone then some { r with scope := value }
  else if name = "engine" ∧ r.engine.isNone then
    (engineNamed? value).map fun e => { r with engine := some e }
  else none

/-- The request with the expression; none if there is one already. -/
def Request.setExpression? (r : Request) (text : String) : Option Request :=
  if r.expression.isNone then some { r with expression := text } else none

/-- The options that take a value. -/
def valueOptions : List String := ["value", "scope", "engine"]

/-- An argument that starts with a hyphen and is more than that is never a value. -/
def isValue (arg : List Char) : Bool := arg.head? ≠ some '-' || arg.length == 1

/-- The name of a long option and the value written in the same argument. -/
def nameAndValue (option : List Char) : String × Option String :=
  match option.dropWhile (· ≠ '=') with
  | [] => (String.ofList option, none)
  | _ :: value => (String.ofList (option.takeWhile (· ≠ '=')), some (String.ofList value))

/-- Go on with a changed request, or stop if the change is refused. -/
def orMisuse (r : Option Request) (next : Request → Reading) : Reading :=
  match r with
  | some r => next r
  | none => .misuse

/-- Read arguments from left to right. After the argument `--` none is an option. -/
def readArgs : (args : List String) → (optionsEnded : Bool) → Request → Reading
  | [], _, r => if r.expression.isSome then .complete r else .misuse
  | arg :: rest, true, r => orMisuse (r.setExpression? arg) (readArgs rest true)
  | arg :: rest, false, r =>
    match arg.toList with
    | ['-', '-'] => readArgs rest true r
    | '-' :: '-' :: option =>
      match nameAndValue option with
      | ("version", none) => .version
      | ("help", none) => .help
      | ("compact", none) =>
        if r.compact then .misuse else readArgs rest false { r with compact := true }
      | (name, some value) => orMisuse (r.setOption? name value) (readArgs rest false)
      | (name, none) =>
        match rest with
        | value :: rest =>
          if name ∈ valueOptions ∧ isValue value.toList then
            orMisuse (r.setOption? name value) (readArgs rest false)
          else .misuse
        | [] => .misuse
    | '-' :: 'V' :: _ => .version
    | '-' :: 'h' :: _ => .help
    | '-' :: _ :: _ => .misuse
    | _ => orMisuse (r.setExpression? arg) (readArgs rest false)

/-- The text that names the version. -/
def versionText : String := "regexp-expressions 0.1.0\n"

/-- A short account of the arguments. -/
def helpText : String :=
  "Usage: rexpr [--value VALUE] [--scope OBJECT] [--engine linear|backtracking] [--compact] "
    ++ "EXPRESSION\n"

/-- What a run ends with. -/
inductive Outcome where
  /-- A text is printed. -/
  | printed (text : String)
  /-- The arguments are wrong. -/
  | misuse
  /-- The further bindings are wrong. -/
  | badScope (message : String)
  /-- The evaluation fails. -/
  | failed (error : EvalError)

/-- Carry out a request. -/
def Request.run (r : Request) : Outcome :=
  match Json.parseObject (r.scope.getD "\x7b\x7d") with
  | .error message => .badScope message
  | .ok bindings =>
    let scope : Scope := { bindings := bindings }
    let scope := match r.value with
      | some value => scope.bind valueName (.str value)
      | none => scope
    let registry := PatternOp.withBuiltins (r.engine.getD linearEngine)
    match evaluateText registry scope (r.expression.getD "") with
    | .error e => .failed e
    | .ok value => .printed ((if r.compact then value.compact else value.indented 0) ++ "\n")

/-- Carry out what arguments ask for. -/
def run (args : List String) : Outcome :=
  match readArgs args false {} with
  | .complete request => request.run
  | .version => .printed versionText
  | .help => .printed helpText
  | .misuse => .misuse

namespace Outcome

/-- The exit status. -/
def status : Outcome → Nat
  | printed _ => 0
  | misuse => 2
  | badScope _ | failed _ => 1

/-- What is written to standard output. -/
def output : Outcome → String
  | printed text => text
  | _ => ""

/-- What is written to standard error. -/
def errorText : Outcome → String
  | printed _ => ""
  | misuse => helpText
  | badScope message => "Invalid scope: " ++ message ++ "\n"
  | failed e => e.message ++ "\n"

end Outcome

end CommandLine

end TextExpr
