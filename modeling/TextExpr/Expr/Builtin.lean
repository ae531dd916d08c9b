import TextExpr.Expr.Bind
import TextExpr.Expr.Registry
import TextExpr.Text.Casing

/-!
# Built-in interpreters

Access to values of the scope, literals, and simple operations on strings.
-/

namespace TextExpr

namespace Builtin

/-- The value found at a path if it is there and not null, and a default otherwise. An absent,
null or empty path means the current value. -/
def lookup (scope : Scope) (path fallback : Json) : Except EvalError Json :=
  let settle := fun (found : Option Json) =>
    match found with
    | none | some .null => Except.ok fallback
    | some value => .ok value
  match path with
  | .str path => settle (if path = "" then scope.value? else scope.resolve path)
  | .null => settle scope.value?
  | other => .error (.type [.string, .null] other.kind)

/-- `["$value", path, default]`: a value of the scope. Both arguments may be left out. -/
def valueOf : Interpreter where
  name := "$value"
  call c args :=
    match args with
    | [] => lookup c.scope .null .null
    | [path] => do lookup c.scope (← c.value path) .null
    | [path, fallback] => do
      let path ← c.value path
      let fallback ← c.value fallback
      lookup c.scope path fallback
    | args => .error (.arity "$value" (.atMost 2) args.length)
  call_approximates args h := by
    simp only [h.scope]
    split
    · exact .refl _
    · next path => exact (h.value path).bind fun _ => .refl _
    · next path fallback =>
      exact (h.value path).bind fun _ => (h.value fallback).bind fun _ => .refl _
    · exact .refl _

/-- `["$literal", value]`: the argument as it is written. -/
def literal : Interpreter where
  name := "$literal"
  call _ args :=
    match args with
    | [value] => .ok value
    | args => .error (.arity "$literal" (.exactly 1) args.length)
  call_approximates _ _ := .refl _

/-- An interpreter that maps a string. -/
def onString (name : String) (f : String → String) : Interpreter where
  name := name
  call c args := do
    let bound ← bindArgs c name [.typed [.string]] args
    return .str (f bound[0].text)
  call_approximates args h := (bindArgs_approximates h _ _ args).bind fun _ => .refl _

/-- `["$stringToUpperCase", value]`. -/
def toUpperCase : Interpreter := onString "$stringToUpperCase" upperCase

/-- `["$stringToLowerCase", value]`. -/
def toLowerCase : Interpreter := onString "$stringToLowerCase" lowerCase

/-- `["$stringConcat", suffix, value]`: the value followed by the suffix. -/
def concat : Interpreter where
  name := "$stringConcat"
  call c args := do
    let bound ← bindArgs c "$stringConcat" [.typed [.string], .typed [.string]] args
    return .str (bound[1].text ++ bound[0].text)
  call_approximates args h := (bindArgs_approximates h _ _ args).bind fun _ => .refl _

/-- All built-in interpreters. -/
def all : List Interpreter := [valueOf, literal, toUpperCase, toLowerCase, concat]

/-- A registry of the built-in interpreters. -/
def registry : Registry := .ofList all

end Builtin

end TextExpr
