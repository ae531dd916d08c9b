import TextExpr.Expr.Bind
import TextExpr.Expr.Registry

/-!
# Interpreters for hosts

Simple interpreters that a program embedding the evaluator may register under names of its own.
-/

namespace TextExpr

namespace Host

/-- An interpreter that always gives the same value. -/
def constant (name : String) (value : Json) : Interpreter where
  name := name
  call _ _ := .ok value
  call_approximates _ _ := .refl _

/-- An interpreter that gives the list of its bound arguments. -/
def binder (name : String) (params : List Param) : Interpreter where
  name := name
  call c args := (bindArgs c name params args).map fun bound => .arr bound.values
  call_approximates args h := (bindArgs_approximates h name params args).map _

/-- An interpreter that shows the scope it is called from. -/
def scopeView (name : String) : Interpreter where
  name := name
  call c _ := .ok c.scope.toJson
  call_approximates _ h := by
    rw [h.scope]
    exact .refl _

/-- An interpreter that gives the list of its arguments as they are written. -/
def quotation (name : String) : Interpreter where
  name := name
  call _ args := .ok (.arr args)
  call_approximates _ _ := .refl _

/-- An interpreter that takes the value of its argument for an expression and evaluates that. -/
def evaluator (name : String) : Interpreter where
  name := name
  call c args := do
    let bound ← bindArgs c name [.any] args
    c.value bound[0]
  call_approximates args h := (bindArgs_approximates h name _ args).bind fun bound =>
    h.value bound[0]

end Host

end TextExpr
