import TextExpr.Expr.Error
import TextExpr.Expr.Scope

/-!
# Contexts of calls

A call is made in a context: a scope, and the interpreters, which it sees by their names and by what
they make of any value in any scope. Since what is called may evaluate whatever it likes, an
evaluation need not end. `EvalError.endlessEvaluation` is the result of one that does not. It is no
error that could be handled, for whoever waits for such an evaluation does not end either: with an
evaluation that ends in its place the result may be any other one, but without it nothing can be
told. `Approximates` is this order of results.
-/

namespace TextExpr

/-! ## Results -/

/-- A result is another one, as far as it goes: the two are the same, or the first evaluation does
not end. -/
def Approximates {α : Type} (x y : Except EvalError α) : Prop :=
  x = .error .endlessEvaluation ∨ x = y

namespace Approximates

variable {α β : Type} {x y : Except EvalError α}

theorem refl (x : Except EvalError α) : Approximates x x := .inr rfl

/-- Nothing goes less far than an evaluation that does not end. -/
theorem endless (y : Except EvalError α) : Approximates (.error .endlessEvaluation) y := .inl rfl

/-- An evaluation that ends does so with the final result. -/
theorem eq (h : Approximates x y) (hx : x ≠ .error .endlessEvaluation) : x = y :=
  h.resolve_left hx

theorem bind {f g : α → Except EvalError β} (h : Approximates x y)
    (hf : ∀ a, Approximates (f a) (g a)) : Approximates (x >>= f) (y >>= g) := by
  rcases h with rfl | rfl
  · exact .endless _
  · cases x with
    | error e => exact .refl _
    | ok a => exact hf a

theorem map (f : α → β) (h : Approximates x y) : Approximates (x.map f) (y.map f) := by
  rcases h with rfl | rfl
  · exact .endless _
  · exact .refl _

end Approximates

/-! ## Contexts -/

/-- What a call is made in. -/
structure Context where
  /-- The scope of the call. -/
  scope : Scope
  /-- The names of the interpreters that are registered. -/
  names : List String
  /-- The value of an expression in a scope, by these interpreters. -/
  evaluate : Json → Scope → Except EvalError Json

namespace Context

/-- The value of an expression in the scope of the call. -/
def value (c : Context) (expr : Json) : Except EvalError Json := c.evaluate expr c.scope

/-- The context with another scope. -/
def withScope (c : Context) (scope : Scope) : Context := { c with scope }

/-- The contexts differ in nothing but evaluations that do not end in the first one. -/
structure Approximates (c d : Context) : Prop where
  /-- The scope is the same. -/
  scope : c.scope = d.scope
  /-- The same names are registered. -/
  names : c.names = d.names
  /-- Evaluations go as far or less far. -/
  evaluate : ∀ expr scope,
    TextExpr.Approximates (c.evaluate expr scope) (d.evaluate expr scope)

namespace Approximates

variable {c d : Context}

theorem value (h : c.Approximates d) (expr : Json) :
    TextExpr.Approximates (c.value expr) (d.value expr) := by
  rw [Context.value, Context.value, ← h.scope]
  exact h.evaluate expr c.scope

theorem withScope (h : c.Approximates d) (scope : Scope) :
    (c.withScope scope).Approximates (d.withScope scope) :=
  ⟨rfl, h.names, h.evaluate⟩

end Approximates

end Context

/-! ## Types of values -/

/-- The value itself if its type is allowed. -/
def requireKind (allowed : List Kind) (value : Json) : Except EvalError Json :=
  if value.kind ∈ allowed then .ok value else .error (.type allowed value.kind)

/-- The value of an expression, which has to be of the given type. -/
def evaluateAs (expected : Kind) (c : Context) (expr : Json) : Except EvalError Json := do
  let value ← c.value expr
  requireKind [expected] value

theorem evaluateAs_approximates {c d : Context} (h : c.Approximates d) (expected : Kind)
    (expr : Json) : Approximates (evaluateAs expected c expr) (evaluateAs expected d expr) :=
  (h.value expr).bind fun _ => .refl _

end TextExpr
