import TextExpr.Expr.Registry
import TextExpr.Json.Reader

/-!
# Evaluation

An array that starts with the name of a registered interpreter is a call. Any other value stands
for itself, so that the evaluation itself never looks at a value that it gave as an expression. An
interpreter may, and it may do so for ever: what an expression evaluates to is defined as the least
solution of `evaluate_eq`, which goes no further than evaluating does. To compute it up to a bound
for the depth of calls there is `evaluateWithin`.
-/

namespace TextExpr

/-- The value of an expression in a scope, if other expressions evaluate as given. -/
def evaluateBy (registry : Registry) (evaluate : Json → Scope → Except EvalError Json) :
    Json → Scope → Except EvalError Json
  | .arr (.str name :: args), scope =>
    match registry.get? name with
    | some interpreter => interpreter.call ⟨scope, registry.names, evaluate⟩ args
    | none => .ok (.arr (.str name :: args))
  | expr, _ => .ok expr

/-- The further the other evaluations go, the further goes this one. -/
theorem evaluateBy_approximates (registry : Registry)
    {evaluate evaluate' : Json → Scope → Except EvalError Json}
    (h : ∀ expr scope, Approximates (evaluate expr scope) (evaluate' expr scope)) (expr : Json)
    (scope : Scope) :
    Approximates (evaluateBy registry evaluate expr scope)
      (evaluateBy registry evaluate' expr scope) := by
  unfold evaluateBy
  split
  · split
    · next interpreter _ => exact interpreter.call_approximates _ ⟨rfl, rfl, h⟩
    · exact .refl _
  · exact .refl _

/-- The result of an evaluation if it ends. -/
def ended? {α : Type} : Except EvalError α → Option (Except EvalError α)
  | .error .endlessEvaluation => none
  | result => some result

/-- The result of an evaluation that ends if there is one. -/
def orEndless {α : Type} (result? : Option (Except EvalError α)) : Except EvalError α :=
  result?.getD (.error .endlessEvaluation)

theorem orEndless_ended? {α : Type} (result : Except EvalError α) :
    orEndless (ended? result) = result := by
  unfold ended?
  split <;> rfl

theorem ended?_of_approximates {α : Type} {x y : Except EvalError α} (h : Approximates x y) :
    ended? x = none ∨ ended? x = ended? y := by
  rcases h with rfl | rfl
  · exact .inl rfl
  · exact .inr rfl

/-- The value of an expression in a scope if evaluating it ends. -/
def Registry.evaluate? (registry : Registry) (expr : Json) (scope : Scope) :
    Option (Except EvalError Json) :=
  ended? (evaluateBy registry (fun expr scope => orEndless (registry |>.evaluate? expr scope))
    expr scope)
partial_fixpoint monotonicity by
  intro f g hfg expr scope
  have happroximates : ∀ expr scope, Approximates (orEndless (f expr scope))
      (orEndless (g expr scope)) := by
    intro expr scope
    have hle := hfg expr scope
    generalize f expr scope = x at hle ⊢
    generalize g expr scope = y at hle ⊢
    cases hle with
    | bot => exact .endless _
    | refl => exact .refl _
  rcases ended?_of_approximates (evaluateBy_approximates registry happroximates expr scope)
    with hnone | hsame
  · simp only [hnone]
    constructor
  · simp only [hsame]
    constructor

/-- The value of an expression in a scope. -/
def evaluate (registry : Registry) (expr : Json) (scope : Scope) : Except EvalError Json :=
  orEndless (registry.evaluate? expr scope)

/-- The context of a call by the interpreters of a registry. -/
def Registry.context (registry : Registry) (scope : Scope) : Context where
  scope := scope
  names := registry.names
  evaluate := evaluate registry

theorem evaluate_eq (registry : Registry) (expr : Json) (scope : Scope) :
    evaluate registry expr scope = evaluateBy registry (evaluate registry) expr scope := by
  rw [evaluate, Registry.evaluate?, orEndless_ended?]
  rfl

section

variable {registry : Registry} {name : String}

theorem evaluate_call {interpreter : Interpreter} (h : registry.get? name = some interpreter)
    (args : List Json) (scope : Scope) :
    evaluate registry (.arr (.str name :: args)) scope =
      interpreter.call (registry.context scope) args := by
  rw [evaluate_eq, evaluateBy, h]
  rfl

/-- An array that begins with another string stands for itself. -/
theorem evaluate_of_get?_eq_none (h : registry.get? name = none) (args : List Json)
    (scope : Scope) :
    evaluate registry (.arr (.str name :: args)) scope = .ok (.arr (.str name :: args)) := by
  rw [evaluate_eq, evaluateBy, h]

end

/-! ## Evaluation up to a depth -/

/-- The value of an expression in a scope, if calls are nested less than so many times. -/
def evaluateWithin (registry : Registry) : (depth : Nat) → Json → Scope → Except EvalError Json
  | 0 => fun _ _ => .error .endlessEvaluation
  | depth + 1 => evaluateBy registry (evaluateWithin registry depth)

theorem evaluateWithin_approximates (registry : Registry) (depth : Nat) (expr : Json)
    (scope : Scope) :
    Approximates (evaluateWithin registry depth expr scope) (evaluate registry expr scope) := by
  induction depth generalizing expr scope with
  | zero => exact .endless _
  | succ depth ih =>
    rw [evaluateWithin, evaluate_eq]
    exact evaluateBy_approximates registry ih expr scope

/-- What is found within some depth is the value. -/
theorem evaluate_of_evaluateWithin {registry : Registry} (depth : Nat) {expr : Json}
    {scope : Scope} {result : Except EvalError Json} (hends : result ≠ .error .endlessEvaluation)
    (h : evaluateWithin registry depth expr scope = result) :
    evaluate registry expr scope = result := by
  have hvalue := (evaluateWithin_approximates registry depth expr scope).eq (h ▸ hends)
  exact hvalue.symm.trans h

/-- What is found to be a text within some depth is the value. That it is this text can be
decided. -/
theorem evaluate_of_text {registry : Registry} (depth : Nat) {expr : Json} {scope : Scope}
    {text : String} (hne : text ≠ "")
    (h : (evaluateWithin registry depth expr scope).toOption.map Json.text = some text) :
    evaluate registry expr scope = .ok (.str text) := by
  cases hresult : evaluateWithin registry depth expr scope with
  | error e => simp [hresult, Except.toOption] at h
  | ok value =>
    rw [hresult] at h
    obtain rfl := Option.some.inj h
    have hvalue : Json.str value.text = value := by
      cases value <;> first | rfl | exact absurd rfl hne
    rw [hvalue]
    exact evaluate_of_evaluateWithin depth (by simp) hresult

/-! ## Texts -/

/-- The value of the expression that a JSON text writes. -/
def evaluateText (registry : Registry) (scope : Scope) (text : String) : Except EvalError Json :=
  match Json.parse text with
  | .error message => .error (.parse message)
  | .ok expr => evaluate registry expr scope

end TextExpr
