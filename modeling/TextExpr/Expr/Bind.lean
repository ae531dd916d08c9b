import TextExpr.Expr.Context

/-!
# Binding arguments

An interpreter says for each parameter how its argument is to be bound. The last argument of a
call may be left out, and the current value then takes its place.
-/

namespace TextExpr

/-- How an argument is bound to a parameter. -/
inductive Param where
  /-- Evaluated. -/
  | any
  /-- Evaluated, and of one of the given types. -/
  | typed (allowed : List Kind)
  /-- As it is written. -/
  | raw
deriving DecidableEq, Repr

/-- Bind one parameter. In place of an absent argument the current value is taken, which is not
evaluated. -/
def Param.bind (c : Context) : Param → Option Json → Except EvalError Json
  | .raw, some arg => .ok arg
  | .any, some arg => c.value arg
  | .typed allowed, some arg => do
    let value ← c.value arg
    requireKind allowed value
  | .typed allowed, none => requireKind allowed c.scope.current
  | _, none => .ok c.scope.current

/-- What parameters are bound to, one value for each. -/
@[ext]
structure Bound (params : List Param) where
  /-- The values in the order of the parameters. -/
  values : List Json
  /-- There are as many values as parameters. -/
  length_values : values.length = params.length

namespace Bound

instance (params : List Param) :
    GetElem (Bound params) Nat Json fun _ i => i < params.length where
  getElem bound i h := bound.values.get ⟨i, bound.length_values ▸ h⟩

/-- Nothing is bound. -/
def nil : Bound [] := ⟨[], rfl⟩

/-- One more parameter in front, with its value. -/
def cons {param : Param} {params : List Param} (value : Json) (bound : Bound params) :
    Bound (param :: params) where
  values := value :: bound.values
  length_values := by rw [List.length_cons, List.length_cons, bound.length_values]

end Bound

/-- Bind parameters from left to right, up to the first one that fails. -/
def bindEach (c : Context) : (params : List Param) → List Json → Except EvalError (Bound params)
  | [], _ => .ok .nil
  | param :: params, args => do
    let value ← param.bind c args.head?
    let later ← bindEach c params args.tail
    return later.cons value

/-- Bind the arguments of a call of the named interpreter. -/
def bindArgs (c : Context) (name : String) (params : List Param) (args : List Json) :
    Except EvalError (Bound params) :=
  if params.length < args.length ∨ args.length + 1 < params.length then
    .error (.arity name (.lastOptional params.length) args.length)
  else bindEach c params args

/-! ## Evaluations that go further -/

section

variable {c d : Context}

theorem Param.bind_approximates (h : c.Approximates d) (param : Param) (arg? : Option Json) :
    Approximates (param.bind c arg?) (param.bind d arg?) := by
  cases arg? with
  | none =>
    have hcurrent : c.scope.current = d.scope.current := by rw [h.scope]
    cases param <;> simp only [Param.bind, hcurrent] <;> exact .refl _
  | some arg =>
    cases param with
    | raw => exact .refl _
    | any => exact h.value arg
    | typed allowed => exact (h.value arg).bind fun _ => .refl _

theorem bindEach_approximates (h : c.Approximates d) (params : List Param) (args : List Json) :
    Approximates (bindEach c params args) (bindEach d params args) := by
  induction params generalizing args with
  | nil => exact .refl _
  | cons param params ih =>
    exact (param.bind_approximates h args.head?).bind fun _ =>
      (ih args.tail).bind fun _ => .refl _

theorem bindArgs_approximates (h : c.Approximates d) (name : String) (params : List Param)
    (args : List Json) : Approximates (bindArgs c name params args) (bindArgs d name params args) := by
  unfold bindArgs
  split
  · exact .refl _
  · exact bindEach_approximates h params args

end

end TextExpr
