import TextExpr.Expr.Context

/-!
# Interpreters and registries

An interpreter is a named operation. It is handed its arguments unevaluated, and it may evaluate
them, or any other value, in the context of the call. A registry holds at most one interpreter under
a name, in increasing order of the names.
-/

namespace TextExpr

/-- A named operation. -/
structure Interpreter where
  /-- The name by which the operation is called. -/
  name : String
  /-- Carry out a call in a context, with the arguments as they are written. -/
  call : Context → List Json → Except EvalError Json
  /-- A call waits for the evaluations that it asks for: it cannot tell whether they will end. -/
  call_approximates : ∀ {c d : Context} (args : List Json), c.Approximates d →
    Approximates (call c args) (call d args)

/-- Interpreters by name. -/
structure Registry where
  /-- The interpreters in increasing order of their names. -/
  interpreters : List Interpreter := []
deriving Inhabited

namespace Registry

/-- The registry without interpreters. -/
def empty : Registry := {}

/-- Interpreters with one more, in place of one of the same name. -/
def insert (i : Interpreter) : List Interpreter → List Interpreter
  | [] => [i]
  | j :: rest =>
    if i.name = j.name then i :: rest
    else if i.name < j.name then i :: j :: rest
    else j :: insert i rest

/-- The registry with one more interpreter, in place of one of the same name. -/
def register (r : Registry) (i : Interpreter) : Registry := ⟨insert i r.interpreters⟩

/-- A registry of the given interpreters; of two of one name the later counts. -/
def ofList (interpreters : List Interpreter) : Registry := interpreters.foldl register empty

/-- The registry with all interpreters of another one, in place of those of the same names. -/
def extend (r other : Registry) : Registry := other.interpreters.foldl register r

/-- The first of some interpreters that has a name. -/
def find? (name : String) : List Interpreter → Option Interpreter
  | [] => none
  | i :: rest => if i.name = name then some i else find? name rest

/-- The interpreter of a name. -/
def get? (r : Registry) (name : String) : Option Interpreter := find? name r.interpreters

/-- The names of all interpreters, in increasing order. -/
def names (r : Registry) : List String := r.interpreters.map (·.name)

private theorem name_of_find? {name : String} {i : Interpreter} {l : List Interpreter}
    (h : find? name l = some i) : i.name = name := by
  induction l with
  | nil => simp [find?] at h
  | cons j rest ih =>
    by_cases hj : j.name = name
    · simp only [find?, hj, if_true, Option.some.injEq] at h
      exact h ▸ hj
    · simp only [find?, hj, if_false] at h
      exact ih h

/-- What is found under a name has that name. -/
theorem name_of_get? {r : Registry} {name : String} {i : Interpreter} (h : r.get? name = some i) :
    i.name = name :=
  name_of_find? h

private theorem find?_insert (i : Interpreter) (l : List Interpreter) (name : String) :
    find? name (insert i l) = if i.name = name then some i else find? name l := by
  induction l with
  | nil => rfl
  | cons j rest ih =>
    by_cases hij : i.name = j.name
    · simp only [insert, hij, if_true, find?]
      split <;> rfl
    · by_cases hlt : i.name < j.name
      · simp only [insert, hij, hlt, if_true, if_false, find?]
      · simp only [insert, hij, hlt, if_false, find?, ih]
        by_cases hj : j.name = name
        · have hne : i.name ≠ name := fun h => hij (h.trans hj.symm)
          simp only [hj, hne, if_true, if_false]
        · simp only [hj, if_false]

/-- A registration changes what is found under one name only. -/
theorem get?_register (r : Registry) (i : Interpreter) (name : String) :
    (r.register i).get? name = if i.name = name then some i else r.get? name :=
  find?_insert i r.interpreters name

end Registry

end TextExpr
