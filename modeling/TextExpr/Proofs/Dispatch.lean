import TextExpr.Linear.Engine
import TextExpr.Proofs.Arguments

/-!
# Dispatch

An interpreter may take any value for an expression and evaluate it. The built-in ones and the
operations by patterns take none but their arguments, which stand in the expression, so that by them
the expression alone decides what is called. Values from the scope, values that an evaluation gives
and texts of matches may look like calls, but they are not looked at as expressions:
`evaluate_eq_of_agree` says that no name counts but those that begin an array of the expression, and
that no call is made but those that stand in it.
-/

namespace TextExpr

namespace Json

mutual

/-- The calls that are written in a value, wherever they stand: its arrays that begin with a
string, each as this name and what follows it. -/
def calls : Json → List (String × List Json)
  | arr (str name :: args) => (name, args) :: callsOfAll args
  | arr items => callsOfAll items
  | obj members => callsOfMembers members
  | _ => []

/-- The calls that are written in the items of an array. -/
def callsOfAll : List Json → List (String × List Json)
  | [] => []
  | item :: items => calls item ++ callsOfAll items

/-- The calls that are written in the members of an object. -/
def callsOfMembers : List (String × Json) → List (String × List Json)
  | [] => []
  | member :: members => callsOfMember member ++ callsOfMembers members

/-- The calls that are written in a member of an object. -/
def callsOfMember : String × Json → List (String × List Json)
  | (_, value) => calls value

end

/-- The names that stand first in some array of a value. -/
def heads (value : Json) : List String := value.calls.map (·.1)

end Json

namespace Registry

/-- Two registries hold the same under a name: nothing, or one of the built-in interpreters and of
the operations by patterns of an engine. -/
def AgreeAt (engine : Engine) (r r' : Registry) (name : String) : Prop :=
  (r.get? name = none ∧ r'.get? name = none) ∨
    ∃ i ∈ Builtin.all ++ PatternOp.all engine, r.get? name = some i ∧ r'.get? name = some i

/-- Two registries answer a call alike, as long as they agree on what its arguments evaluate to. -/
inductive AnswersAlike (r r' : Registry) (name : String) (args : List Json) : Prop
  /-- Neither of them has an interpreter for it. -/
  | literal : r.get? name = none → r'.get? name = none → AnswersAlike r r' name args
  /-- Their interpreters come to the same, whatever the scope is. -/
  | call {i i' : Interpreter} : r.get? name = some i → r'.get? name = some i' →
      ((∀ arg ∈ args, evaluate r arg = evaluate r' arg) →
        ∀ scope, i.call (r.context scope) args = i'.call (r'.context scope) args) →
      AnswersAlike r r' name args

/-- The interpreter for the given calls only. Any other call gives `refused`. -/
noncomputable def onlyFor (calls : List (String × List Json)) (refused : Except EvalError Json)
    (i : Interpreter) : Interpreter where
  name := i.name
  call c args :=
    open scoped Classical in
    if (i.name, args) ∈ calls then i.call c args else refused
  call_approximates args h := by
    split
    · exact i.call_approximates args h
    · exact .refl _

/-- The registry for the given calls only. Any other call gives `refused`. -/
noncomputable def only (r : Registry) (calls : List (String × List Json))
    (refused : Except EvalError Json) : Registry :=
  ⟨r.interpreters.map (onlyFor calls refused)⟩

lemma get?_only (r : Registry) (calls : List (String × List Json))
    (refused : Except EvalError Json) (name : String) :
    (r.only calls refused).get? name = (r.get? name).map (onlyFor calls refused) := by
  obtain ⟨interpreters⟩ := r
  unfold get? only
  induction interpreters with
  | nil => rfl
  | cons i rest ih =>
    rw [List.map_cons, find?, find?, ih]
    by_cases h : i.name = name
    · rw [if_pos h, if_pos (show (onlyFor calls refused i).name = name from h), Option.map_some]
    · rw [if_neg h, if_neg (show ¬(onlyFor calls refused i).name = name from h)]

section

variable {engine : Engine} {r r' : Registry} {name : String} {args : List Json}

/-- An interpreter that asks for nothing but its arguments does not notice in which registry it
is. -/
lemma call_context_eq {i : Interpreter} (hi : i.AsksForArguments)
    (hargs : ∀ arg ∈ args, evaluate r arg = evaluate r' arg) (scope : Scope) :
    i.call (r.context scope) args = i.call (r'.context scope) args :=
  hi (r'.context scope) (r.context scope) args rfl hargs

lemma AgreeAt.answersAlike (h : AgreeAt engine r r' name) (args : List Json) :
    AnswersAlike r r' name args := by
  rcases h with ⟨hr, hr'⟩ | ⟨i, hmem, hr, hr'⟩
  · exact .literal hr hr'
  · exact .call hr hr' fun hargs scope =>
      call_context_eq (PatternOp.asksForArguments_of_mem hmem) hargs scope

/-- Calls that are given are answered as before. -/
lemma AgreeAt.answersAlike_only (h : AgreeAt engine r r' name) {calls : List (String × List Json)}
    (hcall : (name, args) ∈ calls) (refused : Except EvalError Json) :
    AnswersAlike (r.only calls refused) r name args := by
  rcases h with ⟨hr, -⟩ | ⟨i, hmem, hr, -⟩
  · refine .literal ?_ hr
    rw [get?_only, hr, Option.map_none]
  · have honly : (r.only calls refused).get? name = some (onlyFor calls refused i) := by
      rw [get?_only, hr, Option.map_some]
    refine .call honly hr fun hargs scope => ?_
    obtain rfl := name_of_get? hr
    simp only [onlyFor, hcall, if_true]
    exact call_context_eq (PatternOp.asksForArguments_of_mem hmem) hargs scope

end

end Registry

open Registry

/-! ## Evaluation -/

section

variable {r r' : Registry}

lemma evaluate_call_eq_of_answers {name : String} {args : List Json}
    (h : AnswersAlike r r' name args) (hargs : ∀ arg ∈ args, evaluate r arg = evaluate r' arg) :
    evaluate r (.arr (.str name :: args)) = evaluate r' (.arr (.str name :: args)) := by
  funext scope
  cases h with
  | literal hr hr' => rw [evaluate_of_get?_eq_none hr, evaluate_of_get?_eq_none hr']
  | call hr hr' hcall => rw [evaluate_call hr, evaluate_call hr', hcall hargs scope]

mutual

/-- Two registries that answer the calls that are written in an expression alike give it the same
value. -/
theorem evaluate_eq_of_answers :
    (expr : Json) → (∀ call ∈ expr.calls, AnswersAlike r r' call.1 call.2) →
      evaluate r expr = evaluate r' expr
  | .arr (.str name :: args), h => by
    rw [Json.calls] at h
    have hargs := evaluate_eq_of_answersAll args fun call hcall =>
      h call (List.mem_cons_of_mem _ hcall)
    exact evaluate_call_eq_of_answers (h _ List.mem_cons_self) hargs
  | .null, _ | .bool _, _ | .number _, _ | .str _, _ | .obj _, _ | .arr [], _
  | .arr (.null :: _), _ | .arr (.bool _ :: _), _ | .arr (.number _ :: _), _
  | .arr (.arr _ :: _), _ | .arr (.obj _ :: _), _ => by
    funext scope
    rw [evaluate_eq, evaluate_eq]
    rfl

/-- So do they for each of the arguments of a call. -/
theorem evaluate_eq_of_answersAll :
    (args : List Json) → (∀ call ∈ Json.callsOfAll args, AnswersAlike r r' call.1 call.2) →
      ∀ arg ∈ args, evaluate r arg = evaluate r' arg
  | [], _ => fun arg harg => absurd harg List.not_mem_nil
  | expr :: rest, h => by
    rw [Json.callsOfAll] at h
    have hexpr := evaluate_eq_of_answers expr fun call hcall =>
      h call (List.mem_append_left _ hcall)
    have hrest := evaluate_eq_of_answersAll rest fun call hcall =>
      h call (List.mem_append_right _ hcall)
    exact List.forall_mem_cons.mpr ⟨hexpr, hrest⟩

end

end

/-- Two registries that agree on the names that begin the arrays of an expression give it the same
value in every scope, whatever else they hold: data is not dispatched. Nor is any call made but
those that stand in the expression: if all others were refused, the value would be the same. -/
theorem evaluate_eq_of_agree {engine : Engine} {r r' : Registry} {expr : Json}
    (h : ∀ name ∈ expr.heads, AgreeAt engine r r' name) (scope : Scope) :
    evaluate r expr scope = evaluate r' expr scope ∧
      ∀ refused, evaluate (r.only expr.calls refused) expr scope = evaluate r expr scope := by
  constructor
  · have hsame : evaluate r expr = evaluate r' expr :=
      evaluate_eq_of_answers expr fun call hcall =>
        (h call.1 (List.mem_map_of_mem hcall)).answersAlike call.2
    rw [hsame]
  · intro refused
    have honly : evaluate (r.only expr.calls refused) expr = evaluate r expr :=
      evaluate_eq_of_answers expr fun call hcall =>
        (h call.1 (List.mem_map_of_mem hcall)).answersAlike_only hcall refused
    rw [honly]

/-- A value that looks like a call of a registered interpreter is the current value and, by way of
the default for a missing path, the result. -/
theorem evaluate_eq_of_agree_call :
    let r := PatternOp.withBuiltins linearEngine
    let r' := r.register (Host.constant "$shout" (.str "!"))
    let expr : Json := .arr [.str "$value", .str "missing", .arr [.str "$value"]]
    let scope := Scope.withValue (.arr [.str "$shout", .str "a"])
    (∀ name ∈ expr.heads, AgreeAt linearEngine r r' name) ∧
      evaluate r (.arr [.str "$shout"]) scope ≠ evaluate r' (.arr [.str "$shout"]) scope ∧
      evaluate r expr scope = evaluate r' expr scope ∧
      evaluate r' expr scope = .ok (.arr [.str "$shout", .str "a"]) := by
  intro r r' expr scope
  have hagree : ∀ name ∈ expr.heads, AgreeAt linearEngine r r' name := by
    intro name hname
    have hvalue : name = "$value" := by
      simpa [expr, Json.heads, Json.calls, Json.callsOfAll] using hname
    subst hvalue
    exact Or.inr ⟨Builtin.valueOf, List.mem_cons_self, rfl, rfl⟩
  have heq := (evaluate_eq_of_agree hagree scope).1
  refine ⟨hagree, ?_, heq, ?_⟩
  · -- as an expression the value is a call in one registry and a literal in the other
    have hliteral : evaluate r (.arr [.str "$shout"]) scope = .ok (.arr [.str "$shout"]) :=
      evaluate_of_get?_eq_none rfl [] scope
    have hcall : evaluate r' (.arr [.str "$shout"]) scope = .ok (.str "!") :=
      evaluate_of_evaluateWithin 1 (by simp) rfl
    rw [hliteral, hcall]
    simp
  · rw [← heq]
    exact evaluate_of_evaluateWithin 2 (by simp) rfl

/-! ## Interpreters that dispatch data -/

/-- A host's interpreter may evaluate the value of its argument in turn. -/
theorem evaluate_evaluator {registry : Registry} {name : String}
    (h : registry.get? name = some (Host.evaluator name)) (expr : Json) (scope : Scope) :
    evaluate registry (.arr [.str name, expr]) scope =
      evaluate registry expr scope >>= fun value => evaluate registry value scope := by
  rw [evaluate_call h]
  show (bindArgs (registry.context scope) name [.any] [expr] >>= _) = _
  rw [bindArgs_of_fits _ _ (Nat.le_refl _) (Nat.le_succ _), bindEach_cons]
  show ((evaluate registry expr scope >>= _) >>= _) = _
  cases evaluate registry expr scope <;> rfl

/-- That two registries hold the same interpreters under the names of an expression is therefore not
enough, if these may be any. -/
theorem exists_evaluate_ne_of_get?_eq : ∃ (r r' : Registry) (expr : Json) (scope : Scope),
    (∀ name ∈ expr.heads, r.get? name = r'.get? name) ∧
      evaluate r expr scope ≠ evaluate r' expr scope := by
  let r := Builtin.registry.register (Host.evaluator "$eval")
  let r' := r.register (Host.constant "$shout" (.str "!"))
  let expr : Json := .arr [.str "$eval", .arr [.str "$value"]]
  let data : Json := .arr [.str "$shout"]
  refine ⟨r, r', expr, .withValue data, ?_, ?_⟩
  · intro name hname
    have hnames : name = "$eval" ∨ name = "$value" := by
      simpa [expr, Json.heads, Json.calls, Json.callsOfAll] using hname
    rcases hnames with rfl | rfl <;> rfl
  · have hvalue (registry : Registry) (h : registry.get? "$value" = some Builtin.valueOf) :
        evaluate registry (.arr [.str "$value"]) (.withValue data) = .ok data := by
      rw [evaluate_call h]
      rfl
    have hliteral : evaluate r data (.withValue data) = .ok data :=
      evaluate_of_get?_eq_none rfl [] _
    have hcall : evaluate r' data (.withValue data) = .ok (.str "!") :=
      evaluate_of_evaluateWithin 1 (by simp) rfl
    rw [evaluate_evaluator rfl, evaluate_evaluator rfl, hvalue r rfl, hvalue r' rfl]
    show evaluate r data _ ≠ evaluate r' data _
    rw [hliteral, hcall]
    simp [data]

end TextExpr
