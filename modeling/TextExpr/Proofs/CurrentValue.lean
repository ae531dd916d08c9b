import Mathlib.Logic.Relation
import TextExpr.Pattern.PlainText
import TextExpr.Proofs.Arguments

/-!
# The current value as the last argument

A call may leave its last argument out, and the current value is then taken without an evaluation.
Written out the argument is a call of `$value`, which goes by way of an absent path and a default.
`bindArgs_currentValue` says that the two are the same, wherever in an expression the call stands.
-/

namespace TextExpr

/-- The expression that gives the current value. -/
def currentValue : Json := .arr [.str "$value"]

/-- The current value is found without a path; where it is null or not bound it is null. -/
lemma evaluate_currentValue {registry : Registry}
    (h : registry.get? "$value" = some Builtin.valueOf) (scope : Scope) :
    evaluate registry currentValue scope = .ok scope.current := by
  rw [currentValue, evaluate_call h]
  show Builtin.lookup scope .null .null = .ok (scope.value?.getD .null)
  unfold Builtin.lookup
  cases scope.value? with
  | none => rfl
  | some value => cases value <;> rfl

/-! ## Binding -/

section

variable {c : Context} {last : Param} {args : List Json} {current : Json}

/-- A parameter that is evaluated takes the current value alike where it is written out and where it
is left out. -/
lemma Param.bind_current (hlast : last ≠ .raw) (hcurrent : c.value current = .ok c.scope.current) :
    last.bind c (some current) = last.bind c none := by
  cases last with
  | raw => exact absurd rfl hlast
  | any => exact hcurrent
  | typed allowed =>
    show (c.value current >>= requireKind allowed) = requireKind allowed c.scope.current
    rw [hcurrent]
    rfl

lemma bindArgs_append_current (name : String) (params : List Param) (hlast : last ≠ .raw)
    (hlength : args.length = params.length) (hcurrent : c.value current = .ok c.scope.current) :
    bindArgs c name (params ++ [last]) (args ++ [current]) =
      bindArgs c name (params ++ [last]) args := by
  have hparams : (params ++ [last]).length = params.length + 1 := by simp
  have hargs : (args ++ [current]).length = args.length + 1 := by simp
  rw [bindArgs_of_fits c name (by omega) (by omega),
    bindArgs_of_fits c name (by omega) (by omega)]
  apply bindEach_congr
  intro i param hparam
  by_cases hi : i < args.length
  · rw [List.getElem?_append_left hi]
  · -- only the last parameter is left
    have hbound := (List.getElem?_eq_some_iff.mp hparam).1
    obtain rfl : i = params.length := by omega
    rw [List.getElem?_concat_length] at hparam
    obtain rfl := Option.some.inj hparam
    rw [← hlength, List.getElem?_concat_length, List.getElem?_eq_none (Nat.le_refl _)]
    exact Param.bind_current hlast hcurrent

end

/-! ## Interpreters -/

namespace Interpreter

/-- An interpreter looks at the values of its arguments only, not at how they are written. -/
def UsesValues (i : Interpreter) : Prop :=
  ∀ (c : Context) (given args : List Json),
    given.map c.evaluate = args.map c.evaluate → i.call c given = i.call c args

/-- The last of so many arguments of an interpreter may be left out, for the current value. -/
def DefaultsLast (i : Interpreter) (count : Nat) : Prop :=
  ∀ (c : Context) (args : List Json) (current : Json), args.length + 1 = count →
    c.value current = .ok c.scope.current → i.call c (args ++ [current]) = i.call c args

variable {i : Interpreter} {last : Param}

lemma DependsOnValues.usesValues (h : i.DependsOnValues) : i.UsesValues :=
  fun c given args hsame => h c c given args ⟨rfl, hsame⟩

lemma Binds.defaultsLast (params : List Param) (h : i.Binds (params ++ [last]))
    (hlast : last ≠ .raw) : i.DefaultsLast (params.length + 1) := by
  obtain ⟨finish, hcall⟩ := h
  intro c args current hcount hcurrent
  rw [hcall, hcall, bindArgs_append_current i.name params hlast (by omega) hcurrent]

end Interpreter

namespace PatternOp

lemma defaultsLast_stringReplace (engine : Engine) : (stringReplace engine).DefaultsLast 3 := by
  intro c args current hcount hcurrent
  match args with
  | [pattern, replacement] =>
    show (stringReplace engine).call c (pattern :: replacement :: [current]) = _
    rw [call_stringReplace_of_fits _ _ (by simp), call_stringReplace_of_fits _ _ (by simp)]
    show _ = c.value pattern >>= fun _ => (Param.typed [.string]).bind c none >>= _
    rw [← Param.bind_current (by simp) hcurrent]
    rfl

/-! ## Expressions -/

/-- The operations whose last argument may be left out, each with the number of its arguments. -/
def defaulting (engine : Engine) : List (Interpreter × Nat) :=
  [(Builtin.toUpperCase, 1), (Builtin.toLowerCase, 1), (Builtin.concat, 2),
    (stringMatch engine, 2), (stringTest engine, 2), (stringSplit engine, 2),
    (stringReplace engine, 3)]

variable {engine : Engine} {op : Interpreter} {count : Nat}

/-- They look at the values of their arguments, of which the last one may be left out. -/
lemma usesValues_defaultsLast_of_mem (h : (op, count) ∈ defaulting engine) :
    op.UsesValues ∧ op.DefaultsLast count := by
  have honString : ∀ name f, (Builtin.onString name f).UsesValues ∧
      (Builtin.onString name f).DefaultsLast 1 := fun name f =>
    ⟨((Builtin.binds_onString name f).dependsOnValues (by simp)).usesValues,
      (Builtin.binds_onString name f).defaultsLast [] (by simp)⟩
  have honPattern : ∀ name f, (onPattern engine name f).UsesValues ∧
      (onPattern engine name f).DefaultsLast 2 := fun name f =>
    ⟨((binds_onPattern engine name f).dependsOnValues (by simp)).usesValues,
      (binds_onPattern engine name f).defaultsLast [.any] (by simp)⟩
  simp only [defaulting, List.mem_cons, Prod.mk.injEq, List.not_mem_nil, or_false] at h
  rcases h with ⟨rfl, rfl⟩ | ⟨rfl, rfl⟩ | ⟨rfl, rfl⟩ | ⟨rfl, rfl⟩ | ⟨rfl, rfl⟩ | ⟨rfl, rfl⟩ |
    ⟨rfl, rfl⟩
  · exact honString _ _
  · exact honString _ _
  · exact ⟨(Builtin.binds_concat.dependsOnValues (by simp)).usesValues,
      Builtin.binds_concat.defaultsLast [.typed [.string]] (by simp)⟩
  · exact honPattern _ _
  · exact honPattern _ _
  · exact honPattern _ _
  · exact ⟨(dependsOnValues_stringReplace engine).usesValues, defaultsLast_stringReplace engine⟩

end PatternOp

/-- One call that leaves its last argument out, anywhere among arguments that are evaluated, has it
written out. -/
inductive WritesOut (registry : Registry) : Json → Json → Prop
  /-- The call itself. -/
  | last {engine : Engine} {op : Interpreter} {count : Nat} {args : List Json} :
      (op, count) ∈ PatternOp.defaulting engine → registry.get? op.name = some op →
      args.length + 1 = count →
      WritesOut registry (.arr (.str op.name :: args))
        (.arr (.str op.name :: (args ++ [currentValue])))
  /-- A call in an argument of another one. -/
  | inside {op : Interpreter} {before after : List Json} {expr expr' : Json} :
      registry.get? op.name = some op → op.UsesValues → WritesOut registry expr expr' →
      WritesOut registry (.arr (.str op.name :: (before ++ expr :: after)))
        (.arr (.str op.name :: (before ++ expr' :: after)))

section

variable {registry : Registry} {op : Interpreter}

lemma evaluate_last (hvalue : registry.get? "$value" = some Builtin.valueOf) {count : Nat}
    (hop : registry.get? op.name = some op) (hlast : op.DefaultsLast count) {args : List Json}
    (hcount : args.length + 1 = count) (scope : Scope) :
    evaluate registry (.arr (.str op.name :: (args ++ [currentValue]))) scope =
      evaluate registry (.arr (.str op.name :: args)) scope := by
  rw [evaluate_call hop, evaluate_call hop]
  exact hlast _ args currentValue hcount (evaluate_currentValue hvalue scope)

/-- Wherever the call stands, the value of the whole is the same. -/
lemma WritesOut.evaluate_eq (hvalue : registry.get? "$value" = some Builtin.valueOf)
    {expr expr' : Json} (h : WritesOut registry expr expr') :
    evaluate registry expr' = evaluate registry expr := by
  induction h with
  | last hmem hop hcount =>
    funext scope
    exact evaluate_last hvalue hop (PatternOp.usesValues_defaultsLast_of_mem hmem).2 hcount scope
  | inside hop huses _ ih =>
    funext scope
    rw [evaluate_call hop, evaluate_call hop]
    apply huses
    simp only [Registry.context, List.map_append, List.map_cons, ih]

end

/-- To leave the last argument of a call out means to write the current value there: its parameters
are bound alike, the operations that allow it give the same result or the same error, and so does
every expression in which such calls stand, inside as many other ones as there may be. -/
theorem bindArgs_currentValue {registry : Registry}
    (hvalue : registry.get? "$value" = some Builtin.valueOf) (scope : Scope) :
    (∀ (name : String) (params : List Param) (last : Param) (args : List Json), last ≠ .raw →
        args.length = params.length →
      bindArgs (registry.context scope) name (params ++ [last]) (args ++ [currentValue]) =
        bindArgs (registry.context scope) name (params ++ [last]) args) ∧
    (∀ (engine : Engine) (op : Interpreter) (count : Nat) (args : List Json),
        (op, count) ∈ PatternOp.defaulting engine → registry.get? op.name = some op →
        args.length + 1 = count →
      evaluate registry (.arr (.str op.name :: (args ++ [currentValue]))) scope =
        evaluate registry (.arr (.str op.name :: args)) scope) ∧
    (Builtin.valueOf.UsesValues ∧ ∀ (engine : Engine) (op : Interpreter) (count : Nat),
      (op, count) ∈ PatternOp.defaulting engine → op.UsesValues) ∧
    ∀ expr expr', Relation.ReflTransGen (WritesOut registry) expr expr' →
      evaluate registry expr' scope = evaluate registry expr scope := by
  refine ⟨fun name params last args hlast hlength => ?_,
    fun engine op count args hmem hop hcount => ?_,
    ⟨Builtin.dependsOnValues_valueOf.usesValues,
      fun engine op count hmem => (PatternOp.usesValues_defaultsLast_of_mem hmem).1⟩,
    fun expr expr' h => ?_⟩
  · exact bindArgs_append_current name params hlast hlength (evaluate_currentValue hvalue scope)
  · exact evaluate_last hvalue hop (PatternOp.usesValues_defaultsLast_of_mem hmem).2 hcount scope
  · induction h with
    | refl => rfl
    | tail _ hstep ih => rw [hstep.evaluate_eq hvalue, ih]

/-- Three calls that leave the string out, each inside the replacement of the one around it. The
innermost one finds the text of a match; where no value is bound, the outermost one fails. -/
theorem bindArgs_currentValue_banana :
    let registry := PatternOp.withBuiltins PlainText.engine
    let omitted : Json := .arr [.str "$stringReplace", .arr [.str "an", .str "g"],
      .arr [.str "$stringReplace", .str "n", .arr [.str "$stringConcat", .str "*"]]]
    let written : Json := .arr [.str "$stringReplace", .arr [.str "an", .str "g"],
      .arr [.str "$stringReplace", .str "n", .arr [.str "$stringConcat", .str "*", currentValue],
        currentValue], currentValue]
    Relation.ReflTransGen (WritesOut registry) omitted written ∧
      evaluate registry written (.withValue (.str "banana")) = .ok (.str "ban*an*a") ∧
      evaluate registry written Scope.empty = .error (.type [.string] .null) := by
  intro registry omitted written
  have hreplace : registry.get? "$stringReplace" =
      some (PatternOp.stringReplace PlainText.engine) := rfl
  have huses := (PatternOp.dependsOnValues_stringReplace PlainText.engine).usesValues
  have hmem : (PatternOp.stringReplace PlainText.engine, 3) ∈
      PatternOp.defaulting PlainText.engine := by simp [PatternOp.defaulting]
  let pattern : Json := .arr [.str "an", .str "g"]
  let innermost : Json := .arr [.str "$stringConcat", .str "*"]
  let innermost' : Json := .arr [.str "$stringConcat", .str "*", currentValue]
  let inner : Json := .arr [.str "$stringReplace", .str "n", innermost]
  let inner' : Json := .arr [.str "$stringReplace", .str "n", innermost']
  let inner'' : Json := .arr [.str "$stringReplace", .str "n", innermost', currentValue]
  have hfirst : WritesOut registry innermost innermost' :=
    @WritesOut.last registry PlainText.engine Builtin.concat 2 [.str "*"]
      (by simp [PatternOp.defaulting]) rfl rfl
  have hsecond : WritesOut registry inner inner' :=
    @WritesOut.inside registry _ [.str "n"] [] _ _ hreplace huses hfirst
  have hthird : WritesOut registry inner' inner'' :=
    @WritesOut.last registry PlainText.engine _ 3 [.str "n", innermost'] hmem hreplace rfl
  have houter : WritesOut registry omitted (.arr [.str "$stringReplace", pattern, inner']) :=
    @WritesOut.inside registry _ [pattern] [] _ _ hreplace huses hsecond
  have houter' : WritesOut registry (.arr [.str "$stringReplace", pattern, inner'])
      (.arr [.str "$stringReplace", pattern, inner'']) :=
    @WritesOut.inside registry _ [pattern] [] _ _ hreplace huses hthird
  have houter'' : WritesOut registry (.arr [.str "$stringReplace", pattern, inner'']) written :=
    @WritesOut.last registry PlainText.engine _ 3 [pattern, inner''] hmem hreplace rfl
  have hwritten : Relation.ReflTransGen (WritesOut registry) omitted written :=
    ((Relation.ReflTransGen.single houter).tail houter').tail houter''
  have hvalue : registry.get? "$value" = some Builtin.valueOf := rfl
  refine ⟨hwritten, ?_, ?_⟩
  · obtain ⟨-, -, -, hsame⟩ := bindArgs_currentValue hvalue (.withValue (.str "banana"))
    rw [hsame omitted written hwritten]
    exact evaluate_of_text 4 (by simp) (by decide +kernel)
  · obtain ⟨-, -, -, hsame⟩ := bindArgs_currentValue hvalue Scope.empty
    rw [hsame omitted written hwritten]
    exact evaluate_of_evaluateWithin 2 (by simp) rfl

end TextExpr
