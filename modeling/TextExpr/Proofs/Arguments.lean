import TextExpr.Expr.PatternOp
import TextExpr.Proofs.Binding

/-!
# What calls depend on

An interpreter may evaluate whatever it likes, with whatever comes of it. The built-in ones and the
operations by patterns evaluate no more than their arguments, which `AsksForArguments` says, and but
for the one of literals they do not even look at how the arguments are written, which
`DependsOnValues` says.
-/

namespace TextExpr

/-- Arguments in two contexts of the same scope have the same values, in whatever scopes they are
evaluated. -/
structure SameValues (d : Context) (given : List Json) (c : Context) (args : List Json) : Prop where
  /-- The contexts have the same scope. -/
  scope : d.scope = c.scope
  /-- The arguments evaluate alike, one by one. -/
  evaluate : given.map d.evaluate = args.map c.evaluate

section

variable {c d : Context} {params : List Param} {args given : List Json}

namespace SameValues

lemma refl_of_mem (hscope : d.scope = c.scope)
    (h : ∀ arg ∈ args, d.evaluate arg = c.evaluate arg) : SameValues d args c args :=
  ⟨hscope, List.map_congr_left h⟩

lemma length_eq (h : SameValues d given c args) : given.length = args.length := by
  simpa only [List.length_map] using congrArg List.length h.evaluate

lemma value_head {expr expr' : Json} (h : SameValues d (expr' :: given) c (expr :: args)) :
    d.value expr' = c.value expr := by
  rw [Context.value, Context.value, h.scope, List.head_eq_of_cons_eq h.evaluate]

lemma tail {expr expr' : Json} (h : SameValues d (expr' :: given) c (expr :: args)) :
    SameValues d given c args :=
  ⟨h.scope, List.tail_eq_of_cons_eq h.evaluate⟩

/-- A parameter that is evaluated does not depend on how its argument is written. -/
lemma bind_eq (h : SameValues d given c args) {param : Param} (hparam : param ≠ .raw) (i : Nat) :
    param.bind d given[i]? = param.bind c args[i]? := by
  have hget : given[i]?.map d.evaluate = args[i]?.map c.evaluate := by
    rw [← List.getElem?_map, ← List.getElem?_map, h.evaluate]
  cases harg : args[i]? with
  | none =>
    rw [harg, Option.map_none, Option.map_eq_none_iff] at hget
    rw [hget]
    cases param <;> simp only [Param.bind, h.scope]
  | some arg =>
    rw [harg, Option.map_some] at hget
    obtain ⟨arg', hgiven, hsame⟩ := Option.map_eq_some_iff.mp hget
    have hvalue : d.value arg' = c.value arg := by
      rw [Context.value, Context.value, h.scope, hsame]
    rw [hgiven]
    cases param with
    | raw => exact absurd rfl hparam
    | any => exact hvalue
    | typed allowed => simp only [Param.bind, hvalue]

lemma bindArgs_eq (h : SameValues d given c args) (name : String) (hparams : .raw ∉ params) :
    bindArgs d name params given = bindArgs c name params args := by
  have heach : bindEach d params given = bindEach c params args := by
    apply bindEach_congr
    intro i param hparam
    exact h.bind_eq (fun hraw => hparams (hraw ▸ List.mem_of_getElem? hparam)) i
  rw [bindArgs, bindArgs, h.length_eq, heach]

end SameValues

end

/-! ## Interpreters -/

namespace Interpreter

/-- A call asks for the values of its arguments only: whatever else would evaluate to something
else makes no difference. -/
def AsksForArguments (i : Interpreter) : Prop :=
  ∀ (c d : Context) (args : List Json), d.scope = c.scope →
    (∀ arg ∈ args, d.evaluate arg = c.evaluate arg) → i.call d args = i.call c args

/-- A call depends on the scope and on the values of its arguments, not on how they are written. -/
def DependsOnValues (i : Interpreter) : Prop :=
  ∀ (c d : Context) (given args : List Json), SameValues d given c args →
    i.call d given = i.call c args

/-- An interpreter binds its arguments to parameters and looks at nothing else. -/
def Binds (i : Interpreter) (params : List Param) : Prop :=
  ∃ finish : Bound params → Except EvalError Json, ∀ (c : Context) (args : List Json),
    i.call c args = bindArgs c i.name params args >>= finish

variable {i : Interpreter} {params : List Param}

lemma DependsOnValues.asksForArguments (h : i.DependsOnValues) : i.AsksForArguments :=
  fun c d args hscope hvalues => h c d args args (.refl_of_mem hscope hvalues)

lemma Binds.dependsOnValues (h : i.Binds params) (hparams : .raw ∉ params) :
    i.DependsOnValues := by
  obtain ⟨finish, hcall⟩ := h
  intro c d given args hsame
  rw [hcall, hcall, hsame.bindArgs_eq i.name hparams]

end Interpreter

namespace Builtin

lemma dependsOnValues_valueOf : valueOf.DependsOnValues := by
  intro c d given args h
  have hlength := h.length_eq
  match given, args with
  | [], [] => simp only [valueOf, h.scope]
  | [path], [path'] => simp only [valueOf, h.scope, h.value_head]
  | [path, fallback], [path', fallback'] =>
    simp only [valueOf, h.scope, h.value_head, h.tail.value_head]
  | _ :: _ :: _ :: given, _ :: _ :: _ :: args => simp only [valueOf, hlength]
  | [], _ :: _ | _ :: _, [] | [_], _ :: _ :: _ | _ :: _ :: _, [_]
  | [_, _], _ :: _ :: _ :: _ | _ :: _ :: _ :: _, [_, _] => simp at hlength

/-- A literal is not evaluated at all. -/
lemma asksForArguments_literal : literal.AsksForArguments := fun _ _ _ _ _ => rfl

lemma binds_onString (name : String) (f : String → String) :
    (onString name f).Binds [.typed [.string]] := ⟨_, fun _ _ => rfl⟩

lemma binds_concat : concat.Binds [.typed [.string], .typed [.string]] := ⟨_, fun _ _ => rfl⟩

end Builtin

namespace PatternOp

variable {engine : Engine} {c d : Context}

lemma binds_onPattern (engine : Engine) (name : String)
    (f : Pattern → String → Except EvalError Json) :
    (onPattern engine name f).Binds [.any, .typed [.string]] := ⟨_, fun _ _ => rfl⟩

/-- Replacing evaluates the pattern and the string, in this order, before it takes up the
pattern. -/
lemma call_stringReplace_of_fits (pattern replacement : Json) {rest : List Json}
    (hrest : rest.length ≤ 1) :
    (stringReplace engine).call c (pattern :: replacement :: rest) = do
      let candidate ← c.value pattern
      let subject ← (Param.typed [.string]).bind c rest[0]?
      let p ← Pattern.normalize engine candidate
      let replaced ← (p.replaceWith subject.text (evaluated c replacement) ()).1
      return .str replaced := by
  have hbind : bindArgs c "$stringReplace" [.any, .raw, .typed [.string]]
      (pattern :: replacement :: rest) =
        bindEach c [.any, .raw, .typed [.string]] (pattern :: replacement :: rest) := by
    apply bindArgs_of_fits
    · show rest.length + 1 + 1 ≤ 3
      omega
    · show 3 ≤ rest.length + 1 + 1 + 1
      omega
  show (bindArgs c "$stringReplace" [.any, .raw, .typed [.string]] _ >>= _) = _
  rw [hbind, bindEach_cons, bindEach_cons, bindEach_cons, List.tail_cons, List.tail_cons]
  show (c.value pattern >>= _) >>= _ = _
  cases c.value pattern with
  | error e => rfl
  | ok candidate => cases (Param.typed [.string]).bind c rest[0]? <;> rfl

lemma call_stringReplace_of_not_fits {args : List Json}
    (h : ¬(2 ≤ args.length ∧ args.length ≤ 3)) :
    (stringReplace engine).call c args =
      .error (.arity "$stringReplace" (.lastOptional 3) args.length) := by
  have hbind : bindArgs c "$stringReplace" [.any, .raw, .typed [.string]] args =
      .error (.arity "$stringReplace" (.lastOptional 3) args.length) := by
    apply bindArgs_of_not_fits
    show 3 < args.length ∨ args.length + 1 < 3
    omega
  show (bindArgs c "$stringReplace" [.any, .raw, .typed [.string]] args >>= _) = _
  rw [hbind]
  rfl

/-- The replacement is evaluated in scopes of its own, so that its value in that of the call is not
enough. -/
lemma evaluated_congr {replacement replacement' : Json} (hscope : d.scope = c.scope)
    (h : d.evaluate replacement' = c.evaluate replacement) :
    evaluated d replacement' = evaluated c replacement := by
  funext matched state
  simp only [evaluated, evaluateAs, Context.value, Context.withScope, hscope, h]

lemma dependsOnValues_stringReplace (engine : Engine) : (stringReplace engine).DependsOnValues := by
  intro c d given args h
  have hlength := h.length_eq
  by_cases hfits : 2 ≤ given.length ∧ given.length ≤ 3
  · match given, args with
    | pattern' :: replacement' :: rest', pattern :: replacement :: rest =>
      simp only [List.length_cons] at hfits hlength
      have hreplacement := evaluated_congr h.scope (List.head_eq_of_cons_eq h.tail.evaluate)
      have hsubject := h.tail.tail.bind_eq (show Param.typed [.string] ≠ .raw by simp) 0
      rw [call_stringReplace_of_fits _ _ (by omega), call_stringReplace_of_fits _ _ (by omega),
        h.value_head, hsubject, hreplacement]
  · rw [call_stringReplace_of_not_fits hfits, call_stringReplace_of_not_fits (hlength ▸ hfits),
      hlength]

/-- None of the interpreters that are not a host's own looks at any other value than those of its
arguments. -/
theorem asksForArguments_of_mem {i : Interpreter} (h : i ∈ Builtin.all ++ all engine) :
    i.AsksForArguments := by
  have honString : ∀ name f, (Builtin.onString name f).AsksForArguments := fun name f =>
    ((Builtin.binds_onString name f).dependsOnValues (by simp)).asksForArguments
  have honPattern : ∀ name f, (onPattern engine name f).AsksForArguments := fun name f =>
    ((binds_onPattern engine name f).dependsOnValues (by simp)).asksForArguments
  simp only [Builtin.all, all, List.cons_append, List.nil_append, List.mem_cons, List.not_mem_nil,
    or_false] at h
  rcases h with rfl | rfl | rfl | rfl | rfl | rfl | rfl | rfl | rfl
  · exact Builtin.dependsOnValues_valueOf.asksForArguments
  · exact Builtin.asksForArguments_literal
  · exact honString _ _
  · exact honString _ _
  · exact (Builtin.binds_concat.dependsOnValues (by simp)).asksForArguments
  · exact honPattern _ _
  · exact honPattern _ _
  · exact (dependsOnValues_stringReplace engine).asksForArguments
  · exact honPattern _ _

end PatternOp

end TextExpr
