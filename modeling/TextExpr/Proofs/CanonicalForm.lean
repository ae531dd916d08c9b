import TextExpr.Expr.PatternOp
import TextExpr.Linear.Engine
import TextExpr.Proofs.Binding
import TextExpr.Proofs.PatternValue

/-!
# The canonical form of a pattern

The value of a pattern is a canonical form for the values that stand for it: strings, arrays and
objects, with flags in any order. `normalize_toJson` says that it stands for the same pattern, that
two patterns show as one value exactly if they come from one source and the same flags, and that an
expression may give a pattern in canonical form in place of any other.
-/

namespace TextExpr

/-! ## The first argument -/

/-- An argument that is evaluated counts by its value alone. -/
lemma exists_bindArgs_any (c : Context) (name : String) (params : List Param) (args : List Json) :
    ∃ later : Except EvalError (Bound params), ∀ arg value, c.value arg = .ok value →
      bindArgs c name (.any :: params) (arg :: args) = later.map (Bound.cons value) := by
  by_cases harity : params.length + 1 < args.length + 1 ∨ args.length + 1 + 1 < params.length + 1
  · refine ⟨.error (.arity name (.lastOptional (params.length + 1)) (args.length + 1)), ?_⟩
    intro arg value _
    rw [bindArgs, List.length_cons, List.length_cons, if_pos harity]
    rfl
  · refine ⟨bindEach c params args, fun arg value hvalue => ?_⟩
    rw [bindArgs, List.length_cons, List.length_cons, if_neg harity, bindEach_cons, List.tail_cons]
    show (c.value arg >>= _) = _
    rw [hvalue]
    cases bindEach c params args <;> rfl

namespace PatternOp

variable {engine : Engine} {c : Context} {arg arg' value value' : Json}

lemma call_onPattern_congr (name : String) (f : Pattern → String → Except EvalError Json)
    (args : List Json) (h : c.value arg = .ok value) (h' : c.value arg' = .ok value')
    (hp : Pattern.normalize engine value = Pattern.normalize engine value') :
    (onPattern engine name f).call c (arg :: args) =
      (onPattern engine name f).call c (arg' :: args) := by
  obtain ⟨later, hlater⟩ := exists_bindArgs_any c name [.typed [.string]] args
  show (bindArgs c name _ (arg :: args) >>= _) = (bindArgs c name _ (arg' :: args) >>= _)
  rw [hlater arg value h, hlater arg' value' h']
  cases later with
  | error e => rfl
  | ok bound =>
    show (Pattern.normalize engine value >>= fun pattern => f pattern bound[0].text) =
      Pattern.normalize engine value' >>= fun pattern => f pattern bound[0].text
    rw [hp]

lemma call_stringReplace_congr (args : List Json) (h : c.value arg = .ok value)
    (h' : c.value arg' = .ok value')
    (hp : Pattern.normalize engine value = Pattern.normalize engine value') :
    (stringReplace engine).call c (arg :: args) = (stringReplace engine).call c (arg' :: args) := by
  obtain ⟨later, hlater⟩ := exists_bindArgs_any c "$stringReplace" [.raw, .typed [.string]] args
  show (bindArgs c "$stringReplace" _ (arg :: args) >>= _) =
    (bindArgs c "$stringReplace" _ (arg' :: args) >>= _)
  rw [hlater arg value h, hlater arg' value' h']
  cases later with
  | error e => rfl
  | ok bound =>
    show (Pattern.normalize engine value >>= fun pattern =>
        (pattern.replaceWith bound[1].text (evaluated c bound[0]) ()).1 >>= _) =
      Pattern.normalize engine value' >>= fun pattern =>
        (pattern.replaceWith bound[1].text (evaluated c bound[0]) ()).1 >>= _
    rw [hp]

/-- An operation depends on its first argument by the pattern that its value stands for. -/
lemma call_congr_pattern {op : Interpreter} (hop : op ∈ all engine) (args : List Json)
    (h : c.value arg = .ok value) (h' : c.value arg' = .ok value')
    (hp : Pattern.normalize engine value = Pattern.normalize engine value') :
    op.call c (arg :: args) = op.call c (arg' :: args) := by
  simp only [all, List.mem_cons, List.not_mem_nil, or_false] at hop
  rcases hop with rfl | rfl | rfl | rfl
  · exact call_onPattern_congr _ _ args h h' hp
  · exact call_onPattern_congr _ _ args h h' hp
  · exact call_stringReplace_congr args h h' hp
  · exact call_onPattern_congr _ _ args h h' hp

end PatternOp

/-! ## The canonical form -/

/-- The value of a pattern is an object, which stands for itself as an expression. -/
lemma evaluate_toJson (registry : Registry) (p : Pattern) (scope : Scope) :
    evaluate registry p.toJson scope = .ok p.toJson := by
  rw [evaluate_eq]
  unfold Pattern.toJson
  split <;> rfl

lemma evaluate_literal {registry : Registry} (h : registry.get? "$literal" = some Builtin.literal)
    (value : Json) (scope : Scope) :
    evaluate registry (.arr [.str "$literal", value]) scope = .ok value := by
  rw [evaluate_call h]
  rfl

/-- A value that stands for a pattern has a canonical form, the value of the pattern. It stands for
the very same pattern, with the same results for any text. Two values have the same one exactly if
their sources are the same and their flags have the same letters, and then they stand for the same
pattern. An operation comes to the same with a quoted value as with its canonical form, whatever
the other arguments are. -/
theorem normalize_toJson {engine : Engine} {value : Json} {p : Pattern}
    (h : Pattern.normalize engine value = .ok p) :
    Pattern.normalize engine p.toJson = .ok p ∧
    (∀ value' q, Pattern.normalize engine value' = .ok q → ∃ candidate candidate',
      PatternCandidate.classify value = .ok candidate ∧
      PatternCandidate.classify value' = .ok candidate' ∧
      (p.toJson = q.toJson ↔ candidate.sourceText = candidate'.sourceText ∧
        ∀ letter, letter ∈ candidate.flagText.toList ↔ letter ∈ candidate'.flagText.toList) ∧
      (p.toJson = q.toJson → p = q)) ∧
    ∀ (registry : Registry) (op : Interpreter) (args : List Json) (scope : Scope),
      registry.get? "$literal" = some Builtin.literal → op ∈ PatternOp.all engine →
      registry.get? op.name = some op →
        evaluate registry (.arr (.str op.name :: .arr [.str "$literal", value] :: args)) scope =
          evaluate registry (.arr (.str op.name :: p.toJson :: args)) scope := by
  have hcanonical := Pattern.normalize_toJson_of_normalize h
  refine ⟨hcanonical, ?_, ?_⟩
  · intro value' q hq
    obtain ⟨candidate, hc, hcompile⟩ := Pattern.normalize_eq_ok.mp h
    obtain ⟨candidate', hc', hcompile'⟩ := Pattern.normalize_eq_ok.mp hq
    refine ⟨candidate, candidate', hc, hc', Pattern.toJson_eq_iff_of_normalize hc hc' h hq, ?_⟩
    intro heq
    obtain ⟨hsource, hflags⟩ := Pattern.toJson_eq_iff.mp heq
    exact Pattern.eq_of_compile hcompile hcompile' hsource hflags
  · intro registry op args scope hliteral hop hget
    rw [evaluate_call hget, evaluate_call hget]
    exact PatternOp.call_congr_pattern hop args (evaluate_literal hliteral value scope)
      (evaluate_toJson registry p scope) (h.trans hcanonical.symm)

/-- Flags in another order, in an array and in an object. -/
theorem normalize_toJson_array :
    let registry := PatternOp.withBuiltins linearEngine
    let value : Json := .arr [.str "^(a)+", .str "mg"]
    let object : Json := .obj [("flags", .str "gm"), ("source", .str "^(a)+")]
    let operation := fun pattern : Json =>
      evaluate registry (.arr [.str "$stringMatch", pattern]) (.withValue (.str "aa\nb\na"))
    ∃ p q, Pattern.normalize linearEngine value = .ok p ∧
      Pattern.normalize linearEngine object = .ok q ∧
      p.toJson = object ∧ Pattern.normalize linearEngine p.toJson = .ok p ∧ p = q ∧
      operation (.arr [.str "$literal", value]) = operation object := by
  intro registry value object operation
  have hvalue : ((Pattern.normalize linearEngine value).toOption.any fun p =>
      p.source = "^(a)+" ∧ p.flags = { isGlobal := true, multiline := true }) = true := by
    decide +kernel
  have hobject : (Pattern.normalize linearEngine object).toOption.isSome = true := by
    decide +kernel
  obtain ⟨p, hp, hshown⟩ := (Option.any_eq_true _ _).mp hvalue
  obtain ⟨hsource, hflags⟩ := of_decide_eq_true hshown
  obtain ⟨q, hq⟩ := Option.isSome_iff_exists.mp hobject
  have hp := eq_ok_of_toOption hp
  have hq := eq_ok_of_toOption hq
  obtain ⟨hcanonical, hsame, heval⟩ := normalize_toJson hp
  have hjson : p.toJson = object := by
    rw [Pattern.toJson, hsource, hflags]
    rfl
  obtain ⟨candidate, candidate', hc, hc', hiff, hpq⟩ := hsame object q hq
  obtain rfl : PatternCandidate.pair "^(a)+" (some "mg") = candidate := Except.ok.inj hc
  obtain rfl : PatternCandidate.object "^(a)+" (some "gm") = candidate' := Except.ok.inj hc'
  have hletters : ∀ letter, letter ∈ ("mg" : String).toList ↔ letter ∈ ("gm" : String).toList := by
    intro letter
    simp [or_comm]
  refine ⟨p, q, hp, hq, hjson, hcanonical, hpq (hiff.mpr ⟨rfl, hletters⟩), ?_⟩
  have hop := heval registry (PatternOp.stringMatch linearEngine) [] (.withValue (.str "aa\nb\na"))
    rfl List.mem_cons_self rfl
  rw [hjson] at hop
  exact hop

end TextExpr
