import TextExpr.Proofs.Arguments
import TextExpr.Proofs.Paths
import TextExpr.Proofs.Replace

/-!
# Replacements that are evaluated

An expression that replaces takes its replacement unevaluated and evaluates it for each match, in a
scope inside its own. `evaluate_stringReplace` says what comes of it, whatever the replacement is;
since that may replace in turn, it also says what paths find from inside scopes of any depth.
-/

namespace TextExpr

namespace Pattern

/-- Calling a replacement that remembers nothing. -/
lemma callEach_of_stateless (f : String → Except EvalError String) (texts : List String) :
    callEach (fun matched (_ : Unit) => (f matched, ())) texts () = (texts.mapM f, ()) := by
  induction texts with
  | nil => rfl
  | cons matched later ih =>
    rw [callEach, List.mapM_cons]
    cases hf : f matched with
    | error e => rfl
    | ok output =>
      simp only [ih]
      cases later.mapM f <;> rfl

end Pattern

namespace PatternOp

/-! ## One match -/

/-- What a replacement comes to for the text of a match: its value in a scope inside the given one
in which only the current value is bound, to that text. The value has to be a string. -/
def outputFor (registry : Registry) (scope : Scope) (replacement : Json) (matched : String) :
    Except EvalError String :=
  match evaluate registry replacement (scope.child (.str matched)) with
  | .error e => .error e
  | .ok (.str output) => .ok output
  | .ok value => .error (.type [.string] value.kind)

lemma evaluated_eq (registry : Registry) (scope : Scope) (replacement : Json) :
    evaluated (registry.context scope) replacement =
      fun matched _ => (outputFor registry scope replacement matched, ()) := by
  funext matched state
  have houtput : evaluated (registry.context scope) replacement matched state =
      ((evaluate registry replacement (scope.child (.str matched)) >>= requireKind [.string]) >>=
        fun value => .ok value.text, ()) := rfl
  rw [houtput, outputFor]
  cases evaluate registry replacement (scope.child (.str matched)) with
  | error e => rfl
  | ok value => cases value <;> rfl

/-! ## All matches -/

/-- The operation binds the pattern and the string, and hands the replacement on as it is. -/
lemma call_stringReplace {engine : Engine} {c : Context} {pattern subject candidate : Json}
    {text : String} {p : Pattern} (replacement : Json) (hpattern : c.value pattern = .ok candidate)
    (hp : Pattern.normalize engine candidate = .ok p)
    (hsubject : c.value subject = .ok (.str text)) :
    (stringReplace engine).call c [pattern, replacement, subject] =
      (p.replaceWith text (evaluated c replacement) ()).1.map .str := by
  have hbound : (Param.typed [.string]).bind c (some subject) = .ok (.str text) := by
    show (c.value subject >>= requireKind [.string]) = _
    rw [hsubject]
    rfl
  rw [call_stringReplace_of_fits pattern replacement (show [subject].length ≤ 1 by simp), hpattern]
  show ((Param.typed [.string]).bind c (some subject) >>= _) = _
  rw [hbound]
  show (Pattern.normalize engine candidate >>= _) = _
  rw [hp]
  show ((p.replaceWith text (evaluated c replacement) ()).1 >>= _) = _
  cases (p.replaceWith text (evaluated c replacement) ()).1 <;> rfl

/-- An expression that replaces, and the texts of the matches. -/
lemma evaluate_stringReplace_of_found {engine : Engine} {registry : Registry} {scope : Scope}
    {pattern subject candidate : Json} {text : String} {p : Pattern} {found : List Captures}
    (replacement : Json) (hop : registry.get? "$stringReplace" = some (stringReplace engine))
    (hpattern : evaluate registry pattern scope = .ok candidate)
    (hp : Pattern.normalize engine candidate = .ok p)
    (hsubject : evaluate registry subject scope = .ok (.str text))
    (hfound : p.allMatches text.toList = .ok found) (hchained : Chained text.toList 0 found) :
    evaluate registry (.arr [.str "$stringReplace", pattern, replacement, subject]) scope =
      ((found.map fun c => c.whole.textIn text.toList).mapM
        (outputFor registry scope replacement)).map fun outputs =>
          .str (Pattern.fillIn text.toList 0 (found.map Captures.whole) outputs) := by
  rw [evaluate_call hop, call_stringReplace (c := registry.context scope) _ hpattern hp hsubject,
    Pattern.replaceWith_of_allMatches hfound hchained, evaluated_eq, Pattern.callEach_of_stateless]
  cases (found.map fun c => c.whole.textIn text.toList).mapM
    (outputFor registry scope replacement) <;> rfl

/-- The places that are replaced in a text, in order, and what stands there: the matches, all of
them if the pattern is global and at most the first one if not. -/
structure Replaced (p : Pattern) (text : String) (ranges : List Span) (texts : List String) :
    Prop where
  /-- The places are those of the matches. -/
  found : ∃ found, p.allMatches text.toList = .ok found ∧ Chained text.toList 0 found ∧
    ranges = found.map Captures.whole
  /-- The texts are those in the places. -/
  texts_eq : texts = ranges.map (Span.textIn text.toList)
  /-- A global pattern finds these texts. -/
  isGlobal : p.flags.isGlobal = true → p.matchIn text = .ok (texts.map .str)
  /-- Any other one finds no more than one. -/
  not_isGlobal : p.flags.isGlobal = false → texts.length ≤ 1

/-- A result is the text with the outputs for what stands in its places, or the first failure among
them. -/
structure FillsIn (output : String → Except EvalError String) (text : String)
    (ranges : List Span) (texts : List String) (result : Except EvalError Json) : Prop where
  /-- There is an output for each place. -/
  ok : ∀ outputs, List.Forall₂ (fun matched given => output matched = .ok given) texts outputs →
    result = .ok (.str (Pattern.fillIn text.toList 0 ranges outputs))
  /-- There is none for one of them, and there are outputs for all before it. -/
  error : ∀ before matched after e, texts = before ++ matched :: after →
    (∀ earlier ∈ before, ∃ given, output earlier = .ok given) → output matched = .error e →
      result = .error e

/-- What paths find inside a scope, where scopes are opened for texts: they lead outwards one level
for each, to the scope itself and further. -/
structure LeadsOutward (scope : Scope) : Prop where
  /-- The parent of a scope that is opened is the scope. -/
  parent : ∀ matched path,
    (scope.child (.str matched)).resolve (parentName ++ "." ++ path) = scope.resolve path
  /-- So it is for scopes that are opened one in the other. -/
  outward : ∀ (around : List String) (levels : Nat), levels ≤ around.length → ∀ path,
    (scope.within around).resolve (Scope.outwardPath levels path) =
      (scope.within (around.drop levels)).resolve path
  /-- The current value at a level is the text that the scope was opened for, and further out it is
  that of the scope itself. -/
  current : ∀ (around : List String) (levels : Nat), levels ≤ around.length →
    (scope.within around).resolve (Scope.outwardPath levels valueName) =
      if levels < around.length then (around[levels]?).map .str else scope.value?

lemma leadsOutward (scope : Scope) : LeadsOutward scope where
  parent matched path := Scope.resolve_child_outward scope (.str matched) path
  outward around levels hle := Scope.resolve_within_outward scope around hle
  current around levels hle := by
    rw [Scope.resolve_within_outward scope around hle, Scope.resolve_valueName,
      Scope.value?_within_drop]

/-- Replacing takes the texts of the matches and puts in place of each what the replacement comes to
for it; the first failure is the failure of the whole. The replacement is not evaluated if there is
no match: in any context in which the pattern and the string have their values the result is the
string. Inside the replacement paths lead outwards, through those around it, to the scope of the
expression and further. -/
theorem evaluate_stringReplace {engine : Engine} {registry : Registry} {scope : Scope}
    {pattern subject candidate : Json} {text : String} {p : Pattern} (replacement : Json)
    (hop : registry.get? "$stringReplace" = some (stringReplace engine))
    (hpattern : evaluate registry pattern scope = .ok candidate)
    (hp : Pattern.normalize engine candidate = .ok p)
    (hsubject : evaluate registry subject scope = .ok (.str text))
    (hbehaved : p.matcher.WellBehaved text.toList)
    (hsearch : ∀ position, p.Searched text.toList position →
      ∃ found, p.matcher.find position = .ok found) :
    (∃ ranges texts, Replaced p text ranges texts ∧
      FillsIn (outputFor registry scope replacement) text ranges texts
        (evaluate registry (.arr [.str "$stringReplace", pattern, replacement, subject]) scope) ∧
      (texts = [] → ∀ c : Context, c.value pattern = .ok candidate →
        c.value subject = .ok (.str text) →
          (stringReplace engine).call c [pattern, replacement, subject] = .ok (.str text))) ∧
    LeadsOutward scope := by
  refine ⟨?_, leadsOutward scope⟩
  obtain ⟨found, hfound, hchained, -, hmatch, hfirst, -⟩ :=
    (Pattern.replaceWith_eq p text hbehaved (evaluated (registry.context scope) replacement)
      ()).2 hsearch
  have hall :=
    evaluate_stringReplace_of_found replacement hop hpattern hp hsubject hfound hchained
  have htexts : (found.map fun c => c.whole.textIn text.toList) =
      (found.map Captures.whole).map (Span.textIn text.toList) := by
    rw [List.map_map]
    rfl
  refine ⟨found.map Captures.whole, found.map fun c => c.whole.textIn text.toList,
    ⟨⟨found, hfound, hchained, rfl⟩, htexts, ?_, ?_⟩, ⟨?_, ?_⟩, ?_⟩
  · intro hglobal
    rw [hmatch hglobal, List.map_map]
    rfl
  · intro hglobal
    obtain ⟨first, -, rfl⟩ := hfirst hglobal
    cases first <;> simp
  · intro outputs houtputs
    rw [hall, mapM_eq_ok_of_forall₂ houtputs]
    rfl
  · intro before matched after e htexts hbefore hmatched
    rw [hall, htexts, mapM_eq_error_of_first hbefore hmatched]
    rfl
  · intro hnone c hpattern hsubject
    obtain rfl := List.map_eq_nil_iff.mp hnone
    rw [call_stringReplace _ hpattern hp hsubject,
      Pattern.replaceWith_of_allMatches hfound hchained]
    simp only [List.map_nil, Pattern.callEach, Prod.map, Except.map, Pattern.fillIn,
      between_zero_byteLength, String.ofList_toList]

/-- Each `an` in `banana` is replaced by itself with a mark put after its `n`, which the inner
replacement finds two levels further out. -/
theorem evaluate_stringReplace_banana :
    let registry := PatternOp.withBuiltins PlainText.engine
    let scope := Scope.empty.bind "$$mark" (.str "*")
    let p : Pattern := ⟨"literal", "an", { isGlobal := true }, PlainText.matcher ['a', 'n']⟩
    let mark : Json := .arr [.str "$stringConcat", .arr [.str "$value",
      .str (Scope.outwardPath 2 "$$mark")]]
    let replacement : Json := .arr [.str "$stringReplace", .str "n", mark]
    let whole : Json := .arr [.str "$stringReplace", .arr [.str "an", .str "g"], replacement,
      .str "banana"]
    registry.get? "$stringReplace" = some (stringReplace PlainText.engine) ∧
      Pattern.normalize PlainText.engine (.arr [.str "an", .str "g"]) = .ok p ∧
      p.matcher.WellBehaved "banana".toList ∧
      (∃ ranges texts, p.matchIn "banana" = .ok (texts.map .str) ∧
        FillsIn (outputFor registry scope replacement) "banana" ranges texts
          (evaluate registry whole scope)) ∧
      evaluate registry whole scope = .ok (.str "ban*an*a") := by
  intro registry scope p mark replacement whole
  have hbehaved : p.matcher.WellBehaved "banana".toList :=
    (PlainText.findsLeftmost ['a', 'n'] "banana".toList).wellBehaved
  have hpattern : evaluate registry (.arr [.str "an", .str "g"]) scope =
      .ok (.arr [.str "an", .str "g"]) := evaluate_of_get?_eq_none rfl _ scope
  have hsubject : evaluate registry (.str "banana") scope = .ok (.str "banana") := by
    rw [evaluate_eq]
    rfl
  obtain ⟨⟨ranges, texts, hreplaced, hfills, -⟩, -⟩ :=
    @evaluate_stringReplace PlainText.engine registry scope (.arr [.str "an", .str "g"])
      (.str "banana") (.arr [.str "an", .str "g"]) "banana" p replacement rfl hpattern rfl hsubject
      hbehaved fun _ _ => ⟨_, rfl⟩
  have hvalue : evaluate registry whole scope = .ok (.str "ban*an*a") :=
    evaluate_of_text 5 (by simp) (by decide +kernel)
  exact ⟨rfl, rfl, hbehaved, ⟨ranges, texts, hreplaced.isGlobal rfl, hfills⟩, hvalue⟩

end PatternOp

end TextExpr
