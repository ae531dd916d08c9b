import TextExpr.Proofs.Dispatch
import TextExpr.Proofs.EngineContract
import TextExpr.Proofs.Shared.Agreement

/-!
# One engine in place of the other

Both engines are given the same source, which each reads in a language of its own. A pattern in the
syntax that the languages share is left to the linear engine as a whole by the backtracking one, so
the two have the same matcher; whatever is written over matchers then comes to the same, up to the
values of expressions in which all patterns are of this kind.
-/

namespace TextExpr

/-! ## Matchers -/

namespace Shared

open Linear (Regex)
open Backtrack (Tree)

mutual

/-- A tree that stands for an expression needs no backtracking. -/
theorem isHard_of_denotes {first next : Nat} {e : Regex} : (tree : Tree) →
    Denotes first tree e next → (tree.shape []).isHard = false
  | .empty, _ | .any _, _ | .literal .., _ | .chars .., _ => rfl
  | .assertion condition, h => by
    have hmem := h.1
    simp only [writtenConditions, List.mem_cons, List.not_mem_nil, or_false] at hmem
    rcases hmem with rfl | rfl | rfl | rfl <;> rfl
  | .concat parts, h => by
    obtain ⟨es, hall, -, -⟩ := h
    exact (isHard_of_denotesAll parts hall).1
  | .alt branches, h => by
    obtain ⟨es, hall, -, -⟩ := h
    exact (isHard_of_denotesAll branches hall).2
  | .group index body, h => by
    obtain ⟨inner, hbody, -⟩ := h
    simp [Tree.shape, isHard_of_denotes body hbody]
  | .rep least most greedy body, h => by
    obtain ⟨inner, hbody, -, -⟩ := h
    simp [Tree.shape, Backtrack.Tree.Shape.repeated, isHard_of_denotes body hbody]

/-- Nor do trees one after the other or instead of each other. -/
theorem isHard_of_denotesAll {first next : Nat} {es : List Regex} : (trees : List Tree) →
    DenotesAll first trees es next →
      (Tree.concatShape [] trees).isHard = false ∧ (Tree.altShape [] trees).isHard = false
  | [], _ => ⟨rfl, rfl⟩
  | tree :: trees, h => by
    obtain ⟨e, mid, later, htree, hall, -⟩ := h
    have hhead := isHard_of_denotes tree htree
    obtain ⟨hconcat, halt⟩ := isHard_of_denotesAll trees hall
    constructor
    · simp [Tree.concatShape, Backtrack.Tree.Shape.andThen, hhead, hconcat]
    · cases trees with
      | nil => exact hhead
      | cons tree' trees => simp [Tree.altShape, Backtrack.Tree.Shape.orElse, hhead, halt]

end

lemma program?_eq_some {pattern : List Char} {p : Linear.Program}
    (h : Linear.program? pattern = some p) :
    ∃ e, Regex.ofPattern pattern = .ok e ∧ p = e.program := by
  unfold Linear.program? at h
  split at h
  · simp at h
  · next e he =>
    split at h
    · exact ⟨e, he, (Option.some.inj h).symm⟩
    · simp at h

/-- The engines compile a pattern of the shared syntax to the same matcher. -/
theorem matcher_eq {pattern : String} {p : Linear.Program} {m : Matcher}
    (hshared : IsShared pattern) (hlinear : Linear.program? pattern.toList = some p)
    (hbacktrack : Backtrack.matcher pattern = .ok m) : m = Linear.matcher p := by
  obtain ⟨items, hfits, htext⟩ := hshared
  obtain ⟨e, he, rfl⟩ := program?_eq_some hlinear
  obtain ⟨parsed, hparsed, hm⟩ := bind_eq_ok.mp hbacktrack
  have hread := hparsed
  rw [Backtrack.Parsed.ofPattern] at hread
  simp only [htext] at hread
  rw [htext] at he
  -- both readers go through the items side by side
  obtain ⟨hreferences, next, hdenotes⟩ : parsed.references = [] ∧
      ∃ next, Denotes 0 parsed.tree e next :=
    denotes_of_agrees items (Agrees.start pattern.utf8ByteSize) hfits ⟨_, he⟩ ⟨_, hread⟩
  rw [hreferences, isHard_of_denotes _ hdenotes] at hm
  simp only [Bool.false_eq_true, if_false] at hm
  split at hm
  · next p' hwritten =>
    obtain ⟨e', he', rfl⟩ := program?_eq_some hwritten
    rw [ofPattern_written hdenotes he'] at hm
    exact (pure_eq_ok.mp hm).symm
  · exact (throw_eq_ok.mp hm).elim

end Shared

/-! ## Patterns -/

namespace Pattern

/-- Two patterns come to the same, whatever they are used for. -/
structure SameResults (p q : Pattern) : Prop where
  /-- They have the same source. -/
  source : q.source = p.source
  /-- They have the same flags. -/
  flags : q.flags = p.flags
  /-- The same texts are cut out. -/
  matchIn : ∀ text, q.matchIn text = p.matchIn text
  /-- The same texts match. -/
  test : ∀ text, q.test text = p.test text
  /-- Texts are split alike. -/
  split : ∀ text, q.split text = p.split text
  /-- Matches are replaced alike, with the same calls of the replacement. -/
  replaceWith : ∀ {σ : Type} (text : String) (replacement : Replacement σ) (state : σ),
    q.replaceWith text replacement state = p.replaceWith text replacement state

/-- Two patterns come to the same on every text. -/
structure SameOnTexts (p q : Pattern) : Prop where
  /-- The same matches are found. -/
  allMatches : ∀ text, q.allMatches text = p.allMatches text
  /-- The same texts are cut out. -/
  matchIn : ∀ text, q.matchIn text = p.matchIn text
  /-- The same texts match. -/
  test : ∀ text, q.test text = p.test text
  /-- Texts are split alike. -/
  split : ∀ text, q.split text = p.split text
  /-- Matches are replaced alike, with the same calls of the replacement. -/
  replaceWith : ∀ {σ : Type} (text : String) (replacement : Replacement σ) (state : σ),
    q.replaceWith text replacement state = p.replaceWith text replacement state

section

variable {p q : Pattern}

lemma searchAt_congr (hsticky : q.flags.sticky = p.flags.sticky) (hmatcher : q.matcher = p.matcher)
    (position : Cursor) : q.searchAt position = p.searchAt position := by
  rw [searchAt, searchAt, hsticky, hmatcher]

lemma matchesFrom_congr (hglobal : q.flags.isGlobal = p.flags.isGlobal)
    (hsticky : q.flags.sticky = p.flags.sticky) (hmatcher : q.matcher = p.matcher) (fuel : Nat)
    (position : Option Cursor) : q.matchesFrom fuel position = p.matchesFrom fuel position := by
  induction fuel generalizing position with
  | zero => cases position <;> rfl
  | succ fuel ih =>
    cases position with
    | none => rfl
    | some position => simp only [matchesFrom, searchAt_congr hsticky hmatcher, hglobal, ih]

lemma fragmentsFrom_congr (hmatcher : q.matcher = p.matcher) (fuel : Nat)
    (last position : Cursor) :
    q.fragmentsFrom fuel last position = p.fragmentsFrom fuel last position := by
  induction fuel generalizing last position with
  | zero => rfl
  | succ fuel ih => simp only [fragmentsFrom, hmatcher, ih]

lemma split_congr (hmatcher : q.matcher = p.matcher) (text : String) :
    q.split text = p.split text := by
  simp only [split, hmatcher, fragmentsFrom_congr hmatcher]

lemma test_congr (hsticky : q.flags.sticky = p.flags.sticky) (hmatcher : q.matcher = p.matcher)
    (text : String) : q.test text = p.test text := by
  rw [test, test, searchAt_congr hsticky hmatcher, hsticky, hmatcher]

/-- What a pattern comes to on a text depends on its matcher and on two of its flags. -/
lemma sameOnTexts_of_matcher (hglobal : q.flags.isGlobal = p.flags.isGlobal)
    (hsticky : q.flags.sticky = p.flags.sticky) (hmatcher : q.matcher = p.matcher) :
    p.SameOnTexts q := by
  have hall : ∀ text, q.allMatches text = p.allMatches text :=
    fun text => matchesFrom_congr hglobal hsticky hmatcher _ _
  refine ⟨hall, fun text => ?_, test_congr hsticky hmatcher, split_congr hmatcher, ?_⟩
  · rw [matchIn, matchIn, hall, hglobal]
  · intro σ text replacement state
    simp only [replaceWith, hall]

/-- All that is done with a pattern depends on its flags and its matcher. -/
lemma sameResults_of_matcher (hsource : q.source = p.source) (hflags : q.flags = p.flags)
    (hmatcher : q.matcher = p.matcher) : p.SameResults q := by
  have hsame := sameOnTexts_of_matcher (congrArg Flags.isGlobal hflags)
    (congrArg Flags.sticky hflags) hmatcher
  exact ⟨hsource, hflags, hsame.matchIn, hsame.test, hsame.split, hsame.replaceWith⟩

end

/-- The engines make the same matcher of a value whose pattern is one of the shared syntax. -/
lemma matcher_eq_of_isShared {value : Json} {p q : Pattern}
    (hp : normalize linearEngine value = .ok p) (hq : normalize backtrackingEngine value = .ok q)
    (hshared : Shared.IsShared (p.flags.apply p.source)) :
    ∃ program, p.matcher = Linear.matcher program ∧ q.matcher = Linear.matcher program := by
  obtain ⟨hsource, hflags⟩ := eq_of_normalize hp hq
  have hlinear := compile_of_normalize hp
  have hbacktrack := compile_of_normalize hq
  rw [hsource, hflags] at hbacktrack
  simp only [linearEngine] at hlinear
  simp only [backtrackingEngine] at hbacktrack
  split at hlinear
  · next program hprogram =>
    split at hbacktrack
    · next m hm =>
      obtain rfl := Except.ok.inj hbacktrack
      exact ⟨program, (Except.ok.inj hlinear).symm, Shared.matcher_eq hshared hprogram hm⟩
    · simp at hbacktrack
  · simp at hlinear

end Pattern

/-! ## Expressions -/

/-- Both engines reject a value for the same reason, or both take it for a pattern of the syntax
that the languages share. -/
def IsInterchangeable (value : Json) : Prop :=
  (∃ e, Pattern.normalize linearEngine value = .error e ∧
    Pattern.normalize backtrackingEngine value = .error e) ∨
  ∃ p q, Pattern.normalize linearEngine value = .ok p ∧
    Pattern.normalize backtrackingEngine value = .ok q ∧
    Shared.IsShared (p.flags.apply p.source)

/-- The names of the operations by patterns. -/
def PatternOp.names : List String := (PatternOp.all linearEngine).map (·.name)

/-- The patterns that are written in an expression: the first arguments of the calls of operations
by patterns. -/
def Json.patterns (expr : Json) : List Json :=
  (expr.calls.filter fun call => PatternOp.names.contains call.1).filterMap (·.2.head?)

lemma IsInterchangeable.bind_eq {value : Json} (h : IsInterchangeable value) {α : Type}
    {f : Pattern → Except EvalError α} (hf : ∀ p q : Pattern, p.SameResults q → f p = f q) :
    (do f (← Pattern.normalize linearEngine value)) =
      (do f (← Pattern.normalize backtrackingEngine value)) := by
  obtain ⟨e, hp, hq⟩ | ⟨p, q, hp, hq, hshared⟩ := h
  · rw [hp, hq]
  · obtain ⟨program, hpm, hqm⟩ := Pattern.matcher_eq_of_isShared hp hq hshared
    obtain ⟨hsource, hflags⟩ := Pattern.eq_of_normalize hp hq
    rw [hp, hq]
    exact hf p q (Pattern.sameResults_of_matcher hsource hflags (hqm.trans hpm.symm))

/-- What is found in a registry of some interpreters is one of them. -/
lemma Registry.mem_of_get?_ofList {l : List Interpreter} {name : String} {i : Interpreter}
    (h : (ofList l).get? name = some i) : i ∈ l := by
  have hfound : ∀ r : Registry, (l.foldl register r).get? name = some i →
      i ∈ l ∨ r.get? name = some i := by
    clear h
    induction l with
    | nil => exact fun r => Or.inr
    | cons j rest ih =>
      intro r hr
      rcases ih (r.register j) hr with hmem | hlast
      · exact Or.inl (List.mem_cons_of_mem j hmem)
      · rw [get?_register] at hlast
        split at hlast
        · exact Or.inl (Option.some.inj hlast ▸ List.mem_cons_self)
        · exact Or.inr hlast
  rcases hfound .empty h with hmem | hempty
  · exact hmem
  · simp [get?, find?, empty] at hempty

namespace PatternOp

variable {c : Context} {args : List Json}

/-- The first argument of a call is bound to its value. -/
lemma bindArgs_head {name : String} {param : Param} {params : List Param}
    {bound : Bound (.any :: param :: params)}
    (h : bindArgs c name (.any :: param :: params) args = .ok bound) :
    ∃ arg value later, args.head? = some arg ∧ c.value arg = .ok value ∧
      bound = Bound.cons value later := by
  unfold bindArgs at h
  split at h
  · simp at h
  · next harity =>
    cases args with
    | nil => simp at harity
    | cons arg args =>
      rw [bindEach_cons] at h
      obtain ⟨value, hvalue, hlater⟩ := bind_eq_ok.mp h
      obtain ⟨later, -, hbound⟩ := bind_eq_ok.mp hlater
      exact ⟨arg, value, later, rfl, hvalue, (Except.ok.inj hbound).symm⟩

/-- The pattern of a call is interchangeable. -/
def HasInterchangeable (c : Context) (args : List Json) : Prop :=
  ∀ arg ∈ args.head?, ∀ value, c.value arg = .ok value → IsInterchangeable value

lemma call_onPattern_swap (h : HasInterchangeable c args) (name : String)
    {f : Pattern → String → Except EvalError Json}
    (hf : ∀ p q : Pattern, p.SameResults q → f p = f q) :
    (onPattern linearEngine name f).call c args =
      (onPattern backtrackingEngine name f).call c args := by
  show (bindArgs c name [.any, .typed [.string]] args >>= _) =
    (bindArgs c name [.any, .typed [.string]] args >>= _)
  cases hbind : bindArgs c name [.any, .typed [.string]] args with
  | error e => rfl
  | ok bound =>
    obtain ⟨arg, value, later, harg, hvalue, rfl⟩ := bindArgs_head hbind
    exact (h arg harg value hvalue).bind_eq fun p q hpq => congrFun (hf p q hpq) _

lemma call_stringReplace_swap (h : HasInterchangeable c args) :
    (stringReplace linearEngine).call c args = (stringReplace backtrackingEngine).call c args := by
  show (bindArgs c "$stringReplace" [.any, .raw, .typed [.string]] args >>= _) =
    (bindArgs c "$stringReplace" [.any, .raw, .typed [.string]] args >>= _)
  cases hbind : bindArgs c "$stringReplace" [.any, .raw, .typed [.string]] args with
  | error e => rfl
  | ok bound =>
    obtain ⟨arg, value, later, harg, hvalue, rfl⟩ := bindArgs_head hbind
    refine (h arg harg value hvalue).bind_eq fun p q hpq => ?_
    rw [hpq.replaceWith]

/-- The operations are registered in place of any built-in interpreters of their names. -/
lemma get?_withBuiltins (engine : Engine) (name : String) :
    (withBuiltins engine).get? name =
      if "$stringTest" = name then some (stringTest engine)
      else if "$stringSplit" = name then some (stringSplit engine)
      else if "$stringReplace" = name then some (stringReplace engine)
      else if "$stringMatch" = name then some (stringMatch engine)
      else Builtin.registry.get? name := by
  have hops : (registry engine).interpreters =
      [stringMatch engine, stringReplace engine, stringSplit engine, stringTest engine] := by
    simp only [registry, all, Registry.ofList, List.foldl, Registry.register, Registry.insert,
      Registry.empty, stringMatch, stringReplace, stringSplit, stringTest, onPattern,
      String.reduceEq, String.reduceLT, if_true, if_false]
  simp only [withBuiltins, Registry.extend, hops, List.foldl, Registry.get?_register]
  rfl

/-- The registries of the engines answer a call alike, unless it is one of an operation whose
pattern is not interchangeable. -/
lemma answersAlike_withBuiltins {name : String} {args : List Json}
    (h : name ∈ names → ∀ scope, HasInterchangeable ((withBuiltins linearEngine).context scope)
      args) :
    Registry.AnswersAlike (withBuiltins linearEngine) (withBuiltins backtrackingEngine) name
      args := by
  -- an operation takes the other engine first and the other registry then
  have hop {i i' : Interpreter} (hi : (withBuiltins linearEngine).get? name = some i)
      (hi' : (withBuiltins backtrackingEngine).get? name = some i')
      (hmem : i' ∈ Builtin.all ++ all backtrackingEngine)
      (hswap : ∀ scope, i.call ((withBuiltins linearEngine).context scope) args =
        i'.call ((withBuiltins linearEngine).context scope) args) :
      Registry.AnswersAlike (withBuiltins linearEngine) (withBuiltins backtrackingEngine) name
        args :=
    .call hi hi' fun hargs scope => (hswap scope).trans
      (Registry.call_context_eq (asksForArguments_of_mem hmem) hargs scope)
  by_cases htest : "$stringTest" = name
  · subst htest
    refine hop rfl rfl (by simp [all]) fun scope =>
      call_onPattern_swap (h (by decide) scope) _ fun p q hpq => funext fun text => ?_
    rw [hpq.test]
  by_cases hsplit : "$stringSplit" = name
  · subst hsplit
    refine hop rfl rfl (by simp [all]) fun scope =>
      call_onPattern_swap (h (by decide) scope) _ fun p q hpq => funext fun text => ?_
    rw [hpq.split]
  by_cases hreplace : "$stringReplace" = name
  · subst hreplace
    exact hop rfl rfl (by simp [all]) fun scope => call_stringReplace_swap (h (by decide) scope)
  by_cases hmatch : "$stringMatch" = name
  · subst hmatch
    refine hop rfl rfl (by simp [all]) fun scope =>
      call_onPattern_swap (h (by decide) scope) _ fun p q hpq => funext fun text => ?_
    rw [hpq.matchIn]
  have hbuiltin (engine : Engine) :
      (withBuiltins engine).get? name = Builtin.registry.get? name := by
    rw [get?_withBuiltins, if_neg htest, if_neg hsplit, if_neg hreplace, if_neg hmatch]
  cases hfound : Builtin.registry.get? name with
  | none => exact .literal ((hbuiltin _).trans hfound) ((hbuiltin _).trans hfound)
  | some i =>
    have hmem := List.mem_append_left (all backtrackingEngine) (Registry.mem_of_get?_ofList hfound)
    exact hop ((hbuiltin _).trans hfound) ((hbuiltin _).trans hfound) hmem fun _ => rfl

/-- An expression has the same value with either engine if all patterns in it are
interchangeable. -/
lemma evaluate_withBuiltins_eq {expr : Json}
    (h : ∀ pattern ∈ expr.patterns, ∀ scope value,
      evaluate (withBuiltins linearEngine) pattern scope = .ok value → IsInterchangeable value) :
    evaluate (withBuiltins linearEngine) expr =
      evaluate (withBuiltins backtrackingEngine) expr := by
  refine evaluate_eq_of_answers expr fun call hcall => answersAlike_withBuiltins fun hname => ?_
  intro scope pattern hhead value hvalue
  have hpattern : pattern ∈ expr.patterns := by
    refine List.mem_filterMap.mpr ⟨call, List.mem_filter.mpr ⟨hcall, ?_⟩, hhead⟩
    exact List.contains_iff_mem.mpr hname
  exact h pattern hpattern scope value hvalue

end PatternOp

open PatternOp

/-- The engines cannot be told apart by a pattern that both of them accept if it is written, with
its flags, in the syntax that their languages share: it gives the same results for every text and
every replacement, and no search fails. Nor can they by an expression, in any scope, if every
value that is looked at as a pattern in it is rejected by both for the same reason or is such a
pattern. -/
theorem sameResults_of_isShared {value : Json} {p q : Pattern}
    (hp : Pattern.normalize linearEngine value = .ok p)
    (hq : Pattern.normalize backtrackingEngine value = .ok q)
    (hshared : Shared.IsShared (p.flags.apply p.source)) :
    p.SameResults q ∧ (∀ position, ∃ found, q.matcher.find position = .ok found) ∧
    ∀ expr : Json, (∀ pattern ∈ expr.patterns, ∀ scope given,
        evaluate (withBuiltins linearEngine) pattern scope = .ok given → IsInterchangeable given) →
      ∀ scope, evaluate (withBuiltins linearEngine) expr scope =
        evaluate (withBuiltins backtrackingEngine) expr scope := by
  obtain ⟨program, hpm, hqm⟩ := Pattern.matcher_eq_of_isShared hp hq hshared
  obtain ⟨hsource, hflags⟩ := Pattern.eq_of_normalize hp hq
  refine ⟨Pattern.sameResults_of_matcher hsource hflags (hqm.trans hpm.symm), ?_, ?_⟩
  · rw [hqm]
    exact fun position => ⟨_, rfl⟩
  · exact fun expr hexpr scope => congrFun (evaluate_withBuiltins_eq hexpr) scope

/-- The items of `(?m)^([a-z-]+?)(?:b|,){1,2}$`. -/
def lineItems : List Shared.Item := [
  .switch (Shared.oneFlag 'm' (.tail _ (.head _))),
  .atom .caret none,
  .opening .capture,
  .atom (.charClass ⟨false, false, .range (.plain 'a' rfl) (.plain 'z' rfl), [], true⟩)
    (some ⟨.plus, true⟩),
  .closing none,
  .opening (.flags Shared.noFlag),
  .atom (.plain 'b' rfl) none,
  .bar,
  .atom (.plain ',' rfl) none,
  .closing (some ⟨.between (.ofNat 1) (.ofNat 2), false⟩),
  .atom .dollar none]

lemma fits_lineItems : Shared.Fits {} [] lineItems := by
  simp [lineItems, Shared.Fits, Shared.Atom.Fits, Shared.Opening.inner, Shared.Opening.isCapture]

/-- A pattern with a flag, a capture group, a class with a hyphen, branches and repetitions. -/
theorem sameResults_of_isShared_lines :
    let value : Json := .arr [.str "^([a-z-]+?)(?:b|,){1,2}$", .str "gm"]
    let expr : Json := .arr [.str "$stringReplace", value, .arr [.str "$stringToUpperCase"]]
    let scope := Scope.withValue (.str "ab\nc-d,b;\nx,,")
    ∃ p q, Pattern.normalize linearEngine value = .ok p ∧
      Pattern.normalize backtrackingEngine value = .ok q ∧
      Shared.IsShared (p.flags.apply p.source) ∧ p.SameResults q ∧
      evaluate (withBuiltins linearEngine) expr scope =
        evaluate (withBuiltins backtrackingEngine) expr scope ∧
      (evaluate (withBuiltins linearEngine) expr scope).toOption.map Json.text =
        some "AB\nc-d,b;\nX,," := by
  intro value expr scope
  have hlinear : ((Pattern.normalize linearEngine value).toOption.any fun p =>
      (p.flags.apply p.source).toList = Shared.text lineItems) = true := by decide +kernel
  have hbacktrack : (Pattern.normalize backtrackingEngine value).toOption.isSome = true := by
    decide +kernel
  obtain ⟨p, hp, hsource⟩ := (Option.any_eq_true _ _).mp hlinear
  obtain ⟨q, hq⟩ := Option.isSome_iff_exists.mp hbacktrack
  have hshared : Shared.IsShared (p.flags.apply p.source) :=
    ⟨lineItems, fits_lineItems, of_decide_eq_true hsource⟩
  have hp := eq_ok_of_toOption hp
  have hq := eq_ok_of_toOption hq
  obtain ⟨hsame, -, hexpr⟩ := sameResults_of_isShared hp hq hshared
  have hvalue : evaluate (withBuiltins linearEngine) expr scope =
      .ok (.str "AB\nc-d,b;\nX,,") := evaluate_of_text 2 (by simp) (by decide +kernel)
  refine ⟨p, q, hp, hq, hshared, hsame, hexpr expr ?_ scope, by rw [hvalue]; rfl⟩
  intro pattern hpattern scope given hgiven
  have hpatterns : expr.patterns = [value] := rfl
  rw [hpatterns, List.mem_singleton] at hpattern
  subst hpattern
  have hliteral : evaluate (withBuiltins linearEngine) value scope = .ok value :=
    evaluate_of_get?_eq_none rfl _ scope
  obtain rfl := Except.ok.inj (hliteral.symm.trans hgiven)
  exact .inr ⟨p, q, hp, hq, hshared⟩

lemma ok_of_texts {result : Except EvalError (List Json)} {texts : List String}
    (h : result.toOption.map (·.map Json.text) = some texts) (hne : "" ∉ texts) :
    result = .ok (texts.map .str) := by
  obtain ⟨values, hvalues, rfl⟩ := Option.map_eq_some_iff.mp h
  have hstrings : ∀ value ∈ values, Json.str value.text = value := by
    intro value hvalue
    have htext : value.text ≠ "" := fun heq => hne (heq ▸ List.mem_map_of_mem hvalue)
    cases value <;> first | rfl | exact absurd rfl htext
  rw [eq_ok_of_toOption hvalues, List.map_map]
  exact congrArg Except.ok ((List.map_congr_left hstrings).trans (List.map_id _)).symm

/-- A test of the current value. -/
lemma evaluate_stringTest {engine : Engine} {pattern candidate : Json} {text : String}
    {p : Pattern}
    (hpattern : evaluate (withBuiltins engine) pattern (.withValue (.str text)) = .ok candidate)
    (hp : Pattern.normalize engine candidate = .ok p) :
    evaluate (withBuiltins engine) (.arr [.str "$stringTest", pattern]) (.withValue (.str text)) =
      (p.test text).map .bool := by
  have hop : (withBuiltins engine).get? "$stringTest" = some (stringTest engine) := by
    rw [get?_withBuiltins, if_pos rfl]
  rw [evaluate_call hop]
  show ((evaluate (withBuiltins engine) pattern (.withValue (.str text)) >>= _) >>= _) = _
  rw [hpattern]
  show (Pattern.normalize engine candidate >>= _) = _
  rw [hp]
  rfl

/-- A repetition of a repetition to one engine is a repetition that gives nothing back to the
other. -/
theorem not_sameResults_of_normalize :
    ∃ p q, Pattern.normalize linearEngine (.str "a++a") = .ok p ∧
      Pattern.normalize backtrackingEngine (.str "a++a") = .ok q ∧
      p.matchIn "aa" = .ok [.str "aa"] ∧ q.matchIn "aa" = .ok [] ∧
      p.test "aa" = .ok true ∧ q.test "aa" = .ok false ∧ ¬p.SameResults q ∧
      evaluate (withBuiltins linearEngine) (.arr [.str "$stringTest", .str "a++a"])
        (.withValue (.str "aa")) ≠
      evaluate (withBuiltins backtrackingEngine) (.arr [.str "$stringTest", .str "a++a"])
        (.withValue (.str "aa")) := by
  have hlinear : ((Pattern.normalize linearEngine (.str "a++a")).toOption.any fun p =>
      (p.matchIn "aa").toOption.map (·.map Json.text) = some ["aa"] ∧
        (p.test "aa").toOption = some true) = true := by decide +kernel
  have hbacktrack : ((Pattern.normalize backtrackingEngine (.str "a++a")).toOption.any fun q =>
      (q.matchIn "aa").toOption.map (·.map Json.text) = some [] ∧
        (q.test "aa").toOption = some false) = true := by decide +kernel
  obtain ⟨p, hp, hfound⟩ := (Option.any_eq_true _ _).mp hlinear
  obtain ⟨q, hq, hnone⟩ := (Option.any_eq_true _ _).mp hbacktrack
  obtain ⟨htexts, htest⟩ := of_decide_eq_true hfound
  obtain ⟨htexts', htest'⟩ := of_decide_eq_true hnone
  have hp := eq_ok_of_toOption hp
  have hq := eq_ok_of_toOption hq
  have htest := eq_ok_of_toOption htest
  have htest' := eq_ok_of_toOption htest'
  refine ⟨p, q, hp, hq, ok_of_texts htexts (by simp), ok_of_texts htexts' (by simp), htest, htest',
    fun hsame => ?_, ?_⟩
  · simpa [htest, htest'] using hsame.test "aa"
  · have hpattern (registry : Registry) (scope : Scope) :
        evaluate registry (.str "a++a") scope = .ok (.str "a++a") := by
      rw [evaluate_eq]
      rfl
    rw [evaluate_stringTest (hpattern _ _) hp, evaluate_stringTest (hpattern _ _) hq, htest, htest']
    simp [Except.map]

end TextExpr
