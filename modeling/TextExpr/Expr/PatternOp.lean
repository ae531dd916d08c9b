import TextExpr.Expr.Builtin
import TextExpr.Pattern.Basic

/-!
# Pattern operations

Interpreters that match, test, replace and split strings by patterns of one engine. The pattern
comes first; the string comes last and defaults to the current value.
-/

namespace TextExpr

namespace PatternOp

/-- An interpreter that applies a pattern to a string. -/
def onPattern (engine : Engine) (name : String)
    (f : Pattern → String → Except EvalError Json) : Interpreter where
  name := name
  call c args := do
    let bound ← bindArgs c name [.any, .typed [.string]] args
    let pattern ← Pattern.normalize engine bound[0]
    f pattern bound[1].text
  call_approximates args h := (bindArgs_approximates h _ _ args).bind fun _ => .refl _

/-- `["$stringMatch", pattern, value]`: the matched texts. -/
def stringMatch (engine : Engine) : Interpreter :=
  onPattern engine "$stringMatch" fun pattern subject => (pattern.matchIn subject).map .arr

/-- `["$stringTest", pattern, value]`: whether there is a match. -/
def stringTest (engine : Engine) : Interpreter :=
  onPattern engine "$stringTest" fun pattern subject => (pattern.test subject).map .bool

/-- `["$stringSplit", pattern, value]`: the fragments between matches. -/
def stringSplit (engine : Engine) : Interpreter :=
  onPattern engine "$stringSplit" fun pattern subject => (pattern.split subject).map .arr

/-- The replacement for a match: the value of an expression, which has to be a string, in a scope
inside that of the call whose current value is the text of the match. -/
def evaluated (c : Context) (replacement : Json) : Pattern.Replacement Unit :=
  fun matched _ =>
    let output := do
      let value ← evaluateAs .string (c.withScope (c.scope.child (.str matched))) replacement
      return value.text
    (output, ())

/-! ### Replacements that remember nothing -/

section

open Pattern

variable {r r' : Replacement Unit}

theorem splice_cons (r : Replacement Unit) (position : Cursor) (captures : Captures)
    (later : List Captures) :
    (splice r position (captures :: later) ()).1 = do
      let (gap, matched, next) ← orMalformed (cut? position captures)
      let output ← (r matched ()).1
      let parts ← (splice r next later ()).1
      return gap :: output :: parts := by
  rw [splice]
  cases cut? position captures with
  | none => rfl
  | some cut =>
    obtain ⟨gap, matched, next⟩ := cut
    simp only [orMalformed, bind, Except.bind]
    cases r matched () with
    | mk result _ =>
      cases result with
      | error e => rfl
      | ok output =>
        simp only
        cases splice r next later () with
        | mk parts _ => cases parts <;> rfl

theorem splice_approximates (h : ∀ matched, Approximates (r matched ()).1 (r' matched ()).1)
    (position : Cursor) (found : List Captures) :
    Approximates (splice r position found ()).1 (splice r' position found ()).1 := by
  induction found generalizing position with
  | nil => exact .refl _
  | cons captures later ih =>
    rw [splice_cons, splice_cons]
    refine (Approximates.refl _).bind fun (gap, matched, next) => ?_
    exact (h matched).bind fun output => (ih next).bind fun parts => .refl _

theorem replaceWith_approximates (h : ∀ matched, Approximates (r matched ()).1 (r' matched ()).1)
    (p : Pattern) (text : String) :
    Approximates (p.replaceWith text r ()).1 (p.replaceWith text r' ()).1 := by
  have heq : ∀ r : Replacement Unit, (p.replaceWith text r ()).1 = do
      let found ← p.allMatches text.toList
      let parts ← (splice r (Cursor.start text.toList) found ()).1
      return String.join parts := by
    intro r
    unfold replaceWith
    cases p.allMatches text.toList with
    | error e => rfl
    | ok found =>
      simp only [bind, Except.bind]
      cases splice r (Cursor.start text.toList) found () with
      | mk parts _ => cases parts <;> rfl
  rw [heq, heq]
  exact (Approximates.refl _).bind fun found =>
    (splice_approximates h _ found).bind fun _ => .refl _

end

theorem evaluated_approximates {c d : Context} (h : c.Approximates d) (replacement : Json)
    (matched : String) :
    Approximates (evaluated c replacement matched ()).1 (evaluated d replacement matched ()).1 := by
  simp only [evaluated, h.scope]
  exact (evaluateAs_approximates (h.withScope _) _ _).bind fun _ => .refl _

/-- `["$stringReplace", pattern, replacement, value]`: the string with its matches replaced. The
replacement is evaluated once for each match. -/
def stringReplace (engine : Engine) : Interpreter where
  name := "$stringReplace"
  call c args := do
    let bound ← bindArgs c "$stringReplace" [.any, .raw, .typed [.string]] args
    let pattern ← Pattern.normalize engine bound[0]
    let replaced ← (pattern.replaceWith bound[2].text (evaluated c bound[1]) ()).1
    return .str replaced
  call_approximates args h :=
    (bindArgs_approximates h _ _ args).bind fun bound => (Approximates.refl _).bind fun pattern =>
      (replaceWith_approximates (evaluated_approximates h bound[1]) pattern _).bind fun _ =>
        .refl _

/-- The four operations. -/
def all (engine : Engine) : List Interpreter :=
  [stringMatch engine, stringTest engine, stringReplace engine, stringSplit engine]

/-- A registry of the four operations. -/
def registry (engine : Engine) : Registry := .ofList (all engine)

/-- A registry of the built-in interpreters and the four operations. -/
def withBuiltins (engine : Engine) : Registry := Builtin.registry.extend (registry engine)

end PatternOp

end TextExpr
