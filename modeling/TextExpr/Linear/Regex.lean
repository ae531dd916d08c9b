import TextExpr.Pattern.Assertion
import TextExpr.Unicode.CharSet

/-!
# Regular expressions

Expressions of the linear engine. Of two alternatives the first one counts for more, and a
repetition prefers more rounds if it is greedy and fewer if it is not.
-/

namespace TextExpr

namespace Linear

/-- A regular expression. -/
inductive Regex where
  /-- Matches the empty text. -/
  | empty
  /-- Matches one character of a set. -/
  | set (chars : CharSet)
  /-- Matches the empty text where a condition holds. -/
  | look (assertion : Assertion)
  /-- One expression after the other. -/
  | seq (first second : Regex)
  /-- One expression or the other. -/
  | alt (first second : Regex)
  /-- At least `least` and, if a bound is given, at most `most` rounds. -/
  | rep (least : Nat) (most : Option Nat) (greedy : Bool) (body : Regex)
  /-- A capture group. The groups of an expression are counted from 0, without the whole match. -/
  | group (index : Nat) (body : Regex)
deriving DecidableEq, Repr, Inhabited

namespace Regex

/-- The expression that matches one character. -/
def char (c : Char) : Regex := set (.singleton c)

/-- The expression may match the empty text. -/
def nullable : Regex → Bool
  | empty => true
  | set _ => false
  | look _ => true
  | seq a b => nullable a && nullable b
  | alt a b => nullable a || nullable b
  | rep least _ _ body => least == 0 || nullable body
  | group _ body => nullable body

/-- The expression matches nothing but the empty text. -/
def isZeroWidth : Regex → Bool
  | empty => true
  | set _ => false
  | look _ => true
  | seq a b => isZeroWidth a && isZeroWidth b
  | alt a b => isZeroWidth a && isZeroWidth b
  | rep _ most _ body => most == some 0 || isZeroWidth body
  | group _ body => isZeroWidth body

/-- A repetition in its simplest form. More than one round of an expression that matches only the
empty text is one round, and no round at all leaves out the groups in the body. -/
def repeated (least : Nat) (most : Option Nat) (greedy : Bool) (body : Regex) : Regex :=
  let (least, most) :=
    if body.isZeroWidth then (min least 1, some (min (most.getD 1) 1)) else (least, most)
  match least, most with
  | 0, some 0 => empty
  | 1, some 1 => body
  | least, most => rep least most greedy body

/-! ### Sequences -/

/-- The expressions that follow one another in an expression. -/
def parts : Regex → List Regex
  | empty => []
  | seq a b => parts a ++ parts b
  | e => [e]

/-- Expressions one after the other, none of which is a sequence. -/
def joined : List Regex → Regex
  | [] => empty
  | [e] => e
  | e :: es => seq e (joined es)

/-- The expressions of a list, one after the other. -/
def sequence (es : List Regex) : Regex := joined (es.flatMap parts)

/-- The characters of an expression that is no more than a set. -/
def chars? : Regex → Option CharSet
  | set chars => some chars
  | _ => none

/-- The expression matches one fixed character. -/
def isChar (e : Regex) : Bool := e.chars?.any CharSet.isSingleton

/-- What follows one another in an expression, where fixed characters next to each other make one
text and are not told apart. -/
def pieces (e : Regex) : List (List Regex) := e.parts.splitBy fun a b => a.isChar && b.isChar

/-! ### Alternatives -/

/-- The expressions of which an expression matches one. -/
def branches : Regex → List Regex
  | alt a b => branches a ++ branches b
  | e => [e]

/-- The expressions of a list, at least one, as alternatives. -/
def alternatives : List Regex → Regex
  | [] => empty
  | [e] => e
  | e :: es => alt e (alternatives es)

/-- Expressions as alternatives. Where each is a fixed character, or each is a set of characters
and none a fixed one, they make one set. -/
def oneOf (es : List Regex) : Regex :=
  let es := es.flatMap branches
  match es.mapM chars? with
  | some (s :: sets) =>
    if sets.all fun t => t.isSingleton == s.isSingleton then set (sets.foldl CharSet.union s)
    else alternatives es
  | _ => alternatives es

/-- What two lists begin with alike. -/
def commonStart {α : Type} [DecidableEq α] : List α → List α → List α
  | a :: as, b :: bs => if a = b then a :: commonStart as bs else []
  | _, _ => []

/-- What all the lists begin with, if each has at least two entries. -/
def sharedStart {α : Type} [DecidableEq α] : List (List α) → List α
  | [] => []
  | l :: ls => if (l :: ls).all fun l => 2 ≤ l.length then ls.foldl commonStart l else []

/-- The expressions of a list as alternatives. What all of them begin with stands once before the
alternatives, so the way in which it is matched counts for more than which alternative is. -/
def choice : List Regex → Regex
  | [e] => e
  | es =>
    let pieces := (es.flatMap branches).map pieces
    match sharedStart pieces with
    | [] => oneOf es
    | start =>
      let ends := pieces.map fun l => joined (l.drop start.length).flatten
      sequence (start.flatten ++ [oneOf ends])

/-- One more than the greatest index of a group, and 0 if there is no group. -/
def groupCount : Regex → Nat
  | empty | set _ | look _ => 0
  | seq a b | alt a b => max (groupCount a) (groupCount b)
  | rep _ _ _ body => groupCount body
  | group index body => max (index + 1) (groupCount body)

end Regex

end Linear

end TextExpr
