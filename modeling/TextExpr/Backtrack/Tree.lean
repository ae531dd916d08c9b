import TextExpr.Pattern.Assertion

/-!
# Syntax trees

The syntax tree of a pattern of the backtracking engine, with what is known about the matches of
each part before any text is seen. Parts that are not hard can be written out as a pattern of the
linear engine.
-/

namespace TextExpr

namespace Backtrack

/-- The greatest number that a count may be; as an upper bound it means that there is none. -/
def countLimit : Nat := Nat.pow 2 64 - 1

/-- A part of a pattern. -/
inductive Tree where
  /-- The empty text. -/
  | empty
  /-- Any character, or any but a line feed. -/
  | any (newline : Bool)
  /-- A character, of either case if asked for. -/
  | literal (c : Char) (ignoreCase : Bool)
  /-- A condition on the position. -/
  | assertion (condition : Assertion)
  /-- One character of a set, which is written as in a pattern of the linear engine. -/
  | chars (source : List Char) (ignoreCase : Bool)
  /-- Parts one after the other. -/
  | concat (parts : List Tree)
  /-- One of several branches. -/
  | alt (branches : List Tree)
  /-- A capture group. -/
  | group (index : Nat) (body : Tree)
  /-- At least `least` and, if a bound is given, at most `most` rounds. -/
  | rep (least : Nat) (most : Option Nat) (greedy : Bool) (body : Tree)
  /-- What follows or, if `behind`, precedes the position matches or does not. -/
  | look (behind negated : Bool) (body : Tree)
  /-- The text of a group. -/
  | backref (group : Nat)
  /-- A group has taken part. -/
  | taken (group : Nat)
  /-- The first match of the body and no other. -/
  | atomic (body : Tree)
  /-- The match is said to start here. -/
  | matchStart
  /-- The search started here. -/
  | searchStart
  /-- One of two branches, after or instead of a condition. -/
  | conditional (condition yes no : Tree)
deriving Repr, Inhabited

namespace Tree

/-- The part is the empty text. -/
def isEmpty : Tree → Bool
  | empty => true
  | _ => false

/-- The part may be repeated: it is more than a condition. -/
def isRepeatable : Tree → Bool
  | empty | assertion _ | look .. => false
  | _ => true

/-! ### Shapes -/

/-- What is known about the matches of a part. -/
structure Shape where
  /-- The least number of characters of a match. Lengths are words of 64 bits and wrap around. -/
  least : UInt64 := 0
  /-- All matches have that number of characters. -/
  isConstant : Bool := true
  /-- The part needs backtracking. -/
  isHard : Bool := false
deriving DecidableEq, Repr

namespace Shape

/-- The part can be matched by the linear engine and all its matches are of one length. -/
def isFixed (shape : Shape) : Bool := shape.isConstant && !shape.isHard

/-- One part after another. -/
def andThen (a b : Shape) : Shape :=
  ⟨a.least + b.least, a.isConstant && b.isConstant, a.isHard || b.isHard⟩

/-- One part or another. -/
def orElse (a b : Shape) : Shape :=
  ⟨min a.least b.least, a.isConstant && b.isConstant && a.least == b.least,
    a.isHard || b.isHard⟩

/-- A repeated part. -/
def repeated (least : Nat) (most : Option Nat) (body : Shape) : Shape :=
  { body with
    least := body.least * UInt64.ofNat least
    isConstant := body.isConstant && most.getD countLimit == least }

/-- A part after a condition or another one instead of it. -/
def conditional (condition yes no : Shape) : Shape where
  least := condition.least + min yes.least no.least
  isConstant := condition.isConstant && yes.isConstant && no.isConstant
    && condition.least + yes.least == no.least
  isHard := true

end Shape

/-- The condition is about words, which the linear engine would be slow to check. -/
def isWordCondition : Assertion → Bool
  | .wordBoundary _ | .notWordBoundary _ | .wordStart _ | .wordEnd _
  | .wordStartHalf _ | .wordEndHalf _ => true
  | _ => false

mutual

/-- The shape of a part. A group whose matches differ in length is hard if a reference to it is
among `references`, since another match of the group may be the one that fits the reference. -/
def shape (references : List Nat) : Tree → Shape
  | empty => {}
  | any _ => { least := 1 }
  | literal .. => { least := 1 }
  | assertion condition => { isHard := isWordCondition condition }
  | chars .. => { least := 1 }
  | concat parts => concatShape references parts
  | alt branches => altShape references branches
  | group index body =>
    let inner := shape references body
    { inner with isHard := inner.isHard || (references.contains index && !inner.isConstant) }
  | rep least most _ body => (shape references body).repeated least most
  | look _ _ _ => { isHard := true }
  | backref _ => { isConstant := false, isHard := true }
  | taken _ => { isHard := true }
  | atomic body => { shape references body with isHard := true }
  | matchStart => { isHard := true }
  | searchStart => { isHard := true }
  | conditional condition yes no =>
    .conditional (shape references condition) (shape references yes) (shape references no)

/-- The shape of parts one after the other. -/
def concatShape (references : List Nat) : List Tree → Shape
  | [] => {}
  | part :: parts => (shape references part).andThen (concatShape references parts)

/-- The shape of branches. -/
def altShape (references : List Nat) : List Tree → Shape
  | [] => {}
  | [branch] => shape references branch
  | branch :: branches => (shape references branch).orElse (altShape references branches)

end

mutual

/-- The indices of the groups of a part, in the order of their opening parentheses. -/
def groups : Tree → List Nat
  | concat parts => groupsOfAll parts
  | alt branches => groupsOfAll branches
  | group index body => index :: groups body
  | rep _ _ _ body => groups body
  | look _ _ body => groups body
  | atomic body => groups body
  | conditional condition yes no => groups condition ++ groups yes ++ groups no
  | _ => []

/-- The indices of the groups of several parts. -/
def groupsOfAll : List Tree → List Nat
  | [] => []
  | part :: parts => groups part ++ groupsOfAll parts

end

/-! ### Writing out -/

/-- A character that stands for itself. -/
def quoted (c : Char) : List Char :=
  if "\\.+*?()|[]\x7b\x7d^$#".toList.contains c then ['\\', c] else [c]

/-- Text in a group of its own, if asked for. -/
def enclosed (enclose : Bool) (opening : String) (text : List Char) : List Char :=
  if enclose then opening.toList ++ text ++ [')'] else text

/-- The sign of a repetition. -/
def sign (least : Nat) (most : Option Nat) (greedy : Bool) : List Char :=
  let counts :=
    match least, most with
    | 0, some 1 => ['?']
    | 0, none => ['*']
    | 1, none => ['+']
    | least, none => '\x7b' :: Nat.toDigits 10 least ++ [',', '\x7d']
    | least, some most =>
      if least = most then '\x7b' :: Nat.toDigits 10 least ++ ['\x7d']
      else '\x7b' :: Nat.toDigits 10 least ++ ',' :: Nat.toDigits 10 most ++ ['\x7d']
  if greedy then counts else counts ++ ['?']

mutual

/-- A part that is not hard as a pattern of the linear engine. It is enclosed where it binds less
than the place where it stands: 0 for a whole pattern, 1 for a branch, 2 for a part of a branch
and 3 for what is repeated. -/
def written (place : Nat) : Tree → List Char
  | any newline => if newline then "(?s:.)".toList else ['.']
  | literal c ignoreCase => enclosed ignoreCase "(?i:" (quoted c)
  | assertion .textStart => ['^']
  | assertion .textEnd => ['$']
  | assertion .lineStart => "(?m:^)".toList
  | assertion .lineEnd => "(?m:$)".toList
  | chars source ignoreCase => enclosed ignoreCase "(?i:" source
  | concat parts => enclosed (1 < place) "(?:" (writtenParts parts)
  | alt branches => enclosed (0 < place) "(?:" (writtenBranches branches)
  | group _ body => enclosed true "(" (written 0 body)
  | rep least most greedy body =>
    enclosed (2 < place) "(?:" (written 3 body ++ sign least most greedy)
  | _ => []

/-- The parts of a branch. -/
def writtenParts : List Tree → List Char
  | [] => []
  | part :: parts => written 2 part ++ writtenParts parts

/-- Branches with bars between them. -/
def writtenBranches : List Tree → List Char
  | [] => []
  | [branch] => written 1 branch
  | branch :: branches => written 1 branch ++ '|' :: writtenBranches branches

end

mutual

/-- The text of a part that matches a fixed text only. -/
def fixedText? : Tree → Option (List Char)
  | literal c false => some [c]
  | concat parts => fixedTextOfAll? parts
  | _ => none

/-- The text of parts each of which matches a fixed text only. -/
def fixedTextOfAll? : List Tree → Option (List Char)
  | [] => some []
  | part :: parts => do
    let first ← fixedText? part
    let later ← fixedTextOfAll? parts
    some (first ++ later)

end

end Tree

end Backtrack

end TextExpr
