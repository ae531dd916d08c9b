import TextExpr.Linear.Escape

/-!
# Bracketed classes

A class in brackets lists characters, ranges, escapes, named ASCII classes and further classes.
Between such lists may stand `&&`, `--` and `~~`, which all bind alike and to the left.
-/

namespace TextExpr

namespace Linear

/-- An operator between the lists of a class. -/
inductive SetOperator where
  /-- `&&`: characters of both. -/
  | inter
  /-- `--`: characters of the left side only. -/
  | difference
  /-- `~~`: characters of exactly one side. -/
  | symmetricDifference
deriving DecidableEq, Repr

namespace SetOperator

/-- What an operator does to two sets. -/
def apply : SetOperator → CharSet → CharSet → CharSet
  | inter => CharSet.inter
  | difference => CharSet.difference
  | symmetricDifference => CharSet.symmetricDifference

/-- The operator that two equal characters write. -/
def ofChar? : Char → Option SetOperator
  | '&' => some inter
  | '-' => some difference
  | '~' => some symmetricDifference
  | _ => none

end SetOperator

/-- The items of a list in a class. -/
structure SetItems where
  /-- How many items there are. -/
  count : Nat := 0
  /-- The characters of the items. -/
  chars : CharSet := .empty
  /-- How deeply the deepest item nests. -/
  depth : Nat := 0
deriving Inhabited

namespace SetItems

/-- The items and one more. -/
def add (items : SetItems) (chars : CharSet) (depth : Nat := 0) : SetItems :=
  ⟨items.count + 1, items.chars.union chars, max items.depth depth⟩

/-- How deeply the list nests; a list of more than one item is a level of its own. -/
def nesting (items : SetItems) : Nat :=
  if 2 ≤ items.count then items.depth + 1 else items.depth

end SetItems

/-- An open bracket with what has been read since. -/
structure Bracket where
  /-- The class is negated. -/
  isNegated : Bool
  /-- The operator that waits for its right side, with the left side and its nesting. -/
  pending : Option (SetOperator × CharSet × Nat) := none
  /-- The items since the bracket or the last operator. -/
  items : SetItems := {}
deriving Inhabited

namespace Bracket

/-- The characters read since the bracket, with the nesting. -/
def contents (mode : Mode) (bracket : Bracket) : CharSet × Nat :=
  match bracket.pending with
  | none => (bracket.items.chars, bracket.items.nesting)
  | some (operator, left, depth) =>
    (operator.apply (folded mode left) (folded mode bracket.items.chars),
      max depth bracket.items.nesting + 1)

/-- The bracket after an operator. -/
def awaiting (mode : Mode) (bracket : Bracket) (operator : SetOperator) : Bracket :=
  let (left, depth) := bracket.contents mode
  { bracket with pending := some (operator, left, depth), items := {} }

/-- The characters of the class, with its nesting. -/
def close (mode : Mode) (bracket : Bracket) : Except SyntaxError (CharSet × Nat) := do
  let (chars, depth) := bracket.contents mode
  let chars ← negated mode bracket.isNegated (folded mode chars)
  return (chars, depth + 1)

/-- The bracket with one more item. -/
def add (bracket : Bracket) (chars : CharSet) (depth : Nat := 0) : Bracket :=
  { bracket with items := bracket.items.add chars depth }

end Bracket

/-- Read the hyphens that a class may start with. -/
def readHyphens (mode : Mode) (bracket : Bracket) :
    (fuel : Nat) → List Char → Bracket × List Char
  | 0, rest => (bracket, rest)
  | fuel + 1, rest =>
    match rest with
    | '-' :: rest => readHyphens mode (bracket.add (.singleton '-')) fuel (skip mode rest)
    | _ => (bracket, rest)

/-- Read what follows an opening bracket: `^` for a negated class, hyphens, and a closing bracket
that stands for itself as the first item. -/
def openBracket (mode : Mode) (rest : List Char) : Bracket × List Char :=
  let rest := skip mode rest
  let (isNegated, rest) :=
    match rest with
    | '^' :: rest => (true, skip mode rest)
    | _ => (false, rest)
  let (bracket, rest) := readHyphens mode { isNegated } rest.length rest
  match rest with
  | ']' :: after =>
    if bracket.items.count = 0 then (bracket.add (.singleton ']'), skip mode after)
    else (bracket, rest)
  | _ => (bracket, rest)

/-- The named ASCII class that follows an opening bracket, up to its closing one; whether it is
negated comes first. -/
def readAsciiClass? : List Char → Option ((Bool × CharSet) × List Char)
  | ':' :: rest =>
    let (isNegated, rest) :=
      match rest with
      | '^' :: rest => (true, rest)
      | _ => (false, rest)
    match rest.dropWhile (· != ':') with
    | ':' :: ']' :: after =>
      (asciiClass? (String.ofList (rest.takeWhile (· != ':')))).map
        fun chars => ((isNegated, chars), after)
    | _ => none
  | _ => none

/-- An end of a range. -/
inductive SetItem where
  /-- A character. -/
  | literal (c : Char)
  /-- A set of characters, which cannot end a range. -/
  | set (chars : CharSet)

namespace SetItem

/-- The characters of an item. -/
def chars (mode : Mode) : SetItem → Except SyntaxError CharSet
  | literal c =>
    if mode.unicode || c.toNat < 0x80 then .ok (.singleton c) else .error .notCharacters
  | set chars => .ok chars

end SetItem

/-- Read a character or an escape in a class. -/
def readSetItem (mode : Mode) : List Char → Except SyntaxError (SetItem × List Char)
  | [] => .error .unclosedClass
  | '\\' :: rest => do
    let (escape, rest) ← readEscape mode rest
    match escape with
    | .literal c => return (.literal c, rest)
    | .set chars => return (.set chars, rest)
    | .look _ => throw .invalidClassEscape
  | c :: rest => .ok (.literal c, rest)

/-- The character after a hyphen, past white space and one comment sign at most. -/
def peekPastHyphen (mode : Mode) (rest : List Char) : Option Char :=
  if mode.ignoreSpace then
    match rest.dropWhile isSpace with
    | '#' :: later => (later.dropWhile isSpace).head?
    | later => later.head?
  else rest.head?

/-- Read an item of a class, which is a range if a hyphen and another item follow. -/
def readRange (mode : Mode) (rest : List Char) : Except SyntaxError (CharSet × List Char) := do
  let (first, rest) ← readSetItem mode rest
  let rest := skip mode rest
  match rest with
  | [] => throw .unclosedClass
  | '-' :: after =>
    let next := peekPastHyphen mode after
    if next = some ']' ∨ next = some '-' then return (← first.chars mode, rest)
    let (last, rest) ← readSetItem mode (skip mode after)
    match first, last with
    | .literal lo, .literal hi =>
      discard (SetItem.chars mode (.literal lo))
      discard (SetItem.chars mode (.literal hi))
      if hi < lo then throw .invalidRange
      return (.interval lo hi, rest)
    | _, _ => throw .invalidRange
  | _ => return (← first.chars mode, rest)

/-- Read the items of a class and the classes within it up to its closing bracket. The list of
brackets is never empty; its first one is the innermost. -/
def readBrackets (mode : Mode) : (fuel : Nat) → Bracket → (outer : List Bracket) → List Char →
    Except SyntaxError ((CharSet × Nat) × List Char)
  | 0, _, _, _ => .error .unclosedClass
  | fuel + 1, bracket, outer, rest =>
    match skip mode rest with
    | [] => .error .unclosedClass
    | '[' :: after =>
      match readAsciiClass? after with
      | some ((isNegated, chars), rest) => do
        let chars ← negated mode isNegated (folded mode chars)
        readBrackets mode fuel (bracket.add chars) outer rest
      | none =>
        let (inner, rest) := openBracket mode after
        readBrackets mode fuel inner (bracket :: outer) rest
    | ']' :: after => do
      let (chars, depth) ← bracket.close mode
      match outer with
      | [] => return ((chars, depth), after)
      | parent :: outer => readBrackets mode fuel (parent.add chars depth) outer after
    | c :: after =>
      match SetOperator.ofChar? c, after with
      | some operator, d :: later =>
        if c = d then readBrackets mode fuel (bracket.awaiting mode operator) outer later
        else do
          let (chars, rest) ← readRange mode (c :: after)
          readBrackets mode fuel (bracket.add chars) outer rest
      | _, _ => do
        let (chars, rest) ← readRange mode (c :: after)
        readBrackets mode fuel (bracket.add chars) outer rest

/-- Read a class after its opening bracket, with its nesting. -/
def readClass (mode : Mode) (rest : List Char) :
    Except SyntaxError ((CharSet × Nat) × List Char) :=
  let (bracket, after) := openBracket mode rest
  readBrackets mode (rest.length + 1) bracket [] after

end Linear

end TextExpr
