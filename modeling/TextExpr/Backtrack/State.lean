import TextExpr.Backtrack.Tree
import TextExpr.Pattern.Mode
import TextExpr.Unicode.Property

/-!
# How far a pattern has been read

The state of reading a pattern: the branches since the innermost open group, the open groups around
them, and what is known about groups and references. Also the small pieces of text that patterns
are made of: white space, numbers and names.
-/

namespace TextExpr

namespace Backtrack

/-- What is wrong with a pattern. -/
inductive PatternError where
  /-- A group, conditional or comment that is not closed. -/
  | unclosedGroup
  /-- A closing parenthesis without a group. -/
  | unopenedGroup
  /-- A repetition of nothing or of a condition. -/
  | notRepeatable
  /-- Too deeply nested. -/
  | nesting
  /-- An escape without a meaning. -/
  | invalidEscape
  /-- A reference to a group that does not exist. -/
  | invalidReference
  /-- A group name that is empty or malformed. -/
  | invalidGroupName
  /-- References by number next to named groups. -/
  | mixedReferences
  /-- Inline flags that are unknown or missing. -/
  | invalidFlags
  /-- Hexadecimal digits that are missing or name no character. -/
  | invalidHex
  /-- A bracketed class that is not closed or holds more than characters. -/
  | invalidClass
  /-- A character property that is not closed. -/
  | unclosedProperty
  /-- A conditional without branches whose condition is no reference. -/
  | missingBranches
  /-- A look-behind of more than one length. -/
  | lookBehind
  /-- The linear engine does not accept a part. -/
  | part
deriving DecidableEq, Repr

/-- What has been read since a group was opened. -/
structure Branches where
  /-- The parts of the branch at the end, the last first. -/
  parts : List Tree := []
  /-- The branches before it, the last first. -/
  earlier : List Tree := []
deriving Inhabited

namespace Branches

/-- One more part at the end. -/
def push (branches : Branches) (part : Tree) : Branches :=
  if part.isEmpty then branches else { branches with parts := part :: branches.parts }

/-- The branch at the end. -/
def branch (branches : Branches) : Tree :=
  match branches.parts with
  | [] => .empty
  | [part] => part
  | parts => .concat parts.reverse

/-- A new branch is begun. -/
def next (branches : Branches) : Branches := ⟨[], branches.branch :: branches.earlier⟩

/-- All branches. -/
def close (branches : Branches) : Tree :=
  match branches.earlier with
  | [] => branches.branch
  | earlier => .alt (branches.branch :: earlier).reverse

end Branches

/-- What an open parenthesis has opened. -/
inductive Opening where
  /-- A capture group. -/
  | capture (index : Nat)
  /-- A group for the sake of flags, with the mode outside. -/
  | flags (mode : Mode)
  /-- An atomic group. -/
  | atomic
  /-- A look-around. -/
  | look (behind negated : Bool)
  /-- The condition of a conditional. -/
  | condition
  /-- The branches of a conditional, with the number of characters from there on. -/
  | branches (condition : Tree) (length : Nat)

/-- An open group. -/
structure OpenGroup where
  /-- What was opened. -/
  opening : Opening
  /-- What was read before. -/
  outside : Branches

/-- How far a pattern has been read. -/
structure ReadState where
  /-- The length of the whole pattern in bytes. -/
  length : Nat
  /-- The mode at this place. -/
  mode : Mode := {}
  /-- The number of capture groups so far. -/
  groupCount : Nat := 0
  /-- The names of groups, the last one first. -/
  names : List (List Char × Nat) := []
  /-- The groups to which references were read. -/
  references : List Nat := []
  /-- A reference by number was read. -/
  hasNumbered : Bool := false
  /-- What has been read since the innermost open group. -/
  current : Branches := {}
  /-- The open groups, the innermost first. -/
  groups : List OpenGroup := []

/-- What a step gives: the new state and what is left of the pattern. -/
abbrev Step := Except PatternError (ReadState × List Char)

/-! ### White space, numbers and names -/

/-- Where a pattern is skipped. -/
inductive Skipping where
  /-- Between two parts. -/
  | between
  /-- In a comment up to the end of the line. -/
  | line
  /-- In a comment up to its closing parenthesis. -/
  | comment

/-- Skip comments in parentheses and, if the mode asks for it, white space and comments up to the
end of a line. -/
def skip (mode : Mode) : Skipping → List Char → Except PatternError (List Char)
  | .between, '(' :: '?' :: '#' :: rest => skip mode .comment rest
  | .between, c :: rest =>
    if mode.ignoreSpace && c == '#' then skip mode .line rest
    else if mode.ignoreSpace && (c == ' ' || c == '\r' || c == '\n' || c == '\t') then
      skip mode .between rest
    else .ok (c :: rest)
  | .line, c :: rest => skip mode (if c = '\n' then .between else .line) rest
  | .comment, ')' :: rest => skip mode .between rest
  | .comment, '\\' :: _ :: rest => skip mode .comment rest
  | .comment, _ :: rest => skip mode .comment rest
  | .comment, [] => .error .unclosedGroup
  | _, [] => .ok []

namespace ReadState

/-- Skip what the mode ignores. -/
def skip (state : ReadState) (rest : List Char) : Except PatternError (List Char) :=
  Backtrack.skip state.mode .between rest

end ReadState

/-- The number that the leading digits write. -/
def readDecimal? (rest : List Char) : Option (Nat × List Char) :=
  let digits := rest.takeWhile Char.isDigit
  let value := digits.foldl (fun n c => 10 * n + (c.toNat - '0'.toNat)) 0
  if digits.isEmpty || countLimit < value then none
  else some (value, rest.dropWhile Char.isDigit)

/-- Whether a character may stand in a name. -/
def isNameChar (c : Char) : Bool :=
  c == '_' || if c.toNat < 0x80 then c.isAlphanum else Unicode.alphanumeric.contains c

/-- The name up to a closing character. -/
def readName? (closing : Char) (rest : List Char) : Option (List Char × List Char) :=
  match rest.dropWhile isNameChar with
  | c :: after =>
    let name := rest.takeWhile isNameChar
    if c = closing && !name.isEmpty then some (name, after) else none
  | [] => none

end Backtrack

end TextExpr
