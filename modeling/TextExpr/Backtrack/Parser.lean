import TextExpr.Backtrack.Bracket

/-!
# From pattern to tree

A pattern is read in one pass, with the open groups on a stack. What looks like a repetition but
is none stands for itself.
-/

namespace TextExpr

namespace Backtrack

/-! ### Repetitions -/

/-- The counts between braces; none if they are malformed. -/
def readCounts? (state : ReadState) (rest : List Char) :
    Option ((Nat × Option Nat) × List Char) := do
  let bound := fun n => if n = countLimit then none else some n
  let skip := fun rest => (state.skip rest).toOption
  let rest ← skip rest
  let (least, rest) ← if rest.head? = some ',' then some (0, rest) else readDecimal? rest
  match ← skip rest with
  | '\x7d' :: rest => some ((least, bound least), rest)
  | ',' :: rest =>
    let rest ← skip rest
    let (most, rest) := match readDecimal? rest with
      | some (most, rest) => (bound most, rest)
      | none => (none, rest)
    match ← skip rest with
    | '\x7d' :: rest => some ((least, most), rest)
    | _ => none
  | _ => none

/-- The counts of a repetition that follows, if one does. -/
def readRounds? (state : ReadState) : List Char → Option ((Nat × Option Nat) × List Char)
  | '?' :: rest => some ((0, some 1), rest)
  | '*' :: rest => some ((0, none), rest)
  | '+' :: rest => some ((1, none), rest)
  | '\x7b' :: rest => readCounts? state rest
  | _ => none

/-- Add a part that has been read, with the repetition that may follow it. After the repetition may
stand a question mark, which turns its preference, and a plus sign, which makes it atomic. -/
def finish (state : ReadState) (part : Tree) (rest : List Char) : Step := do
  let rest ← state.skip rest
  match readRounds? state rest with
  | none => return ({ state with current := state.current.push part }, rest)
  | some ((least, most), rest) =>
    if !part.isRepeatable then throw .notRepeatable
    let (lazily, rest) := match ← state.skip rest with
      | '?' :: rest => (true, rest)
      | rest => (false, rest)
    let repeated := Tree.rep least most (lazily == state.mode.swapGreed) part
    let (part, rest) := match rest with
      | '+' :: rest => (.atomic repeated, rest)
      | rest => (repeated, rest)
    return ({ state with current := state.current.push part }, rest)

/-! ### Groups -/

/-- Open a group. -/
def openGroup (state : ReadState) (opening : Opening) : ReadState :=
  { state with current := {}, groups := ⟨opening, state.current⟩ :: state.groups }

/-- Open a capture group. -/
def openCapture (state : ReadState) : ReadState :=
  let index := state.groupCount + 1
  { openGroup state (.capture index) with groupCount := index }

/-- Open a capture group with a name, of which the last group of the name is meant. -/
def openNamed (state : ReadState) (rest : List Char) : Step :=
  match readName? '>' rest with
  | none => .error .invalidGroupName
  | some (name, rest) =>
    .ok (openCapture { state with names := (name, state.groupCount + 1) :: state.names }, rest)

/-- Read inline flags; `count` says how many characters have been read and `on` whether no hyphen
was among them. -/
def readFlags (outside : Mode) (on : Bool) : (fuel : Nat) → (count : Nat) → ReadState →
    List Char → Step
  | 0, _, _, _ => .error .unclosedGroup
  | fuel + 1, count, state, rest => do
    let left ← state.skip rest
    let count := count + (rest.length - left.length)
    match left with
    | [] => throw .unclosedGroup
    | c :: rest =>
      let onlyHyphen := !on && count == 1
      if c = ')' then
        if count = 0 || onlyHyphen then throw .invalidFlags
        finish state .empty rest
      else if c = ':' then
        if onlyHyphen then throw .invalidFlags
        return (openGroup state (.flags outside), rest)
      else if c = '-' then
        if !on then throw .invalidFlags
        readFlags outside false fuel (count + 1) state rest
      else if c = 'u' then
        if !on then throw .invalidFlags
        readFlags outside on fuel (count + 1) state rest
      else
        match if c = 'R' then none else state.mode.switch? c on with
        | none => throw .invalidFlags
        | some mode => readFlags outside on fuel (count + 1) { state with mode } rest

/-- Read the condition of a conditional, unless it is a pattern of its own. -/
def readCondition (state : ReadState) (rest : List Char) : Step :=
  let reference := fun (found : Except PatternError ((ReadState × Nat) × List Char)) => do
    let ((state, group), rest) ← found
    match ← state.skip rest with
    | ')' :: rest => return (openGroup state (.branches (.backref group) rest.length), rest)
    | _ => throw .unclosedGroup
  match rest with
  | [] => .error .unclosedGroup
  | '\'' :: _ | '<' :: _ => reference (readEnclosed state rest)
  | c :: _ =>
    if c.isDigit then reference (readNumbered state rest)
    else .ok (openGroup state .condition, rest)

/-- How deeply groups may nest. -/
def nestingLimit : Nat := 64

/-- Read what follows an opening parenthesis. -/
def readGroup (state : ReadState) (rest : List Char) : Step := do
  if nestingLimit ≤ state.groups.length + 1 then throw .nesting
  match ← state.skip rest with
  | '?' :: '=' :: rest => return (openGroup state (.look false false), rest)
  | '?' :: '!' :: rest => return (openGroup state (.look false true), rest)
  | '?' :: '<' :: '=' :: rest => return (openGroup state (.look true false), rest)
  | '?' :: '<' :: '!' :: rest => return (openGroup state (.look true true), rest)
  | '?' :: '<' :: rest => openNamed state rest
  | '?' :: 'P' :: '<' :: rest => openNamed state rest
  | '?' :: 'P' :: '=' :: rest =>
    let ((state, group), rest) ← readNamed state false ')' rest
    finish state (.backref group) rest
  | '?' :: '>' :: rest => return (openGroup state .atomic, rest)
  | '?' :: '(' :: rest => readCondition state rest
  | '?' :: rest => readFlags state.mode true (rest.length + 1) 0 state rest
  | rest => return (openCapture state, rest)

/-- The reference of a condition that is nothing else counts as whether its group has taken
part. -/
def asCondition : Tree → Tree
  | .backref group => .taken group
  | tree => tree

/-- A conditional with its branches, of which there may be no second one. If neither branch holds
anything the condition stands alone. -/
def conditional (condition branches : Tree) : Tree :=
  let (yes, no) :=
    match branches with
    | .alt [yes, no] => (yes, no)
    | .alt (yes :: no) => (yes, .alt no)
    | yes => (yes, .empty)
  if yes.isEmpty && no.isEmpty then condition else .conditional condition yes no

/-- What has been read since the innermost open group. References by number do not go together with
names, unless there are several branches. -/
def closeBranches (state : ReadState) : Except PatternError Tree :=
  if state.hasNumbered && !state.names.isEmpty && state.current.earlier.isEmpty then
    .error .mixedReferences
  else .ok state.current.close

/-- Close the innermost group at a parenthesis, after which `rest` follows. -/
def closeGroup (state : ReadState) (rest : List Char) : Step := do
  let body ← closeBranches state
  match state.groups with
  | [] => throw .unopenedGroup
  | group :: groups =>
    let outer := { state with current := group.outside, groups }
    match group.opening with
    | .capture index => finish outer (.group index body) rest
    | .flags mode => finish { outer with mode } body rest
    | .atomic => finish outer (.atomic body) rest
    | .look behind negated => finish outer (.look behind negated body) rest
    | .condition =>
      return (openGroup outer (.branches body rest.length), rest)
    | .branches condition length =>
      if rest.length + 1 = length then
        match condition with
        | .backref group => finish outer (.taken group) rest
        | _ => throw .missingBranches
      else finish outer (conditional (asCondition condition) body) rest

/-! ### Patterns -/

/-- Read what begins with `c`. -/
def readPart (state : ReadState) (c : Char) (rest : List Char) : Step :=
  match c with
  | '.' => finish state (.any state.mode.dotAll) rest
  | '^' => finish state (.assertion (if state.mode.multiline then .lineStart else .textStart)) rest
  | '$' => finish state (.assertion (if state.mode.multiline then .lineEnd else .textEnd)) rest
  | '(' => readGroup state rest
  | ')' => closeGroup state rest
  | '|' => .ok ({ state with current := state.current.next }, rest)
  | '?' | '*' | '+' => .error .notRepeatable
  | '[' => do
    let (tree, rest) ← readClass state.mode rest
    finish state tree rest
  | '\\' => do
    let ((state, tree), rest) ← readEscape state rest
    finish state tree rest
  | c => finish state (.literal c state.mode.ignoreCase) rest

/-- A pattern that has been read. -/
structure Parsed where
  /-- The syntax tree. -/
  tree : Tree
  /-- The number of groups, with the whole match. -/
  groupCount : Nat
  /-- The groups to which there are references. -/
  references : List Nat

/-- Read a pattern to its end. -/
def readPattern : (fuel : Nat) → ReadState → List Char → Except PatternError Parsed
  | 0, _, _ => .error .unclosedGroup
  | fuel + 1, state, rest => do
    match ← state.skip rest with
    | [] =>
      if !state.groups.isEmpty then throw .unclosedGroup
      return ⟨← closeBranches state, state.groupCount + 1, state.references⟩
    | c :: rest =>
      let (state, rest) ← readPart state c rest
      readPattern fuel state rest

namespace Parsed

/-- The tree of a pattern. -/
def ofPattern (pattern : String) : Except PatternError Parsed :=
  let chars := pattern.toList
  readPattern (chars.length + 1) { length := pattern.utf8ByteSize } chars

end Parsed

end Backtrack

end TextExpr
