import TextExpr.Linear.Bracket
import TextExpr.Linear.Regex

/-!
# From pattern to expression

A pattern is read in one pass. What is read since the innermost open group is kept as branches,
and the open groups around it as a stack.
-/

namespace TextExpr

namespace Linear

/-- A part of a pattern. -/
structure Part where
  /-- The expression of the part. -/
  expr : Regex
  /-- How deeply the part nests. -/
  depth : Nat := 0
  /-- The part may be repeated, which inline flags may not. -/
  isOperand : Bool := true
deriving Inhabited

/-- How deeply a pattern may nest. -/
def nestingLimit : Nat := 250

namespace Part

/-- The part, unless it nests too deeply. -/
def checked (part : Part) : Except SyntaxError Part :=
  if part.depth ≤ nestingLimit then .ok part else .error .nesting

/-- Several parts as one; more than one part make a level of their own. -/
def join (combine : List Regex → Regex) (parts : List Part) : Except SyntaxError Part :=
  let depth := (parts.map Part.depth).foldl max 0
  Part.checked {
    expr := combine (parts.map Part.expr)
    depth := if 2 ≤ parts.length then depth + 1 else depth }

end Part

/-- What has been read since a group was opened. -/
structure Branches where
  /-- The parts of the branch at the end, the last first. -/
  parts : List Part := []
  /-- The branches before it, the last first. -/
  earlier : List Part := []
deriving Inhabited

namespace Branches

/-- One more part at the end. -/
def push (branches : Branches) (part : Part) : Branches :=
  { branches with parts := part :: branches.parts }

/-- The branch at the end as one part. -/
def branch (branches : Branches) : Except SyntaxError Part :=
  Part.join Regex.sequence branches.parts.reverse

/-- A new branch is begun. -/
def next (branches : Branches) : Except SyntaxError Branches := do
  return ⟨[], (← branches.branch) :: branches.earlier⟩

/-- All branches as one part. -/
def close (branches : Branches) : Except SyntaxError Part := do
  Part.join Regex.choice ((← branches.branch) :: branches.earlier).reverse

end Branches

/-- An open group. -/
structure OpenGroup where
  /-- The index of a capture group. -/
  index? : Option Nat
  /-- The mode outside the group. -/
  mode : Mode
  /-- What was read before the group. -/
  outside : Branches

/-- How far a pattern has been read. -/
structure ReadState where
  /-- The mode at this place. -/
  mode : Mode := {}
  /-- The number of capture groups so far. -/
  groupCount : Nat := 0
  /-- The names of the capture groups. -/
  names : List (List Char) := []
  /-- What has been read since the innermost open group. -/
  current : Branches := {}
  /-- The open groups, the innermost first. -/
  groups : List OpenGroup := []

/-- What a step gives: the new state and what is left of the pattern. -/
abbrev Step := Except SyntaxError (ReadState × List Char)

namespace ReadState

/-- The state after one more part. -/
def push (state : ReadState) (part : Part) : ReadState :=
  { state with current := state.current.push part }

/-- The state after one more expression without parts of its own. -/
def pushExpr (state : ReadState) (expr : Regex) : ReadState :=
  state.push { expr }

end ReadState

/-! ### Groups -/

/-- Read inline flags up to `:` or `)`, of which the latter ends a group of flags only. -/
def readFlags (mode : Mode) (on : Bool) (seen : List Char) :
    List Char → Except SyntaxError ((Mode × Bool) × List Char)
  | [] => .error .invalidFlags
  | c :: rest =>
    if c = ':' ∨ c = ')' then
      if seen.head? = some '-' ∨ (c = ')' ∧ seen = []) then .error .invalidFlags
      else .ok ((mode, c == ')'), rest)
    else if seen.contains c then .error .invalidFlags
    else if c = '-' then readFlags mode false (c :: seen) rest
    else
      match mode.switch? c on with
      | some mode => readFlags mode on (c :: seen) rest
      | none => .error .invalidFlags

/-- Open a group, within which the given mode holds. -/
def openGroup (state : ReadState) (index? : Option Nat) (mode : Mode) : ReadState :=
  { state with
    mode
    current := {}
    groups := ⟨index?, state.mode, state.current⟩ :: state.groups }

/-- Open a capture group. -/
def openCapture (state : ReadState) : ReadState :=
  { openGroup state (some state.groupCount) state.mode with groupCount := state.groupCount + 1 }

/-- Open a capture group with a name. -/
def openNamed (state : ReadState) (rest : List Char) : Step := do
  let (name, rest) ← readGroupName rest
  if state.names.contains name then throw .invalidGroupName
  return (openCapture { state with names := name :: state.names }, rest)

/-- Read what follows an opening parenthesis. -/
def readGroup (state : ReadState) (rest : List Char) : Step :=
  match skip state.mode rest with
  | '?' :: '=' :: _ | '?' :: '!' :: _ | '?' :: '<' :: '=' :: _ | '?' :: '<' :: '!' :: _ =>
    .error .lookAround
  | '?' :: 'P' :: '<' :: rest | '?' :: '<' :: rest => openNamed state rest
  | '?' :: rest => do
    let ((mode, isAlone), rest) ← readFlags state.mode true [] rest
    if isAlone then
      return ({ state with mode }.push { expr := .empty, isOperand := false }, rest)
    else
      return (openGroup state none mode, rest)
  | rest => .ok (openCapture state, rest)

/-- Close the innermost group. -/
def closeGroup (state : ReadState) (rest : List Char) : Step :=
  match state.groups with
  | [] => .error .unopenedGroup
  | group :: groups => do
    let body ← state.current.close
    let expr := match group.index? with
      | some index => .group index body.expr
      | none => body.expr
    let part ← Part.checked { expr, depth := body.depth + 1 }
    return ({ state with mode := group.mode, current := group.outside.push part, groups }, rest)

/-! ### Repetitions -/

/-- Repeat the last part; `lazily` says whether a question mark follows. -/
def repeatLast (state : ReadState) (least : Nat) (most : Option Nat) (lazily : Bool) :
    Except SyntaxError ReadState :=
  match state.current.parts with
  | [] => .error .missingOperand
  | part :: parts =>
    if part.isOperand then do
      let expr := part.expr.repeated least most (lazily == state.mode.swapGreed)
      let part ← Part.checked { expr, depth := part.depth + 1 }
      return { state with current := { state.current with parts := part :: parts } }
    else .error .missingOperand

/-- Read the question mark that may follow a repetition. -/
def readLazy : List Char → Bool × List Char
  | '?' :: rest => (true, rest)
  | rest => (false, rest)

/-- Read the counts between braces, of which the greatest may be missing. -/
def readCounts (mode : Mode) (rest : List Char) :
    Except SyntaxError ((Nat × Option Nat) × List Char) := do
  let (least?, rest) ← readDecimal mode (skip mode rest)
  let some least := least? | throw .invalidCount
  match rest with
  | ',' :: rest =>
    match skip mode rest with
    | '\x7d' :: rest => return ((least, none), rest)
    | rest =>
      let (most?, rest) ← readDecimal mode rest
      let some most := most? | throw .invalidCount
      match rest with
      | '\x7d' :: rest =>
        if least ≤ most then return ((least, some most), rest) else throw .invalidCount
      | _ => throw .invalidCount
  | '\x7d' :: rest => return ((least, some least), rest)
  | _ => throw .invalidCount

/-- Read a repetition. -/
def readRepetition (state : ReadState) (sign : Char) (rest : List Char) : Step := do
  let ((least, most), rest) ←
    match sign with
    | '?' => pure ((0, some 1), rest)
    | '*' => pure ((0, none), rest)
    | '+' => pure ((1, none), rest)
    | _ => do
      let (counts, rest) ← readCounts state.mode rest
      pure (counts, skip state.mode rest)
  let (lazily, rest) := readLazy rest
  return (← repeatLast state least most lazily, rest)

/-! ### Single characters -/

/-- The expression for a character. -/
def literalExpr (mode : Mode) (c : Char) : Regex :=
  if !mode.ignoreCase then .char c
  else if mode.unicode then .set (Unicode.foldChar c)
  else .set ((CharSet.singleton c.toLower).union (.singleton c.toUpper))

/-- The expression for a dot. -/
def dotExpr (mode : Mode) : Except SyntaxError Regex :=
  if !mode.unicode then .error .notCharacters
  else if mode.dotAll then .ok (.set (CharSet.empty.complement))
  else if mode.crlf then .ok (.set (asciiSet [(0x0A, 0x0A), (0x0D, 0x0D)]).complement)
  else .ok (.set (CharSet.singleton '\n').complement)

/-- The condition that `^` stands for. -/
def caret (mode : Mode) : Assertion :=
  if !mode.multiline then .textStart else if mode.crlf then .lineStartCr else .lineStart

/-- The condition that `$` stands for. -/
def dollar (mode : Mode) : Assertion :=
  if !mode.multiline then .textEnd else if mode.crlf then .lineEndCr else .lineEnd

/-- Read an escape outside of classes. -/
def readEscaped (state : ReadState) (rest : List Char) : Step := do
  let (escape, rest) ← readEscape state.mode rest
  let expr : Regex := match escape with
    | .literal c => literalExpr state.mode c
    | .set chars => .set chars
    | .look assertion => .look assertion
  return (state.pushExpr expr, rest)

/-! ### Patterns -/

/-- Read what begins with `c`. -/
def readPart (state : ReadState) (c : Char) (rest : List Char) : Step :=
  match c with
  | '(' => readGroup state rest
  | ')' => closeGroup state rest
  | '|' => do return ({ state with current := ← state.current.next }, rest)
  | '[' => do
    let ((chars, depth), rest) ← readClass state.mode rest
    return (state.push (← Part.checked { expr := .set chars, depth }), rest)
  | '?' | '*' | '+' | '\x7b' => readRepetition state c rest
  | '\\' => readEscaped state rest
  | '.' => do return (state.pushExpr (← dotExpr state.mode), rest)
  | '^' => .ok (state.pushExpr (.look (caret state.mode)), rest)
  | '$' => .ok (state.pushExpr (.look (dollar state.mode)), rest)
  | c => .ok (state.pushExpr (literalExpr state.mode c), rest)

/-- Read a pattern to its end. -/
def readPattern : (fuel : Nat) → ReadState → List Char → Except SyntaxError Regex
  | 0, _, _ => .error .unexpectedEnd
  | fuel + 1, state, rest =>
    match skip state.mode rest with
    | [] =>
      match state.groups with
      | [] => do return (← state.current.close).expr
      | _ :: _ => .error .unclosedGroup
    | c :: rest => do
      let (state, rest) ← readPart state c rest
      readPattern fuel state rest

namespace Regex

/-- The expression that a pattern writes. -/
def ofPattern (pattern : List Char) : Except SyntaxError Regex :=
  readPattern (pattern.length + 1) {} pattern

end Regex

end Linear

end TextExpr
