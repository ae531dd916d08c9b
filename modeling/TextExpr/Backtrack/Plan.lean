import TextExpr.Backtrack.Parser
import TextExpr.Linear.Parser
import TextExpr.Linear.Search
import TextExpr.Linear.Size

/-!
# Plans

How the matches of a tree are tried one after the other. Parts that need no backtracking are left
to the linear engine, which finds the one match of them that is preferred; so a part is given to it
only where no other match of it can be asked for.
-/

namespace TextExpr

namespace Backtrack

/-- How a part of a pattern is matched. -/
inductive Plan where
  /-- Nothing is to be done. -/
  | empty
  /-- A fixed text. -/
  | text (chars : List Char)
  /-- Any character, or any but a line feed. -/
  | any (newline : Bool)
  /-- One character of a set. -/
  | chars (set : CharSet)
  /-- A condition on the position. -/
  | assertion (condition : Assertion)
  /-- The preferred match of an automaton, whose groups are those of the given indices. -/
  | linear (program : Linear.Program) (groups : List Nat)
  /-- One plan after the other. -/
  | seq (first second : Plan)
  /-- The first plan or, if that comes to nothing, the second. -/
  | either (first second : Plan)
  /-- A capture group. -/
  | group (index : Nat) (body : Plan)
  /-- Any number of rounds of a body that takes at least one character. -/
  | star (greedy : Bool) (body : Plan)
  /-- Between `least` and `most` rounds. -/
  | rounds (least : Nat) (most : Option Nat) (greedy : Bool) (body : Plan)
  /-- At least `least` rounds of a body that may take nothing. A round that was not required and
  took nothing comes to nothing. -/
  | guarded (least : Nat) (greedy : Bool) (body : Plan)
  /-- A number of characters back. -/
  | back (count : Nat)
  /-- The body matches here; the position is kept. -/
  | check (body : Plan)
  /-- The body does not match here. -/
  | refuse (body : Plan)
  /-- The text of a group. -/
  | backref (group : Nat)
  /-- A group has taken part. -/
  | taken (group : Nat)
  /-- The first match of the body and no other. -/
  | atomic (body : Plan)
  /-- The match is said to start here. -/
  | matchStart
  /-- The search started here. -/
  | searchStart
  /-- One of two branches, after or instead of a condition. -/
  | conditional (condition yes no : Plan)
deriving Inhabited

namespace Plan

/-- Plans one after the other. -/
def sequence : List Plan → Plan
  | [] => empty
  | [plan] => plan
  | plan :: plans => seq plan (sequence plans)

/-- The first of several plans that comes to something. -/
def firstOf : List Plan → Plan
  | [] => empty
  | [plan] => plan
  | plan :: plans => either plan (firstOf plans)

/-- The plan for a pattern of the linear engine with groups of the given indices. -/
def ofPattern (pattern : List Char) (groups : List Nat) : Except PatternError Plan :=
  match Linear.Regex.ofPattern pattern with
  | .error _ => .error .part
  | .ok e =>
    if !e.fits then .error .part
    else
      match e with
      | .empty => .ok empty
      | .set set => .ok (chars set)
      | .look condition => .ok (assertion condition)
      | e => .ok (linear e.program groups)

end Plan

namespace Tree

/-- The plan for parts that stand next to each other and need no backtracking. -/
def easyPlan (parts : List Tree) : Except PatternError Plan :=
  match parts with
  | [] => .ok .empty
  | parts =>
    match fixedTextOfAll? parts with
    | some text => .ok (.text text)
    | none => Plan.ofPattern (parts.flatMap (written 1)) (groupsOfAll parts)

/-- How many of the parts at the start, and how many of the others at the end, are left to the
linear engine. In a place where other matches may be asked for, only parts of one length are. -/
def easyEnds (references : List Nat) (isHard : Bool) (parts : List Tree) : Nat × Nat :=
  let shapes := parts.map (shape references)
  let start := shapes.takeWhile Shape.isFixed
  let isLast := fun (s : Shape) => if isHard then s.isFixed else !s.isHard
  (start.length, ((shapes.drop start.length).reverse.takeWhile isLast).length)

/-- The plan for a repetition whose body has the given shape and plan. -/
def repeatPlan (least : Nat) (most : Option Nat) (greedy : Bool) (body : Shape) (plan : Plan) :
    Plan :=
  match least, most with
  | 0, some 1 => if greedy then .either plan .empty else .either .empty plan
  | _, none =>
    if body.least = 0 then .guarded least greedy plan
    else if least = 0 then .star greedy plan
    else if least = 1 then .seq plan (.star greedy plan)
    else .rounds least none greedy plan
  | _, some _ => .rounds least most greedy plan

/-- The plan for a body that precedes or follows a position. A body that precedes it has to be of
one length. -/
def aroundPlan (behind : Bool) (shape : Shape) (body : Plan) : Except PatternError Plan :=
  if !behind then return body
  else if shape.isConstant then return .seq (.back shape.least.toNat) body
  else throw .lookBehind

mutual

/-- The plan for a part. In a hard place other matches of the part than the preferred one may be
asked for. -/
def plan (references : List Nat) (isHard : Bool) (tree : Tree) : Except PatternError Plan :=
  let easy := !isHard && !(tree.shape references).isHard
  match tree with
  | .empty => return .empty
  | .any newline => return .any newline
  | .literal c ignoreCase => easyPlan [.literal c ignoreCase]
  | .assertion condition => return .assertion condition
  | .chars source ignoreCase => easyPlan [.chars source ignoreCase]
  | .concat parts =>
    if easy then easyPlan [.concat parts]
    else do
      let (start, last) := easyEnds references isHard parts
      let middle := parts.length - start - last
      let first ← easyPlan (parts.take start)
      let plans ← planParts references start middle parts
      let last ← easyPlan (parts.drop (start + middle))
      return .seq first (.seq (.sequence plans) last)
  | .alt branches =>
    if easy then easyPlan [.alt branches]
    else do return .firstOf (← planBranches references isHard branches)
  | .group index body =>
    if easy then easyPlan [.group index body]
    else do return .group index (← plan references isHard body)
  | .rep least most greedy body =>
    if easy then easyPlan [.rep least most greedy body]
    else do
      let shape := body.shape references
      let inner := if least = 0 ∧ most = some 1 then isHard else isHard || shape.isHard
      return repeatPlan least most greedy shape (← plan references inner body)
  | .look behind negated body@(.alt branches) => do
    let shape := body.shape references
    if behind && !shape.isConstant then
      let plans ← planAround references branches
      return if negated then .sequence (plans.map .refuse) else .firstOf (plans.map .check)
    else
      let body ← aroundPlan behind shape (← plan references false body)
      return if negated then .refuse body else .check body
  | .look behind negated body => do
    let body ← aroundPlan behind (body.shape references) (← plan references false body)
    return if negated then .refuse body else .check body
  | .backref target => return .backref target
  | .taken target => return .taken target
  | .atomic body => do return .atomic (← plan references false body)
  | .matchStart => return .matchStart
  | .searchStart => return .searchStart
  | .conditional condition yes no => do
    let condition ← plan references isHard condition
    let yes ← plan references isHard yes
    let no ← plan references isHard no
    return .conditional condition yes no

/-- The plans for some parts in a hard place: `skip` parts are left out and `count` are taken. -/
def planParts (references : List Nat) (skip count : Nat) :
    List Tree → Except PatternError (List Plan)
  | [] => return []
  | part :: parts =>
    match skip, count with
    | skip + 1, count => planParts references skip count parts
    | 0, 0 => return []
    | 0, count + 1 => do
      let first ← plan references true part
      return first :: (← planParts references 0 count parts)

/-- The plans for branches. -/
def planBranches (references : List Nat) (isHard : Bool) :
    List Tree → Except PatternError (List Plan)
  | [] => return []
  | branch :: branches => do
    let first ← plan references isHard branch
    return first :: (← planBranches references isHard branches)

/-- The plans for branches that precede a position, each of one length. -/
def planAround (references : List Nat) : List Tree → Except PatternError (List Plan)
  | [] => return []
  | branch :: branches => do
    let first ← aroundPlan true (branch.shape references) (← plan references false branch)
    return first :: (← planAround references branches)

end

end Tree

end Backtrack

end TextExpr
