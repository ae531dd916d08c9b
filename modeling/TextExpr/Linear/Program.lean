import TextExpr.Linear.Regex

/-!
# Programs

An expression as an automaton: numbered nodes that lead to each other. Of the two ways out of a
fork the first one counts for more. Compilation goes from the end of an expression to its start,
so that each part knows the node that follows it.
-/

namespace TextExpr

namespace Linear

/-- A node of an automaton. -/
inductive Node where
  /-- Takes one character of a set. -/
  | chars (set : CharSet) (next : Nat)
  /-- Takes nothing where a condition holds. -/
  | look (assertion : Assertion) (next : Nat)
  /-- Goes on in two ways. -/
  | fork (first second : Nat)
  /-- A capture group starts. -/
  | openGroup (index : Nat) (next : Nat)
  /-- A capture group ends. -/
  | closeGroup (index : Nat) (next : Nat)
  /-- The match ends. -/
  | accept
deriving Repr, Inhabited

/-- An automaton. -/
structure Program where
  /-- The nodes by their numbers. -/
  nodes : Array Node
  /-- Where matches start. -/
  start : Nat
  /-- The number of capture groups. -/
  groupCount : Nat

/-- The nodes so far and the one that an expression starts with. -/
structure Fragment where
  /-- The nodes by their numbers. -/
  nodes : Array Node
  /-- Where the expression starts. -/
  start : Nat

namespace Fragment

/-- One more node, which is the start. -/
def push (fragment : Fragment) (node : Node) : Fragment :=
  let number := fragment.nodes.size
  ⟨fragment.nodes.push node, number⟩

/-- A fork that prefers `body` if greedy, and else `exit`. -/
def fork (greedy : Bool) (body exit : Nat) : Node :=
  if greedy then .fork body exit else .fork exit body

end Fragment

namespace Regex

/-- Put `count` copies in front of a fragment. -/
def copies (compile : Fragment → Fragment) : (count : Nat) → Fragment → Fragment
  | 0, fragment => fragment
  | count + 1, fragment => copies compile count (compile fragment)

/-- At least one round: after each round a fork goes back to the body or on. Gives the fork last
and the start of the body first. -/
def plus (compile : Fragment → Fragment) (greedy : Bool) (next : Fragment) : Fragment × Nat :=
  let ⟨nodes, exit⟩ := next
  let fork := nodes.size
  let ⟨nodes, start⟩ := compile ⟨nodes.push .accept, fork⟩
  (⟨nodes.setIfInBounds fork (Fragment.fork greedy start exit), start⟩, fork)

/-- Up to `count` rounds, any of which may be the last; all of them leave for the same node. -/
def optionals (compile : Fragment → Fragment) (greedy : Bool) (exit : Nat) :
    (count : Nat) → Fragment → Fragment
  | 0, next => next
  | count + 1, next =>
    let body := compile (optionals compile greedy exit count next)
    body.push (Fragment.fork greedy body.start exit)

/-- Put a repetition in front of a fragment. A body that may match the empty text has a fork of
its own for no round at all, so that the preference among its alternatives is kept. -/
def rounds (compile : Fragment → Fragment) (nullable : Bool) (least : Nat) (most : Option Nat)
    (greedy : Bool) (next : Fragment) : Fragment :=
  match least, most with
  | 0, none =>
    let exit := next.start
    let (body, fork) := plus compile greedy next
    if nullable then body.push (Fragment.fork greedy body.start exit)
    else { body with start := fork }
  | least + 1, none => copies compile least (plus compile greedy next).1
  | least, some most =>
    copies compile least (optionals compile greedy next.start (most - least) next)

/-- Put an expression in front of a fragment. -/
def compile : Regex → Fragment → Fragment
  | empty, next => next
  | set chars, next => next.push (.chars chars next.start)
  | look assertion, next => next.push (.look assertion next.start)
  | seq a b, next => compile a (compile b next)
  | alt a b, next =>
    let exit := next.start
    let ⟨nodes, second⟩ := compile b next
    let body := compile a ⟨nodes, exit⟩
    body.push (.fork body.start second)
  | rep least most greedy body, next =>
    rounds (compile body) body.nullable least most greedy next
  | group index body, next =>
    let inner := compile body (next.push (.closeGroup index next.start))
    inner.push (.openGroup index inner.start)

/-- The automaton of an expression. -/
def program (e : Regex) : Program :=
  let fragment := e.compile ⟨#[.accept], 0⟩
  ⟨fragment.nodes, fragment.start, e.groupCount⟩

end Regex

end Linear

end TextExpr
