import TextExpr.Linear.Program
import TextExpr.Pattern.Engine

/-!
# Search

An automaton is run over a text with all its threads side by side, one character at a time. The
threads are kept in order of preference and at most one of them stands at each node, so the work
for a character is bounded by the size of the automaton. A thread that has matched ends those
after it; the match of a thread before it may still replace its own.
-/

namespace TextExpr

namespace Linear

/-- A thread. -/
structure Thread where
  /-- The node at which the thread stands. -/
  node : Nat
  /-- The offset at which the match starts. -/
  origin : Nat
  /-- The offsets at which capture groups were opened last. -/
  opened : Array Nat
  /-- What the capture groups cover. -/
  groups : Array (Option Span)

namespace Thread

/-- The thread at another node. -/
def goto (thread : Thread) (node : Nat) : Thread := { thread with node }

/-- The thread after a capture group is opened. -/
def openGroup (thread : Thread) (index offset : Nat) : Thread :=
  { thread with opened := thread.opened.setIfInBounds index offset }

/-- The thread after a capture group is closed. -/
def closeGroup (thread : Thread) (index offset : Nat) : Thread :=
  let span := (thread.opened[index]?).map fun start => ⟨start, offset⟩
  { thread with groups := thread.groups.setIfInBounds index span }

/-- The match of a thread that ends at an offset. -/
def captures (thread : Thread) (offset : Nat) : Captures :=
  some ⟨thread.origin, offset⟩ :: thread.groups.toList

end Thread

/-- What the threads come to at one position. -/
structure Closure where
  /-- The match of the thread that ends the others. -/
  found : Option Captures
  /-- The threads that wait for a character, the last first: each with the characters that it
  takes, standing at the node to which they lead. -/
  waiting : List (CharSet × Thread)
  /-- The nodes that were visited, marked with the number of the position. -/
  seen : Array Nat

namespace Program

/-- Follow threads, the preferred first, up to the nodes that take a character; at most one thread
visits each node. -/
def follow (p : Program) (here : Cursor) (mark : Nat) :
    (fuel : Nat) → List Thread → List (CharSet × Thread) → Array Nat → Closure
  | 0, _, waiting, seen => ⟨none, waiting, seen⟩
  | _ + 1, [], waiting, seen => ⟨none, waiting, seen⟩
  | fuel + 1, thread :: threads, waiting, seen =>
    if seen[thread.node]? == some mark then p.follow here mark fuel threads waiting seen
    else
      let seen := seen.setIfInBounds thread.node mark
      match p.nodes[thread.node]? with
      | none => p.follow here mark fuel threads waiting seen
      | some (.chars set next) =>
        p.follow here mark fuel threads ((set, thread.goto next) :: waiting) seen
      | some (.look assertion next) =>
        if assertion.holds here then
          p.follow here mark fuel (thread.goto next :: threads) waiting seen
        else p.follow here mark fuel threads waiting seen
      | some (.fork first second) =>
        p.follow here mark fuel (thread.goto first :: thread.goto second :: threads) waiting seen
      | some (.openGroup index next) =>
        p.follow here mark fuel
          ((thread.openGroup index here.offset).goto next :: threads) waiting seen
      | some (.closeGroup index next) =>
        p.follow here mark fuel
          ((thread.closeGroup index here.offset).goto next :: threads) waiting seen
      | some .accept => ⟨some (thread.captures here.offset), waiting, seen⟩

/-- The thread of a match that starts at a position. -/
def thread (p : Program) (here : Cursor) : Thread where
  node := p.start
  origin := here.offset
  opened := Array.replicate p.groupCount here.offset
  groups := Array.replicate p.groupCount none

/-- Run threads from a position on, with the characters that follow it; unless anchored, and as
long as there is no match, a match may start at each later position. -/
def run (p : Program) (anchored : Bool) :
    (ahead : List Char) → (here : Cursor) → List Thread → (found : Option Captures) →
      (seen : Array Nat) → Option Captures
  | ahead, here, threads, found, seen =>
    let closure :=
      p.follow here (here.offset + 1) (2 * p.nodes.size + threads.length + 1) threads [] seen
    let found := closure.found.or found
    match ahead, here.next? with
    | c :: ahead, some next =>
      let stepped := closure.waiting.foldl
        (fun later entry => if entry.1.contains c then entry.2 :: later else later) []
      let threads := if anchored || found.isSome then stepped else stepped ++ [p.thread next]
      if threads.isEmpty then found else p.run anchored ahead next threads found closure.seen
    | _, _ => found

/-- The match that starts earliest at or after a position, and among those that start there the
preferred one; if anchored, only a match that starts at the position counts. -/
def search (p : Program) (anchored : Bool) (here : Cursor) : Option Captures :=
  p.run anchored here.after here [p.thread here] none (Array.replicate p.nodes.size 0)

end Program

end Linear

end TextExpr
