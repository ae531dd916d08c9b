import TextExpr.Backtrack.Plan

/-!
# The machine

A plan is carried out one step at a time. Where there are two ways to go on, one is taken and the
other is kept as a choice; when the way that was taken comes to nothing the last choice is. A
search fails for good when no choice is left, and it is given up after too many wrong turns.
-/

namespace TextExpr

namespace Backtrack

/-- What is remembered about the match so far. -/
structure Registers where
  /-- Where groups start. -/
  opened : Array (Option Nat)
  /-- Where groups end. -/
  closed : Array (Option Nat)
deriving Repr, DecidableEq

namespace Registers

/-- The registers before a search. -/
def initial (groupCount : Nat) : Registers where
  opened := Array.replicate groupCount none
  closed := Array.replicate groupCount none

/-- A group starts. -/
def openGroup (r : Registers) (group : Nat) (start : Option Nat) : Registers :=
  { r with opened := r.opened.setIfInBounds group start }

/-- A group ends. -/
def closeGroup (r : Registers) (group : Nat) (stop : Option Nat) : Registers :=
  { r with closed := r.closed.setIfInBounds group stop }

/-- A group covers what is given. -/
def setGroup (r : Registers) (group : Nat) (span : Option Span) : Registers :=
  (r.openGroup group (span.map Span.start)).closeGroup group (span.map Span.stop)

/-- Where a group starts. -/
def start? (r : Registers) (group : Nat) : Option Nat := (r.opened[group]?).join

/-- Where a group ends. -/
def stop? (r : Registers) (group : Nat) : Option Nat := (r.closed[group]?).join

/-- What a group covers. -/
def span? (r : Registers) (group : Nat) : Option Span := do
  some ⟨← r.start? group, ← r.stop? group⟩

/-- What the match and its groups cover. A match that is said to start after its end starts and
ends there. -/
def captures (r : Registers) : Captures :=
  match (List.range r.opened.size).map r.span? with
  | some whole :: groups => some ⟨min whole.start whole.stop, whole.stop⟩ :: groups
  | spans => spans

end Registers

/-- What is left to do after a part. -/
inductive Frame where
  /-- Carry out a plan. -/
  | run (plan : Plan)
  /-- A group ends. -/
  | closeGroup (group : Nat)
  /-- Go on at an earlier position. -/
  | restore (here : Cursor)
  /-- Give up the choices since the last mark. -/
  | commit
  /-- Give up the choices above a height and fail. -/
  | reject (height : Nat)
  /-- Go on with rounds after a number of them. -/
  | rounds (least : Nat) (most : Option Nat) (greedy : Bool) (body : Plan) (count : Nat)
  /-- Go on with the rounds of a guarded loop after a number of them, the last of which started
  at a byte offset. -/
  | guarded (least : Nat) (greedy : Bool) (body : Plan) (count start : Nat)

/-- A way that has not been taken. -/
structure Choice where
  /-- What is left to do. -/
  frames : List Frame
  /-- The position. -/
  here : Cursor
  /-- What is remembered about the match. -/
  registers : Registers
  /-- The heights at which atomic groups were entered. -/
  marks : List Nat

/-- A moment of a search. -/
structure Config extends Choice where
  /-- The ways that have not been taken, the last one first. -/
  choices : List Choice := []
  /-- The number of choices. -/
  height : Nat := 0
  /-- The number of wrong turns so far. -/
  turns : Nat := 0

/-- What a step comes to. -/
inductive Outcome where
  /-- The search goes on. -/
  | running (config : Config)
  /-- The search has ended with a match or without one. -/
  | ended (found : Option Registers)
  /-- The search is given up. -/
  | exhausted

/-- How many wrong turns a search may take, and how many choices it may keep. -/
def searchLimit : Nat := 1000000

namespace Config

/-- Go on with the last choice. -/
def fail (c : Config) : Outcome :=
  match c.choices with
  | [] => .ended none
  | choice :: choices =>
    if searchLimit ≤ c.turns then .exhausted
    else .running ⟨choice, choices, c.height - 1, c.turns + 1⟩

/-- Go on with frames. -/
def proceed (c : Config) (frames : List Frame) : Outcome := .running { c with frames }

/-- Go on with frames at a position, if there is one. -/
def proceedAt (c : Config) (frames : List Frame) : Option Cursor → Outcome
  | some here => .running { c with frames, here }
  | none => c.fail

/-- Go on with `taken` and keep `other` as a choice. -/
def choose (c : Config) (taken other : List Frame) : Outcome :=
  if searchLimit ≤ c.height then .exhausted
  else .running { c with
    frames := taken
    choices := { c.toChoice with frames := other } :: c.choices
    height := c.height + 1 }

/-- Go on with `preferred` and keep `other` as a choice, or the other way round. -/
def prefer (c : Config) (greedy : Bool) (preferred other : List Frame) : Outcome :=
  if greedy then c.choose preferred other else c.choose other preferred

/-- Give up the choices above a height. -/
def cut (c : Config) (height : Nat) : Config :=
  { c with choices := c.choices.drop (c.height - height), height := min c.height height }

end Config

/-- The position after a text that follows a position. -/
def after? : List Char → Cursor → Option Cursor
  | [], here => some here
  | ch :: text, here => if here.char? = some ch then here.next?.bind (after? text) else none

/-- The position a number of characters back. -/
def back? : Nat → Cursor → Option Cursor
  | 0, here => some here
  | count + 1, here => here.prev?.bind (back? count)

/-- The position after the text of a group, if that follows. A group that is entered again and
refers to itself has its new start and the end of the time before. If the start is the later one
there is no text between them, and the reference fails like one to a group that took no part. -/
def afterGroup? (r : Registers) (group : Nat) (here : Cursor) : Option Cursor := do
  let span ← r.span? group
  let first ← here.seek? span.start
  after? (← first.textTo? span.stop) here

/-- The position after a character for which a condition holds. -/
def afterChar? (condition : Char → Bool) (here : Cursor) : Option Cursor :=
  if here.char?.any condition then here.next? else none

/-- Carry out a plan, after which `frames` are left to do. The search started at the byte offset
`origin`. -/
def carryOut (origin : Nat) (c : Config) (frames : List Frame) : Plan → Outcome
  | .empty => c.proceed frames
  | .text chars => c.proceedAt frames (after? chars c.here)
  | .any newline => c.proceedAt frames (afterChar? (fun ch => newline || ch != '\n') c.here)
  | .chars set => c.proceedAt frames (afterChar? set.contains c.here)
  | .assertion condition => if condition.holds c.here then c.proceed frames else c.fail
  | .linear program groups =>
    match program.search true c.here with
    | none => c.fail
    | some found =>
      let spans := found.groups
      let registers := groups.zipIdx.foldl
        (fun r (group, i) => r.setGroup group (spans[i]?).join) c.registers
      { c with registers }.proceedAt frames (c.here.seek? found.whole.stop)
  | .seq first second => c.proceed (.run first :: .run second :: frames)
  | .either first second => c.choose (.run first :: frames) (.run second :: frames)
  | .group index body =>
    { c with registers := c.registers.openGroup index (some c.here.offset) }.proceed
      (.run body :: .closeGroup index :: frames)
  | .star greedy body => c.prefer greedy (.run body :: .run (.star greedy body) :: frames) frames
  | .rounds least most greedy body => c.proceed (.rounds least most greedy body 0 :: frames)
  | .guarded least greedy body =>
    c.proceed (.guarded least greedy body 0 c.here.offset :: frames)
  | .back count => c.proceedAt frames (back? count c.here)
  | .check body => c.proceed (.run body :: .restore c.here :: frames)
  | .refuse body => c.choose (.run body :: .reject c.height :: frames) frames
  | .backref group => c.proceedAt frames (afterGroup? c.registers group c.here)
  | .taken group => if (c.registers.start? group).isSome then c.proceed frames else c.fail
  | .atomic body => { c with marks := c.height :: c.marks }.proceed (.run body :: .commit :: frames)
  | .matchStart =>
    { c with registers := c.registers.openGroup 0 (some c.here.offset) }.proceed frames
  | .searchStart => if c.here.offset ≤ origin then c.proceed frames else c.fail
  | .conditional condition yes no =>
    { c with marks := c.height :: c.marks }.choose
      (.run condition :: .commit :: .run yes :: frames) (.run no :: frames)

/-- Do the first thing that is left to do. -/
def Config.step (origin : Nat) (c : Config) : Outcome :=
  match c.frames with
  | [] => .ended (some c.registers)
  | .run plan :: frames => carryOut origin c frames plan
  | .closeGroup group :: frames =>
    { c with registers := c.registers.closeGroup group (some c.here.offset) }.proceed frames
  | .restore here :: frames => c.proceedAt frames (some here)
  | .commit :: frames =>
    match c.marks with
    | [] => c.proceed frames
    | mark :: marks => ({ c with marks }.cut mark).proceed frames
  | .reject height :: _ => (c.cut height).fail
  | .rounds least most greedy body count :: frames =>
    let round := .run body :: .rounds least most greedy body (count + 1) :: frames
    if most = some count then c.proceed frames
    else if count < least then c.proceed round
    else c.prefer greedy round frames
  | .guarded least greedy body count start :: frames =>
    let round := .run body :: .guarded least greedy body (count + 1) c.here.offset :: frames
    if least < count ∧ start = c.here.offset then c.fail
    else if count < least then c.proceed round
    else c.prefer greedy round frames

/-- Take steps until the search ends. -/
def run (origin : Nat) : (fuel : Nat) → Config → Except EngineFailure (Option Registers)
  | 0, _ => .error .backtrackLimit
  | fuel + 1, c =>
    match c.step origin with
    | .running c => run origin fuel c
    | .ended found => .ok found
    | .exhausted => .error .backtrackLimit

/-- A bound for the number of steps that no search comes near. -/
def stepLimit : Nat := Nat.pow 2 62

/-- A compiled pattern. -/
structure Program where
  /-- How a match is found. -/
  plan : Plan
  /-- The number of groups, with the whole match. -/
  groupCount : Nat

namespace Program

/-- Search for a match from a position on. -/
def search (p : Program) (here : Cursor) : Except EngineFailure (Option Captures) :=
  let config : Config := {
    frames := [.run p.plan]
    here
    registers := .initial p.groupCount
    marks := [] }
  (run here.offset stepLimit config).map (·.map Registers.captures)

end Program

end Backtrack

end TextExpr
