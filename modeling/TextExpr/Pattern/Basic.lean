import TextExpr.Pattern.Engine

/-!
# Patterns

A pattern is given as a source, as a source with flags in an array, or as an object. Compiled, it
can be matched against a text, tested, used to replace and used to split. A compiled pattern
remembers nothing between searches: each search is given its position.
-/

namespace TextExpr

/-- A value that is accepted where a pattern is expected, by its shape. -/
inductive PatternCandidate where
  /-- A string. -/
  | source (source : String)
  /-- An array of a string, followed or not by flags or null. -/
  | pair (source : String) (flags : Option String)
  /-- An object with a source and possibly flags. -/
  | object (source : String) (flags : Option String)
deriving DecidableEq, Repr

namespace PatternCandidate

/-- The candidate that members describe: a string under `source`, a string or null under `flags`
if anything, and nothing else. -/
def ofMembers? (members : Members) : Option PatternCandidate :=
  if members.all fun entry => entry.1 == "source" || entry.1 == "flags" then
    match members.get? "source", members.get? "flags" with
    | some (.str s), none => some (.object s none)
    | some (.str s), some .null => some (.object s none)
    | some (.str s), some (.str flags) => some (.object s (some flags))
    | _, _ => none
  else none

/-- The shape of a value, if it is accepted as a pattern. -/
def classify? : Json → Option PatternCandidate
  | .str s => some (.source s)
  | .arr [.str s] => some (.pair s none)
  | .arr [.str s, .null] => some (.pair s none)
  | .arr [.str s, .str flags] => some (.pair s (some flags))
  | .obj members => ofMembers? members
  | _ => none

/-- The shape of a value that has to be a pattern. -/
def classify (value : Json) : Except EvalError PatternCandidate :=
  match classify? value with
  | some candidate => .ok candidate
  | none => .error (.invalidPatternCandidate value)

/-- The pattern source of a candidate. -/
def sourceText : PatternCandidate → String
  | source s | pair s _ | object s _ => s

/-- The flags of a candidate; absent flags are empty ones. -/
def flagText : PatternCandidate → String
  | source _ => ""
  | pair _ flags | object _ flags => flags.getD ""

end PatternCandidate

/-- A compiled pattern with what it was compiled from. -/
structure Pattern where
  /-- The name of the engine. -/
  engine : String
  /-- The source as it was given. -/
  source : String
  /-- The flags. -/
  flags : Flags
  /-- The compiled source. -/
  matcher : Matcher

namespace Pattern

/-- Compile a source under flags. The flags are looked at first. -/
def compile (engine : Engine) (source flags : String) : Except EvalError Pattern := do
  let parsed ← Flags.parse flags
  let matcher ← engine.compile source parsed
  return ⟨engine.name, source, parsed, matcher⟩

/-- The pattern that a value stands for. -/
def normalize (engine : Engine) (value : Json) : Except EvalError Pattern := do
  let candidate ← PatternCandidate.classify value
  compile engine candidate.sourceText candidate.flagText

/-- The pattern as a value, which `normalize` takes back. Empty flags are left out. -/
def toJson (p : Pattern) : Json :=
  let source : String × Json := ("source", .str p.source)
  if p.flags.text = "" then .obj [source] else .obj [("flags", .str p.flags.text), source]

/-- The pattern as a message shows it. -/
def describe (p : Pattern) : String :=
  "Pattern \x7b engine: " ++ quoted p.engine ++ ", source: " ++ quoted p.source ++ ", flags: "
    ++ p.flags.describe ++ " \x7d"

/-! ### Searching -/

/-- What has to be there; its absence means that a span was malformed. -/
def orMalformed {α : Type} : Option α → Except EvalError α
  | some a => .ok a
  | none => .error .malformedSpan

/-- One search from a position. A sticky pattern must match exactly there. -/
def searchAt (p : Pattern) (position : Cursor) : Except EvalError (Option Captures) := do
  let found ← p.matcher.find position
  return found.filter fun captures =>
    !p.flags.sticky || captures.whole.start == position.offset

/-- Where the search after a match goes on: at its end, or one character further if the match is
empty. Nothing comes after the end of the text. -/
def positionAfter (position : Cursor) (captures : Captures) : Except EvalError (Option Cursor) := do
  let stop ← orMalformed (position.seek? captures.whole.stop)
  return if captures.whole.isEmpty then stop.next? else some stop

/-- The matches from a position on; only the first one unless the pattern is global. -/
def matchesFrom (p : Pattern) : (fuel : Nat) → Option Cursor → Except EvalError (List Captures)
  | 0, _ => .error .endlessSearch
  | _ + 1, none => .ok []
  | fuel + 1, some position => do
    match ← p.searchAt position with
    | none => return []
    | some captures =>
      if p.flags.isGlobal then
        let next ← positionAfter position captures
        let later ← p.matchesFrom fuel next
        return captures :: later
      else return [captures]

/-- The matches in a text. A text has one position more than characters, and one search starts at
each at most, so a search that exceeds this number never ends. -/
def allMatches (p : Pattern) (text : List Char) : Except EvalError (List Captures) :=
  p.matchesFrom (text.length + 2) (some (Cursor.start text))

/-- The text that a span covers, or null for a group that takes no part. -/
def spanValue (position : Cursor) : Option Span → Except EvalError Json
  | none => .ok .null
  | some span => do
    let covered ← orMalformed (position.slice? span)
    return .str covered

/-- The texts of whole matches, in order. -/
def wholeTexts : (position : Cursor) → List Captures → Except EvalError (List Json)
  | _, [] => .ok []
  | position, captures :: later => do
    let first ← orMalformed (position.seek? captures.whole.start)
    let covered ← spanValue first (some captures.whole)
    let rest ← wholeTexts first later
    return covered :: rest

/-- The texts of all matches if the pattern is global; otherwise the text of the first match and
of its groups. -/
def matchIn (p : Pattern) (text : String) : Except EvalError (List Json) := do
  let found ← p.allMatches text.toList
  let start := Cursor.start text.toList
  if p.flags.isGlobal then wholeTexts start found
  else
    match found with
    | [] => return []
    | captures :: _ => captures.mapM (spanValue start)

/-- Whether the pattern matches somewhere in a text, or at its start if the pattern is sticky. -/
def test (p : Pattern) (text : String) : Except EvalError Bool :=
  if p.flags.sticky then (p.searchAt (Cursor.start text.toList)).map Option.isSome
  else p.matcher.isMatch text.toList

/-! ### Replacing -/

/-- Something called with the text of a match, which may remember its calls. -/
abbrev Replacement (σ : Type) := String → σ → Except EvalError String × σ

/-- The text before a match, the text of the match and the position after it. -/
def cut? (position : Cursor) (captures : Captures) : Option (String × String × Cursor) := do
  let span := captures.whole
  let gap ← position.textTo? span.start
  let first ← position.seek? span.start
  let matched ← first.textTo? span.stop
  let last ← first.seek? span.stop
  some (String.ofList gap, String.ofList matched, last)

/-- The parts of the text from a position on, each match exchanged for what the replacement gives
for it. -/
def splice {σ : Type} (replacement : Replacement σ) :
    (position : Cursor) → List Captures → σ → Except EvalError (List String) × σ
  | position, [], state => (.ok [position.remaining], state)
  | position, captures :: later, state =>
    match cut? position captures with
    | none => (.error .malformedSpan, state)
    | some (gap, matched, next) =>
      match replacement matched state with
      | (.error e, state) => (.error e, state)
      | (.ok output, state) =>
        match splice replacement next later state with
        | (.error e, state) => (.error e, state)
        | (.ok parts, state) => (.ok (gap :: output :: parts), state)

/-- The text with each match exchanged for what the replacement gives for it. All matches are
found before the replacement is called for the first one. -/
def replaceWith {σ : Type} (p : Pattern) (text : String) (replacement : Replacement σ)
    (state : σ) : Except EvalError String × σ :=
  match p.allMatches text.toList with
  | .error e => (.error e, state)
  | .ok found =>
    match splice replacement (Cursor.start text.toList) found state with
    | (.error e, state) => (.error e, state)
    | (.ok parts, state) => (.ok (String.join parts), state)

/-! ### Splitting -/

/-- The fragments from `last` on, with the groups of the matches between them, where the next
search starts at `position`. A match that ends at `last` does not split. -/
def fragmentsFrom (p : Pattern) : (fuel : Nat) → (last position : Cursor) →
    Except EvalError (List Json)
  | 0, _, _ => .error .endlessSearch
  | fuel + 1, last, position => do
    if position.atEnd then return [.str last.remaining]
    match ← p.matcher.find position with
    | none => return [.str last.remaining]
    | some captures =>
      let span := captures.whole
      let first ← orMalformed (position.seek? span.start)
      if first.atEnd then return [.str last.remaining]
      if span.stop = last.offset then
        let next ← orMalformed first.next?
        p.fragmentsFrom fuel last next
      else
        let (gap, _, next) ← orMalformed (cut? last captures)
        let groups ← captures.groups.mapM (spanValue first)
        let later ← p.fragmentsFrom fuel next next
        return .str gap :: groups ++ later

/-- The fragments of a text between matches, with the groups of the matches between them. The
flags for finding every match and for matching in place are not looked at. -/
def split (p : Pattern) (text : String) : Except EvalError (List Json) :=
  let chars := text.toList
  let start := Cursor.start chars
  if start.atEnd then do
    let found ← p.matcher.find start
    return if found.isSome then [] else [.str ""]
  else p.fragmentsFrom ((chars.length + 2) * (chars.length + 2)) start start

end Pattern

end TextExpr
