import TextExpr.Json.Basic
import TextExpr.Text.Fields

/-!
# Scopes

The bindings that an expression sees. A scope inside another one keeps its own bindings apart: the
outer ones are reached only through path segments that name the outer scope. A path resolves to
the same value whether it is followed through the scopes or through the JSON value that shows
them.
-/

namespace TextExpr

/-- The binding of the value that an expression works on by default. -/
def valueName : String := "$$VALUE"

/-- The name under which a scope shows the scope around it. -/
def parentName : String := "$$PARENT_SCOPE"

/-- Bindings inside any number of outer scopes. -/
structure Scope where
  /-- The bindings of the scope itself. -/
  bindings : Members := []
  /-- The bindings of the scopes around it, the nearest first. -/
  outer : List Members := []
deriving Inhabited

namespace Scope

/-- The scope without bindings. -/
def empty : Scope := {}

/-- The scope with one more binding. -/
def bind (s : Scope) (name : String) (value : Json) : Scope :=
  { s with bindings := s.bindings.insert name value }

/-- The outermost scope in which only the current value is bound. -/
def withValue (value : Json) : Scope := empty.bind valueName value

/-- A scope inside this one in which only the current value is bound. -/
def child (s : Scope) (value : Json) : Scope :=
  ⟨[(valueName, value)], s.bindings :: s.outer⟩

/-- The scope around this one. -/
def parent? (s : Scope) : Option Scope :=
  match s.outer with
  | [] => none
  | bindings :: outer => some ⟨bindings, outer⟩

/-- How many scopes are around this one. -/
def depth (s : Scope) : Nat := s.outer.length

/-- The value bound to a name in this very scope. -/
def get? (s : Scope) (name : String) : Option Json := s.bindings.get? name

/-- The current value. -/
def value? (s : Scope) : Option Json := s.get? valueName

/-- The current value, or null where none is bound. -/
def current (s : Scope) : Json := s.value?.getD .null

/-- Bindings inside outer ones as an object. -/
def render (bindings : Members) : (outer : List Members) → Json
  | [] => .obj bindings
  | next :: outer => .obj (bindings.insert parentName (render next outer))

/-- The scope as an object, in which the scope around it is a member of its own. -/
def toJson (s : Scope) : Json := render s.bindings s.outer

end Scope

/-- The index that a path segment writes: decimal digits after an optional plus sign, below
2 ^ 64. -/
def index? (segment : String) : Option Nat :=
  let digits := match segment.toList with
    | '+' :: rest => rest
    | chars => chars
  if digits.isEmpty || !digits.all Char.isDigit then none
  else
    let n := digits.foldl (fun n c => 10 * n + (c.toNat - '0'.toNat)) 0
    if n < Nat.pow 2 64 then some n else none

namespace Json

/-- One step of a path: into an object by key, into an array by index. -/
def step? (segment : String) : Json → Option Json
  | .obj members => Members.get? members segment
  | .arr items => (index? segment).bind fun i => items[i]?
  | _ => none

/-- Follow a path into a value. -/
def at? : (segments : List String) → Json → Option Json
  | [], value => some value
  | segment :: rest, value => (value.step? segment).bind (at? rest)

end Json

namespace Scope

/-- A segment that names a binding and not a part of the current value. -/
def namesBinding (segment : String) : Bool := ['$', '$'].isPrefixOf segment.toList

/-- Follow a path. Segments that name the outer scope lead outwards as long as they lead the path;
what remains starts at a binding if it begins with two dollar signs, and at the current value
otherwise. -/
def follow : (segments : List String) → Scope → Option Json
  | [], s => some s.toJson
  | segment :: rest, s =>
    if segment = parentName then s.parent?.bind (follow rest)
    else if namesBinding segment then (s.get? segment).bind (Json.at? rest)
    else s.value?.bind (Json.at? (segment :: rest))

/-- The value at a path whose segments are separated by dots. -/
def resolve (s : Scope) (path : String) : Option Json := follow (textFields '.' path) s

end Scope

end TextExpr
