import TextExpr.Pattern.Engine

/-!
# The plain text engine

Finds the source of a pattern as it stands. Every match has one capture group, which never takes
part in it.
-/

namespace TextExpr

namespace PlainText

/-- The leftmost occurrence of `needle` in `after`, which stands at the given byte offset. -/
def occurrence? (needle : List Char) : (after : List Char) → (offset : Nat) → Option Nat
  | [], offset => if needle.isEmpty then some offset else none
  | c :: after, offset =>
    if needle.isPrefixOf (c :: after) then some offset
    else occurrence? needle after (offset + c.utf8Size)

/-- The matcher for a plain text. -/
def matcher (needle : List Char) : Matcher where
  find position :=
    .ok <| (occurrence? needle position.after position.offset).map fun start =>
      [some ⟨start, start + byteLength needle⟩, none]

/-- The engine. -/
def engine : Engine where
  name := "literal"
  compile source _ := .ok (matcher source.toList)

end PlainText

end TextExpr
