import TextExpr.Text.Cursor
import TextExpr.Unicode.Property

/-!
# Assertions

Conditions on a position of a text that consume nothing. A line ends at a line feed; in the
stricter form it also ends at a carriage return, and the two together end one line.
-/

namespace TextExpr

/-- A condition on a position of a text. -/
inductive Assertion where
  /-- At the start of the text. -/
  | textStart
  /-- At the end of the text. -/
  | textEnd
  /-- At the start of a line. -/
  | lineStart
  /-- At the end of a line. -/
  | lineEnd
  /-- At the start of a line, where carriage returns end lines too. -/
  | lineStartCr
  /-- At the end of a line, where carriage returns end lines too. -/
  | lineEndCr
  /-- Between a word character and another character or an end of the text. -/
  | wordBoundary (ascii : Bool)
  /-- Not between a word character and another character or an end of the text. -/
  | notWordBoundary (ascii : Bool)
  /-- Where a word starts. -/
  | wordStart (ascii : Bool)
  /-- Where a word ends. -/
  | wordEnd (ascii : Bool)
  /-- Not after a word character. -/
  | wordStartHalf (ascii : Bool)
  /-- Not before a word character. -/
  | wordEndHalf (ascii : Bool)
deriving DecidableEq, Repr

namespace Assertion

/-- Whether a character belongs to words, of ASCII or at all. -/
def isWord (ascii : Bool) (c : Char) : Bool :=
  if c.toNat < 0x80 then c.isAlphanum || c == '_'
  else !ascii && Unicode.wordCharacters.contains c

/-- A word character comes before the position. -/
def wordBefore (ascii : Bool) (position : Cursor) : Bool :=
  position.lastChar?.any (isWord ascii)

/-- A word character comes after the position. -/
def wordAfter (ascii : Bool) (position : Cursor) : Bool :=
  position.char?.any (isWord ascii)

/-- Whether the condition holds at a position. -/
def holds (position : Cursor) : Assertion → Bool
  | textStart => position.before.isEmpty
  | textEnd => position.after.isEmpty
  | lineStart => position.before.isEmpty || position.lastChar? == some '\n'
  | lineEnd => position.after.isEmpty || position.char? == some '\n'
  | lineStartCr =>
    position.before.isEmpty || position.lastChar? == some '\n'
      || (position.lastChar? == some '\r' && position.char? != some '\n')
  | lineEndCr =>
    position.after.isEmpty || position.char? == some '\r'
      || (position.char? == some '\n' && position.lastChar? != some '\r')
  | wordBoundary ascii => wordBefore ascii position != wordAfter ascii position
  | notWordBoundary ascii => wordBefore ascii position == wordAfter ascii position
  | wordStart ascii => !wordBefore ascii position && wordAfter ascii position
  | wordEnd ascii => wordBefore ascii position && !wordAfter ascii position
  | wordStartHalf ascii => !wordBefore ascii position
  | wordEndHalf ascii => !wordAfter ascii position

end Assertion

end TextExpr
