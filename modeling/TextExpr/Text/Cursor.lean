/-!
# Cursors

A cursor is a position between two characters of a text. It keeps the characters on both sides,
so moving by one character costs the same everywhere, and it knows how many bytes of UTF-8
precede it. A cursor cannot stand inside a character: an offset that is no character boundary of
the text is refused by `Cursor.seek?`.
-/

namespace TextExpr

/-- The number of bytes of a text in UTF-8. -/
def byteLength : List Char → Nat
  | [] => 0
  | c :: text => c.utf8Size + byteLength text

@[simp] theorem byteLength_nil : byteLength [] = 0 := rfl

@[simp] theorem byteLength_cons (c : Char) (text : List Char) :
    byteLength (c :: text) = c.utf8Size + byteLength text := rfl

@[simp] theorem byteLength_append (s t : List Char) :
    byteLength (s ++ t) = byteLength s + byteLength t := by
  induction s with
  | nil => simp
  | cons c s ih => simp [ih, Nat.add_assoc]

@[simp] theorem byteLength_reverse (s : List Char) : byteLength s.reverse = byteLength s := by
  induction s with
  | nil => rfl
  | cons c s ih => simp [ih, Nat.add_comm]

/-- A range of byte offsets. -/
structure Span where
  /-- The offset of the first byte. -/
  start : Nat
  /-- The offset after the last byte. -/
  stop : Nat
deriving DecidableEq, Repr, Inhabited

namespace Span

/-- A span of no bytes. -/
def isEmpty (s : Span) : Bool := s.stop ≤ s.start

end Span

/-- A position in a text. -/
structure Cursor where
  /-- The characters before the position, the nearest first. -/
  before : List Char
  /-- The characters after the position. -/
  after : List Char
  /-- The number of bytes before the position. -/
  offset : Nat
  /-- The offset counts the characters before the position. -/
  offset_eq : offset = byteLength before := by simp
deriving DecidableEq

namespace Cursor

/-- The position before the first character. -/
def start (text : List Char) : Cursor := ⟨[], text, 0, rfl⟩

/-- The text in which the position lies. -/
def text (c : Cursor) : List Char := c.before.reverse ++ c.after

/-- No character follows. -/
def atEnd (c : Cursor) : Bool := c.after.isEmpty

/-- The character after the position. -/
def char? (c : Cursor) : Option Char := c.after.head?

/-- The character before the position. -/
def lastChar? (c : Cursor) : Option Char := c.before.head?

/-- One character further. -/
def next? : Cursor → Option Cursor
  | ⟨_, [], _, _⟩ => none
  | ⟨before, ch :: after, offset, h⟩ =>
    some ⟨ch :: before, after, offset + ch.utf8Size, by simp [h, Nat.add_comm]⟩

/-- One character back. -/
def prev? : Cursor → Option Cursor
  | ⟨[], _, _, _⟩ => none
  | ⟨ch :: before, after, offset, h⟩ =>
    some ⟨before, ch :: after, offset - ch.utf8Size, by simp [h]⟩

/-- The position at byte offset `target` among those from here on. -/
def seekRight? (target : Nat) :
    (after before : List Char) → (offset : Nat) → offset = byteLength before → Option Cursor
  | [], before, offset, h => if offset = target then some ⟨before, [], offset, h⟩ else none
  | ch :: after, before, offset, h =>
    if offset = target then some ⟨before, ch :: after, offset, h⟩
    else if target < offset then none
    else seekRight? target after (ch :: before) (offset + ch.utf8Size) (by simp [h, Nat.add_comm])

/-- The position at byte offset `target` among those up to here. -/
def seekLeft? (target : Nat) :
    (before after : List Char) → (offset : Nat) → offset = byteLength before → Option Cursor
  | [], after, offset, h => if offset = target then some ⟨[], after, offset, h⟩ else none
  | ch :: before, after, offset, h =>
    if offset = target then some ⟨ch :: before, after, offset, h⟩
    else if offset < target then none
    else seekLeft? target before (ch :: after) (offset - ch.utf8Size) (by simp [h])

/-- The position of the same text at byte offset `target`, if that is a character boundary. -/
def seek? (c : Cursor) (target : Nat) : Option Cursor :=
  if c.offset ≤ target then seekRight? target c.after c.before c.offset c.offset_eq
  else seekLeft? target c.before c.after c.offset c.offset_eq

/-- The characters that make up exactly `bytes` bytes at the start of a text. -/
def takeBytes? : (bytes : Nat) → List Char → Option (List Char)
  | 0, _ => some []
  | _ + 1, [] => none
  | bytes + 1, ch :: rest =>
    if ch.utf8Size ≤ bytes + 1 then (takeBytes? (bytes + 1 - ch.utf8Size) rest).map (ch :: ·)
    else none
termination_by structural _ rest => rest

/-- The characters from here to byte offset `stop`, if that is a character boundary not before
here. -/
def textTo? (c : Cursor) (stop : Nat) : Option (List Char) :=
  if c.offset ≤ stop then takeBytes? (stop - c.offset) c.after else none

/-- The part of the text that a span covers, if it runs forward between character boundaries. -/
def slice? (c : Cursor) (span : Span) : Option String := do
  let first ← c.seek? span.start
  let chars ← first.textTo? span.stop
  some (String.ofList chars)

/-- The text from here to its end. -/
def remaining (c : Cursor) : String := String.ofList c.after

/-- The number of characters between this position and the end of the text. -/
def distance (c : Cursor) : Nat := c.after.length

@[simp] theorem text_start (text : List Char) : (start text).text = text := by
  simp [start, Cursor.text]

/-- Moving on keeps the text. -/
theorem text_next? {c d : Cursor} (h : c.next? = some d) : d.text = c.text := by
  unfold next? at h
  split at h
  · simp at h
  · obtain rfl := Option.some.inj h
    simp [Cursor.text]

/-- Moving back keeps the text. -/
theorem text_prev? {c d : Cursor} (h : c.prev? = some d) : d.text = c.text := by
  unfold prev? at h
  split at h
  · simp at h
  · obtain rfl := Option.some.inj h
    simp [Cursor.text]

end Cursor

end TextExpr
