import TextExpr.Linear.Regex

/-!
# Sizes

How many bytes the automaton of an expression takes. The automaton is counted as one that reads
bytes of UTF-8: a set of characters is counted as sequences of ranges of bytes that share what they
begin with. An automaton is counted twice, as one that runs forwards and keeps the groups and as
one that runs backwards and does not, and the larger count is the size.
-/

namespace TextExpr

namespace Linear

/-- The ranges of bytes that characters of a range are encoded by, one for each byte. -/
abbrev ByteRanges := List (Nat × Nat)

/-- The bytes of the encoding of a code point. -/
def encodedBytes (x : Nat) : List Nat :=
  if x < 0x80 then [x]
  else if x < 0x800 then [0xC0 + x / 0x40, 0x80 + x % 0x40]
  else if x < 0x10000 then [0xE0 + x / 0x1000, 0x80 + x / 0x40 % 0x40, 0x80 + x % 0x40]
  else [0xF0 + x / 0x40000, 0x80 + x / 0x1000 % 0x40, 0x80 + x / 0x40 % 0x40, 0x80 + x % 0x40]

/-- The greatest code point below `hi` at which a range from `lo` has to be cut, so that the part
up to there has encodings of one length that differ in trailing bytes of every value. -/
def cutBefore? (lo hi : Nat) : Option Nat :=
  match [0x7F, 0x7FF, 0xFFFF].find? fun m => lo ≤ m && m < hi with
  | some m => some m
  | none =>
    if hi < 0x80 then none
    else
      [0x40, 0x1000, 0x40000].findSome? fun block =>
        if lo / block = hi / block then none
        else if lo % block ≠ 0 then some (lo / block * block + block - 1)
        else if hi % block ≠ block - 1 then some (hi / block * block - 1)
        else none

/-- A range of code points as ranges of bytes. -/
def byteSequences : (fuel : Nat) → (lo hi : Nat) → List ByteRanges
  | 0, _, _ => []
  | fuel + 1, lo, hi =>
    match cutBefore? lo hi with
    | some m => byteSequences fuel lo m ++ byteSequences fuel (m + 1) hi
    | none => [(encodedBytes lo).zip (encodedBytes hi)]

/-- The number of ranges at the start of two sequences that are the same. -/
def sharedLength : ByteRanges → ByteRanges → Nat
  | r :: rs, s :: ss => if r = s then sharedLength rs ss + 1 else 0
  | _, _ => 0

/-- The number of ranges in sequences, where a sequence shares with the one before it what both
begin with. -/
def rangeCount (before : ByteRanges) : List ByteRanges → Nat
  | [] => 0
  | s :: ss => (s.length - sharedLength before s) + rangeCount s ss

/-- The size of a set of characters. -/
def setSize (backwards : Bool) (chars : CharSet) : Nat :=
  let ranges := chars.ranges.toList
  match ranges with
  | [r] => if r.lo = r.hi then 32 * (encodedBytes r.lo).length else wide ranges
  | _ => wide ranges
where
  /-- The size of a set of any number of characters. -/
  wide (ranges : List CodeRange) : Nat :=
    if chars.isAscii then 64 + 8 * ranges.length
    else if backwards then
      let sequences := ranges.flatMap fun r => byteSequences 32 r.lo r.hi
      64 + 4 * sequences.length + 32 * rangeCount [] sequences
    else 64

/-- A size, together with the number of alternatives that are not yet joined. -/
structure Size where
  /-- The number of alternatives. -/
  branches : Nat
  /-- The number of bytes without what joins the alternatives. -/
  bytes : Nat

namespace Size

/-- The number of bytes with what joins the alternatives. -/
def total (size : Size) : Nat :=
  if size.branches ≤ 1 then size.bytes else size.bytes + 64 + 4 * size.branches

end Size

namespace Regex

/-- The size of an expression. -/
def size (backwards : Bool) : Regex → Size
  | empty => ⟨1, 32⟩
  | set chars => ⟨1, setSize backwards chars⟩
  | look _ => ⟨1, 32⟩
  | seq a b => ⟨1, (size backwards a).total + (size backwards b).total⟩
  | alt a b =>
    let first := size backwards a
    let second := size backwards b
    ⟨first.branches + second.branches, first.bytes + second.bytes⟩
  | rep least most _ body =>
    let round := (size backwards body).total
    match most with
    | none =>
      if least = 0 && body.nullable then ⟨1, round + 112⟩
      else ⟨1, max least 1 * round + 40⟩
    | some most =>
      ⟨1, least * round + if least < most then 32 + (most - least) * (40 + round) else 0⟩
  | group _ body => ⟨1, (size backwards body).total + if backwards then 0 else 64⟩

/-- The greatest size of an expression that is compiled. -/
def sizeLimit : Nat := 10 * 1024 * 1024

/-- The expression is small enough to be compiled. -/
def fits (e : Regex) : Bool :=
  (e.size false).total ≤ sizeLimit && (e.size true).total ≤ sizeLimit

end Regex

end Linear

end TextExpr
