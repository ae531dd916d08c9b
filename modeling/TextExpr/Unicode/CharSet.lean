/-!
# Sets of characters

A set of characters is kept as increasing ranges of code points with a gap between each two.
Surrogate code points are no characters, so no range reaches into them.
-/

namespace TextExpr

/-- The code points from `lo` to `hi`, both included. -/
structure CodeRange where
  /-- The least code point. -/
  lo : Nat
  /-- The greatest code point. -/
  hi : Nat
deriving DecidableEq, Repr, Inhabited

namespace CodeRange

/-- The parts of a range that are characters. -/
def characters (r : CodeRange) : List CodeRange :=
  let low : CodeRange := ⟨r.lo, min r.hi 0xD7FF⟩
  let high : CodeRange := ⟨max r.lo 0xE000, min r.hi 0x10FFFF⟩
  (if low.lo ≤ low.hi then [low] else []) ++ if high.lo ≤ high.hi then [high] else []

/-- Two lists of ranges, each in order of their least code points, as one such list. -/
def merge : List CodeRange → List CodeRange → List CodeRange
  | [], ys => ys
  | x :: xs, ys => insert x xs (merge xs) ys
where
  /-- Put `x` and then the merged rest at its place in `ys`. -/
  insert (x : CodeRange) (xs : List CodeRange) (rest : List CodeRange → List CodeRange) :
      List CodeRange → List CodeRange
    | [] => x :: xs
    | y :: ys => if x.lo ≤ y.lo then x :: rest (y :: ys) else y :: insert x xs rest ys

/-- Join ranges, given in order of their least code points, that overlap or touch. -/
def coalesce : List CodeRange → List CodeRange
  | [] => []
  | r :: rs => join r rs
where
  /-- Join to `r` what overlaps or touches it. -/
  join (r : CodeRange) : List CodeRange → List CodeRange
    | [] => [r]
    | s :: rs =>
      if s.lo ≤ r.hi + 1 then join ⟨r.lo, max r.hi s.hi⟩ rs else r :: join s rs

/-- The ranges between the given ones, from code point `low` on. -/
def gaps (low : Nat) : List CodeRange → List CodeRange
  | [] => if low ≤ 0x10FFFF then [⟨low, 0x10FFFF⟩] else []
  | r :: rs => if low < r.lo then ⟨low, r.lo - 1⟩ :: gaps (r.hi + 1) rs else gaps (r.hi + 1) rs

end CodeRange

/-- A set of characters. -/
structure CharSet where
  /-- Increasing ranges with a gap between each two. -/
  ranges : Array CodeRange
deriving DecidableEq, Repr, Inhabited

namespace CharSet

/-- The set without characters. -/
def empty : CharSet := ⟨#[]⟩

/-- The set of one character. -/
def singleton (c : Char) : CharSet := ⟨#[⟨c.toNat, c.toNat⟩]⟩

/-- The characters in any of the ranges, which may come in any order and overlap. -/
def ofRanges (rs : List CodeRange) : CharSet :=
  let sorted := (rs.flatMap CodeRange.characters).foldr (fun r acc => CodeRange.merge [r] acc) []
  ⟨(CodeRange.coalesce sorted).toArray⟩

/-- The characters from `lo` to `hi`. -/
def interval (lo hi : Char) : CharSet := ofRanges [⟨lo.toNat, hi.toNat⟩]

/-- The characters of either set. -/
def union (s t : CharSet) : CharSet :=
  ⟨(CodeRange.coalesce (CodeRange.merge s.ranges.toList t.ranges.toList)).toArray⟩

/-- The characters that the set lacks. -/
def complement (s : CharSet) : CharSet :=
  ⟨((CodeRange.gaps 0 s.ranges.toList).flatMap CodeRange.characters).toArray⟩

/-- The characters of both sets. -/
def inter (s t : CharSet) : CharSet := (s.complement.union t.complement).complement

/-- The characters of the first set that the second lacks. -/
def difference (s t : CharSet) : CharSet := s.inter t.complement

/-- The characters of exactly one of the sets. -/
def symmetricDifference (s t : CharSet) : CharSet := (s.union t).difference (s.inter t)

/-- The set has no character. -/
def isEmpty (s : CharSet) : Bool := s.ranges.isEmpty

/-- The set has one character. -/
def isSingleton (s : CharSet) : Bool := s.ranges.size == 1 && s.ranges.all fun r => r.lo == r.hi

/-- All characters are ASCII. -/
def isAscii (s : CharSet) : Bool := s.ranges.all (·.hi ≤ 0x7F)

/-- Whether code point `x` lies in one of the ranges from index `lo` up to, without, index `hi`;
each step halves the stretch. -/
def searchRanges (ranges : Array CodeRange) (x : Nat) : (fuel lo hi : Nat) → Bool
  | 0, _, _ => false
  | fuel + 1, lo, hi =>
    if hi ≤ lo then false
    else
      let mid := (lo + hi) / 2
      match ranges[mid]? with
      | none => false
      | some r =>
        if x < r.lo then searchRanges ranges x fuel lo mid
        else if r.hi < x then searchRanges ranges x fuel (mid + 1) hi
        else true

/-- Whether a character belongs to the set. -/
def contains (s : CharSet) (c : Char) : Bool :=
  searchRanges s.ranges c.toNat s.ranges.size 0 s.ranges.size

end CharSet

end TextExpr
