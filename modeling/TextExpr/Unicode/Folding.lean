import TextExpr.Unicode.Table
import TextExpr.Unicode.Data.Case

/-!
# Simple case folding

Two characters are equal without regard to case if simple case folding maps them to one
character. The characters equal to a given one form its orbit.
-/

namespace TextExpr.Unicode

/-- All orbits of more than one character. -/
def orbits : Array (List Nat) := ((items foldingOrbits).map readCodePoints).toArray

/-- Each character of an orbit with the orbit, in order of the characters. -/
def orbitEntries : Array (Nat × List Nat) :=
  let entries := orbits.flatMap fun orbit => (orbit.map fun c => (c, orbit)).toArray
  entries.qsort fun a b => a.1 < b.1

/-- The characters equal to `c` without regard to case. -/
def foldChar (c : Char) : CharSet :=
  match entryAt? orbitEntries c.toNat with
  | some orbit => ⟨(orbit.map fun x => ⟨x, x⟩).toArray⟩
  | none => .singleton c

/-- The characters equal without regard to case to some character of the set. -/
def foldSet (s : CharSet) : CharSet :=
  let touched := orbits.toList.filter fun orbit => orbit.any fun x => s.contains (Char.ofNat x)
  s.union (.ofRanges (touched.flatMap fun orbit => orbit.map fun x => ⟨x, x⟩))

end TextExpr.Unicode
