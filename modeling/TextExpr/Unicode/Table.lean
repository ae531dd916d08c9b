import TextExpr.Text.Fields
import TextExpr.Unicode.CharSet

/-!
# Reading the data tables

The data modules write code points in hexadecimal. A set is a list of lines of ranges
(`41-5A 61`), a mapping a list of lines of items.
-/

namespace TextExpr.Unicode

/-- The value of a hexadecimal digit. -/
def hexDigit? (c : Char) : Option Nat :=
  if '0' ≤ c ∧ c ≤ '9' then some (c.toNat - '0'.toNat)
  else if 'A' ≤ c ∧ c ≤ 'F' then some (c.toNat - 'A'.toNat + 10)
  else if 'a' ≤ c ∧ c ≤ 'f' then some (c.toNat - 'a'.toNat + 10)
  else none

/-- The number written by hexadecimal digits; other characters are skipped. -/
def hexNumber (digits : List Char) : Nat :=
  digits.foldl (fun n c => match hexDigit? c with | some d => 16 * n + d | none => n) 0

/-- The items of all lines. -/
def items (lines : List String) : List (List Char) :=
  lines.flatMap fun line => fields ' ' line.toList

/-- The range written `41-5A` or `41`. -/
def readRange (item : List Char) : CodeRange :=
  match fields '-' item with
  | [lo, hi] => ⟨hexNumber lo, hexNumber hi⟩
  | _ => ⟨hexNumber item, hexNumber item⟩

/-- The set that lines of increasing, separate ranges write. -/
def readSet (lines : List String) : CharSet :=
  ⟨((items lines).map readRange).toArray⟩

/-- The set kept under a name. -/
def namedSet? (table : List (String × List String)) (name : String) : Option CharSet :=
  (table.lookup name).map readSet

/-- The code points written with commas between them. -/
def readCodePoints (item : List Char) : List Nat :=
  (fields ',' item).map hexNumber

/-- The entry of the least index from `lo` up to, without, `hi` whose key is `key`, in a table
with increasing keys; each step halves the stretch. -/
def searchEntries {α : Type} (entries : Array (Nat × α)) (key : Nat) :
    (fuel lo hi : Nat) → Option α
  | 0, _, _ => none
  | fuel + 1, lo, hi =>
    if hi ≤ lo then none
    else
      let mid := (lo + hi) / 2
      match entries[mid]? with
      | none => none
      | some (k, v) =>
        if key < k then searchEntries entries key fuel lo mid
        else if k < key then searchEntries entries key fuel (mid + 1) hi
        else some v

/-- The value kept under `key` in a table with increasing keys. -/
def entryAt? {α : Type} (entries : Array (Nat × α)) (key : Nat) : Option α :=
  searchEntries entries key entries.size 0 entries.size

end TextExpr.Unicode
