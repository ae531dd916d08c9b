/-!
# Shortest decimals

A finite binary64 number is written with the fewest decimal digits that read back as the same
number, and of the decimals with that many digits with the nearest one. The number is taken
apart into an integer times a power of two, and everything after that is exact arithmetic on
natural numbers.
-/

namespace TextExpr

/-- The positive number `mantissa * 2 ^ exponent` together with how much of the number line
around it reads back as the same number. -/
structure BinaryNumber where
  /-- The integral factor. -/
  mantissa : Nat
  /-- The exponent of two. -/
  exponent : Int
  /-- The next smaller number is half as far away as the next larger one. -/
  lowerIsCloser : Bool
deriving DecidableEq, Repr

namespace BinaryNumber

/-- The magnitude that the bits of a finite binary64 number encode. -/
def ofBits (bits : UInt64) : BinaryNumber :=
  let fraction : Nat := bits.toNat % Nat.pow 2 52
  let biased : Nat := bits.toNat / Nat.pow 2 52 % 2048
  if biased = 0 then ⟨fraction, -1074, false⟩
  else ⟨fraction + Nat.pow 2 52, (biased : Int) - 1075, fraction = 0 && 1 < biased⟩

end BinaryNumber

/-- The number `digits * 10 ^ exponent`. -/
structure Decimal where
  /-- The digits, read as one number. -/
  digits : Nat
  /-- The exponent of ten. -/
  exponent : Int
deriving DecidableEq, Repr

namespace Decimal

/-- The number of decimal digits of a natural number. -/
def digitCount (n : Nat) : Nat := (Nat.toDigits 10 n).length

/-- The same number without trailing zeros in its digits. -/
def strip : (fuel : Nat) → Decimal → Decimal
  | 0, d => d
  | fuel + 1, d =>
    if d.digits ≠ 0 ∧ d.digits % 10 = 0 then strip fuel ⟨d.digits / 10, d.exponent + 1⟩ else d

/-- `base ^ e` for a positive exponent, and 1 otherwise. -/
def positivePower (base : Nat) (e : Int) : Nat := Nat.pow base e.toNat

/-- The exponent of the leading decimal digit of `num / den`. -/
def leadingExponent (num den : Nat) : Int :=
  if den ≤ num then (digitCount (num / den) : Int) - 1
  else -(digitCount ((den - 1) / num) : Int)

/-- A multiple of `10 ^ e` that reads back as the number, the nearest one to it; of two equally
near ones the even one. -/
def onGrid? (b : BinaryNumber) (e : Int) : Option Decimal :=
  let up := positivePower 2 (b.exponent - 2) * positivePower 10 (-e)
  let den := positivePower 2 (2 - b.exponent) * positivePower 10 e
  let value := 4 * b.mantissa * up
  let low := (4 * b.mantissa - if b.lowerIsCloser then 1 else 2) * up
  let high := (4 * b.mantissa + 2) * up
  let inside := fun (d : Nat) =>
    let x := d * den
    if b.mantissa % 2 = 0 then low ≤ x && x ≤ high else low < x && x < high
  let below := value / den
  let above := below + 1
  let nearerBelow :=
    let left := value - below * den
    let right := above * den - value
    left < right || (left == right && below % 2 == 0)
  if inside below && below != 0 then
    if inside above && !nearerBelow then some ⟨above, e⟩ else some ⟨below, e⟩
  else if inside above then some ⟨above, e⟩
  else none

/-- The first hit among the grids with `count`, `count + 1`, … digits below the leading one. -/
def firstOnGrid (b : BinaryNumber) (leading : Int) : (fuel : Nat) → (count : Nat) → Decimal
  | 0, _ => ⟨b.mantissa, 0⟩
  | fuel + 1, count =>
    match onGrid? b (leading - count) with
    | some d => d
    | none => firstOnGrid b leading fuel (count + 1)

/-- The shortest decimal of a positive number. Seventeen digits always suffice. -/
def shortest (b : BinaryNumber) : Decimal :=
  if b.mantissa = 0 then ⟨0, 0⟩
  else
    let leading :=
      leadingExponent (b.mantissa * positivePower 2 b.exponent) (positivePower 2 (-b.exponent))
    strip 20 (firstOnGrid b leading 18 0)

end Decimal

end TextExpr
