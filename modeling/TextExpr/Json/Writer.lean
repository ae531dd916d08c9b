import TextExpr.Json.Basic
import TextExpr.Number.Shortest

/-!
# Writing JSON

The compact form has no white space at all. The indented form puts every element and member on a
line of its own, two spaces deeper than what it belongs to.
-/

namespace TextExpr

namespace Json

/-- How often a character is repeated, as a text. -/
def repeated (c : Char) (n : Nat) : String := String.ofList (List.replicate n c)

/-- A decimal as a text: positional from the fifth place after the point up to sixteen places
before it, and with a signed exponent beyond that. -/
def decimalText (d : Decimal) : String :=
  let digits := Nat.toDigits 10 d.digits
  let count := digits.length
  let point := count + d.exponent
  if 0 ≤ d.exponent ∧ point ≤ 16 then
    String.ofList digits ++ repeated '0' d.exponent.toNat ++ ".0"
  else if 0 < point ∧ point ≤ 16 then
    String.ofList (digits.take point.toNat) ++ "." ++ String.ofList (digits.drop point.toNat)
  else if -5 < point ∧ point ≤ 0 then
    "0." ++ repeated '0' (-point).toNat ++ String.ofList digits
  else
    let exponent := point - 1
    let sign := if exponent < 0 then "-" else "+"
    let fraction := if count = 1 then "" else "." ++ String.ofList (digits.drop 1)
    String.ofList (digits.take 1) ++ fraction ++ "e" ++ sign ++ toString exponent.natAbs

/-- A number as a text. -/
def numberText : JsonNumber → String
  | .int n => toString n
  | .float bits =>
    (if Nat.pow 2 63 ≤ bits.toNat then "-" else "")
      ++ decimalText (Decimal.shortest (BinaryNumber.ofBits bits))

/-- A digit of a hexadecimal escape. -/
def hexDigitChar (n : Nat) : Char := Nat.digitChar n

/-- How a character is written in a string. -/
def escapeChar (c : Char) : List Char :=
  if c = '"' then ['\\', '"']
  else if c = '\\' then ['\\', '\\']
  else if c = '\x08' then ['\\', 'b']
  else if c = '\x0c' then ['\\', 'f']
  else if c = '\n' then ['\\', 'n']
  else if c = '\r' then ['\\', 'r']
  else if c = '\t' then ['\\', 't']
  else if c.toNat < 0x20 then
    ['\\', 'u', '0', '0', hexDigitChar (c.toNat / 16), hexDigitChar (c.toNat % 16)]
  else [c]

/-- A string as it is written. -/
def stringText (s : String) : String :=
  String.ofList (['"'] ++ s.toList.flatMap escapeChar ++ ['"'])

mutual

/-- A value without white space. -/
def compact : Json → String
  | .null => "null"
  | .bool b => if b then "true" else "false"
  | .number n => numberText n
  | .str s => stringText s
  | .arr items => "[" ++ ",".intercalate (compactItems items) ++ "]"
  | .obj members => "\x7b" ++ ",".intercalate (compactMembers members) ++ "\x7d"

/-- The elements of an array without white space. -/
def compactItems : List Json → List String
  | [] => []
  | v :: rest => compact v :: compactItems rest

/-- The members of an object without white space. -/
def compactMembers : List (String × Json) → List String
  | [] => []
  | (k, v) :: rest => (stringText k ++ ":" ++ compact v) :: compactMembers rest

end

/-- Parts between brackets, each on a line of its own at the given depth. -/
def block (opening closing : String) (depth : Nat) (parts : List String) : String :=
  let line := fun (n : Nat) => "\n" ++ repeated ' ' (2 * n)
  if parts.isEmpty then opening ++ closing
  else
    opening ++ line (depth + 1) ++ ("," ++ line (depth + 1)).intercalate parts ++ line depth
      ++ closing

mutual

/-- A value over several lines, where its first line belongs to the given depth. -/
def indented (depth : Nat) : Json → String
  | .null => "null"
  | .bool b => if b then "true" else "false"
  | .number n => numberText n
  | .str s => stringText s
  | .arr items => block "[" "]" depth (indentedItems (depth + 1) items)
  | .obj members => block "\x7b" "\x7d" depth (indentedMembers (depth + 1) members)

/-- The elements of an array over several lines. -/
def indentedItems (depth : Nat) : List Json → List String
  | [] => []
  | v :: rest => indented depth v :: indentedItems depth rest

/-- The members of an object over several lines. -/
def indentedMembers (depth : Nat) : List (String × Json) → List String
  | [] => []
  | (k, v) :: rest => (stringText k ++ ": " ++ indented depth v) :: indentedMembers depth rest

end

end Json

end TextExpr
