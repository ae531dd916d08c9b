import TextExpr.Unicode.Property
import TextExpr.Unicode.Data.Case

/-!
# Upper and lower case of a text

The full case mappings, in which one character may become several. The only mapping that looks
at its surroundings is that of capital sigma, which becomes a final sigma at the end of a word.
-/

namespace TextExpr

open Unicode

/-- Each character with its image, in order of the characters. -/
def readMappings (lines : List String) : Array (Nat × List Char) :=
  ((items lines).map fun item =>
    match fields ':' item with
    | [c, image] => (hexNumber c, (readCodePoints image).map Char.ofNat)
    | _ => (0, [])).toArray

/-- The upper case forms of characters beyond ASCII. -/
def upperEntries : Array (Nat × List Char) := readMappings upperMappings

/-- The lower case forms of characters beyond ASCII. -/
def lowerEntries : Array (Nat × List Char) := readMappings lowerMappings

/-- The upper case form of a character. -/
def upperChar (c : Char) : List Char :=
  if c.toNat < 0x80 then [c.toUpper] else (entryAt? upperEntries c.toNat).getD [c]

/-- The lower case form of a character on its own. -/
def lowerChar (c : Char) : List Char :=
  if c.toNat < 0x80 then [c.toLower] else (entryAt? lowerEntries c.toNat).getD [c]

/-- The first character that is not looked through is a cased one. -/
def meetsCased (cs : List Char) : Bool :=
  match cs.dropWhile caseIgnorable.contains with
  | [] => false
  | c :: _ => cased.contains c

/-- The lower case form of the characters `after` that follow the characters `before`, the
nearest of which comes first. -/
def lowerFrom (before : List Char) : (after : List Char) → List Char
  | [] => []
  | c :: after =>
    (if c = 'Σ' then
      if meetsCased before && !meetsCased after then ['ς'] else ['σ']
    else lowerChar c) ++ lowerFrom (c :: before) after

/-- A text in upper case. -/
def upperCase (s : String) : String := String.ofList (s.toList.flatMap upperChar)

/-- A text in lower case. -/
def lowerCase (s : String) : String := String.ofList (lowerFrom [] s.toList)

end TextExpr
