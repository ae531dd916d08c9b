import TextExpr.Unicode.Table
import TextExpr.Unicode.Data.Age
import TextExpr.Unicode.Data.Alias
import TextExpr.Unicode.Data.GeneralCategory
import TextExpr.Unicode.Data.Property
import TextExpr.Unicode.Data.Script
import TextExpr.Unicode.Data.ScriptExtensions
import TextExpr.Unicode.Data.Segmentation

/-!
# Character properties

The sets that a property name stands for. A bare name is looked up first among the binary
properties, then among the general categories and then among the scripts; a property may also
be named together with one of its values. Names are compared in loose form.
-/

namespace TextExpr.Unicode

/-- The loose form of a name: lower case, without spaces, underscores, hyphens and a leading
`is`. What is not ASCII is dropped. The name `isc` keeps its prefix, as it is the name of a
property of its own and not of the category `c`. -/
def looseName (name : List Char) : List Char :=
  let fold := fun (cs : List Char) =>
    (cs.filter fun c => c.toNat < 0x80 ∧ c ≠ ' ' ∧ c ≠ '_' ∧ c ≠ '-').map Char.toLower
  match name with
  | a :: b :: rest =>
    if (a = 'i' ∨ a = 'I') ∧ (b = 's' ∨ b = 'S') then
      if fold rest = ['c'] then ['i', 's', 'c'] else fold rest
    else fold name
  | _ => fold name

/-- The basic categories that each group of general categories joins. -/
def categoryGroups : List (String × List String) := [
  ("Cased_Letter", ["Uppercase_Letter", "Lowercase_Letter", "Titlecase_Letter"]),
  ("Letter", ["Uppercase_Letter", "Lowercase_Letter", "Titlecase_Letter", "Modifier_Letter",
    "Other_Letter"]),
  ("Mark", ["Nonspacing_Mark", "Spacing_Mark", "Enclosing_Mark"]),
  ("Number", ["Decimal_Number", "Letter_Number", "Other_Number"]),
  ("Punctuation", ["Connector_Punctuation", "Dash_Punctuation", "Open_Punctuation",
    "Close_Punctuation", "Initial_Punctuation", "Final_Punctuation", "Other_Punctuation"]),
  ("Symbol", ["Math_Symbol", "Currency_Symbol", "Modifier_Symbol", "Other_Symbol"]),
  ("Separator", ["Space_Separator", "Line_Separator", "Paragraph_Separator"]),
  ("Other", ["Control", "Format", "Private_Use", "Unassigned"])]

/-- The characters of a general category or group of them, by its long name. -/
def generalCategory (name : String) : CharSet :=
  match categoryGroups.lookup name with
  | some names =>
    names.foldl (fun s n => s.union ((namedSet? generalCategories n).getD .empty)) .empty
  | none => (namedSet? generalCategories name).getD .empty

/-- The characters of a binary property, by its long name. -/
def binaryProperty (name : String) : CharSet :=
  (namedSet? binaryProperties name).getD .empty

/-- The general category that a loose name stands for; `any`, `assigned` and `ascii` count as
general categories. -/
def generalCategoryOf? (name : String) : Option CharSet :=
  if name = "any" then some (.ofRanges [⟨0, 0x10FFFF⟩])
  else if name = "assigned" then some (generalCategory "Unassigned").complement
  else if name = "ascii" then some (.ofRanges [⟨0, 0x7F⟩])
  else (generalCategoryAliases.lookup name).map generalCategory

/-- The script that a loose name stands for. -/
def scriptOf? (name : String) : Option CharSet :=
  (scriptAliases.lookup name).bind (namedSet? scripts)

/-- The characters used with the script that a loose name stands for. -/
def scriptExtensionsOf? (name : String) : Option CharSet := do
  let long ← scriptAliases.lookup name
  (namedSet? scriptExtensions long).or (namedSet? scripts long)

/-- The characters assigned up to the version that a loose name stands for. -/
def ageOf? (name : String) : Option CharSet := do
  let version ← ageAliases.lookup name
  let upTo := fun (acc : CharSet × Bool) (entry : String × List String) =>
    if acc.2 then acc else (acc.1.union (readSet entry.2), entry.1 == version)
  some (ages.foldl upTo (.empty, false)).1

/-- The characters that a bare name stands for. -/
def named? (name : List Char) : Option CharSet :=
  let loose := String.ofList (looseName name)
  ((binaryPropertyAliases.lookup loose).map binaryProperty).or
    ((generalCategoryOf? loose).or (scriptOf? loose))

/-- The characters for which a property has a value. -/
def valued? (property value : List Char) : Option CharSet :=
  let value := String.ofList (looseName value)
  let property := String.ofList (looseName property)
  if property ∈ ["gc", "generalcategory"] then generalCategoryOf? value
  else if property ∈ ["sc", "script"] then scriptOf? value
  else if property ∈ ["scx", "scriptextensions"] then scriptExtensionsOf? value
  else if property = "age" then ageOf? value
  else if property ∈ ["gcb", "graphemeclusterbreak"] then
    (graphemeClusterBreakAliases.lookup value).bind (namedSet? graphemeClusterBreaks)
  else if property ∈ ["wb", "wordbreak"] then
    (wordBreakAliases.lookup value).bind (namedSet? wordBreaks)
  else if property ∈ ["sb", "sentencebreak"] then
    (sentenceBreakAliases.lookup value).bind (namedSet? sentenceBreaks)
  else none

/-- Decimal digits of all scripts. -/
def digits : CharSet := generalCategory "Decimal_Number"

/-- White space. -/
def whiteSpace : CharSet := binaryProperty "White_Space"

/-- Word characters: letters, marks, decimal digits, connectors and joiners. -/
def wordCharacters : CharSet :=
  [generalCategory "Mark", digits, generalCategory "Connector_Punctuation",
    binaryProperty "Join_Control"].foldl CharSet.union (binaryProperty "Alphabetic")

/-- Alphabetic characters. -/
def alphabetic : CharSet := binaryProperty "Alphabetic"

/-- Alphabetic and numeric characters. -/
def alphanumeric : CharSet := alphabetic.union (generalCategory "Number")

/-- Characters that take part in case distinctions. -/
def cased : CharSet := binaryProperty "Cased"

/-- Characters that are looked through where the case of their surroundings matters. -/
def caseIgnorable : CharSet := binaryProperty "Case_Ignorable"

/-- Marks and other characters that extend the character before them. -/
def graphemeExtending : CharSet := binaryProperty "Grapheme_Extend"

/-- Characters without a shape of their own: controls, formats, private use, unassigned code
points, and separators other than the plain space. -/
def unprintable : CharSet :=
  ((generalCategory "Other").union (generalCategory "Separator")).difference (.singleton ' ')

end TextExpr.Unicode
