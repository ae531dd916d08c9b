import TextExpr.Pattern.Mode
import TextExpr.Unicode.Property

/-!
# Lexical elements

What can be wrong with a pattern, and the small pieces of text that bracketed classes and the
rest of a pattern are made of: white space, numbers and names.
-/

namespace TextExpr

namespace Linear

/-- What is wrong with a pattern. -/
inductive SyntaxError where
  /-- The pattern ends too early. -/
  | unexpectedEnd
  /-- A group that is not closed. -/
  | unclosedGroup
  /-- A closing parenthesis without a group. -/
  | unopenedGroup
  /-- A group name that is empty, malformed or taken. -/
  | invalidGroupName
  /-- Inline flags that are unknown, repeated or missing. -/
  | invalidFlags
  /-- A bracketed class that is not closed. -/
  | unclosedClass
  /-- A range in a class whose ends are no characters or in the wrong order. -/
  | invalidRange
  /-- An escape that is not allowed in a class. -/
  | invalidClassEscape
  /-- An escape without a meaning. -/
  | unknownEscape
  /-- A back-reference. -/
  | backReference
  /-- A look-around. -/
  | lookAround
  /-- Hexadecimal digits that are missing or name no character. -/
  | invalidHex
  /-- A character property that does not exist. -/
  | unknownProperty
  /-- A repetition of nothing. -/
  | missingOperand
  /-- A repetition count that is malformed. -/
  | invalidCount
  /-- The braces after a word boundary name no kind of it. -/
  | invalidBoundary
  /-- Too deeply nested. -/
  | nesting
  /-- A part that could match bytes that are no characters. -/
  | notCharacters
deriving DecidableEq, Repr

/-- White space outside ASCII. -/
def wideSpaces : CharSet :=
  .ofRanges [⟨0x85, 0x85⟩, ⟨0xA0, 0xA0⟩, ⟨0x1680, 0x1680⟩, ⟨0x2000, 0x200A⟩, ⟨0x2028, 0x2029⟩,
    ⟨0x202F, 0x202F⟩, ⟨0x205F, 0x205F⟩, ⟨0x3000, 0x3000⟩]

/-- White space in a pattern, which is that of Unicode. -/
def isSpace (c : Char) : Bool :=
  if c.toNat < 0x80 then c == ' ' || (0x09 ≤ c.toNat && c.toNat ≤ 0x0D)
  else wideSpaces.contains c

/-- Skip white space and comments, which reach from `#` to the end of the line; `inComment` says
whether one is open. -/
def skipSpace (inComment : Bool) : List Char → List Char
  | [] => []
  | c :: rest =>
    if inComment then skipSpace (c != '\n') rest
    else if isSpace c then skipSpace false rest
    else if c = '#' then skipSpace true rest
    else c :: rest

/-- Skip what a mode ignores between the parts of a pattern. -/
def skip (mode : Mode) (rest : List Char) : List Char :=
  if mode.ignoreSpace then skipSpace false rest else rest

/-- The character of a code point, if it is one. -/
def charOf? (n : Nat) : Option Char := if n.isValidChar then some (Char.ofNat n) else none

/-- Read hexadecimal digits up to a closing brace. -/
def readHexDigits (mode : Mode) (value : Nat) (count : Nat) :
    (fuel : Nat) → List Char → Except SyntaxError ((Nat × Nat) × List Char)
  | 0, _ => .error .unexpectedEnd
  | fuel + 1, rest =>
    match skip mode rest with
    | [] => .error .unexpectedEnd
    | c :: rest =>
      if c = '\x7d' then .ok ((value, count), skip mode rest)
      else
        match Unicode.hexDigit? c with
        | none => .error .invalidHex
        | some d => readHexDigits mode (16 * value + d) (count + 1) fuel rest

/-- Read a fixed number of hexadecimal digits. -/
def readHexFixed (mode : Mode) (value : Nat) : (digits : Nat) → List Char →
    Except SyntaxError (Nat × List Char)
  | 0, rest => .ok (value, skip mode rest)
  | digits + 1, rest =>
    match skip mode rest with
    | [] => .error .unexpectedEnd
    | c :: rest =>
      match Unicode.hexDigit? c with
      | none => .error .invalidHex
      | some d => readHexFixed mode (16 * value + d) digits rest

/-- Read the digits of a character escape, which are of the given number or stand in braces. Also
says whether the escape is in the fixed form. -/
def readHex (mode : Mode) (digits : Nat) (rest : List Char) :
    Except SyntaxError ((Char × Bool) × List Char) :=
  match skip mode rest with
  | [] => .error .unexpectedEnd
  | c :: after => do
    if c = '\x7b' then
      let ((value, count), rest) ← readHexDigits mode 0 0 (after.length + 1) after
      if count = 0 then throw .invalidHex
      match charOf? value with
      | some c => return ((c, false), rest)
      | none => throw .invalidHex
    else
      let (value, rest) ← readHexFixed mode 0 digits (c :: after)
      match charOf? value with
      | some c => return ((c, true), rest)
      | none => throw .invalidHex

/-- Read a decimal number of 32 bits with white space around it; none if there is no digit. -/
def readDecimal (mode : Mode) (rest : List Char) : Except SyntaxError (Option Nat × List Char) :=
  let rest := rest.dropWhile isSpace
  let (digits, rest) := digitsOf [] (rest.length + 1) rest
  let rest := spacesOf (rest.length + 1) rest
  let value := digits.foldl (fun n c => 10 * n + (c.toNat - '0'.toNat)) 0
  if digits.isEmpty then .ok (none, rest)
  else if value < Nat.pow 2 32 then .ok (some value, rest)
  else .error .invalidCount
where
  /-- The digits, between which the mode may skip, and what follows them. -/
  digitsOf (acc : List Char) : (fuel : Nat) → List Char → List Char × List Char
    | 0, rest => (acc.reverse, rest)
    | _ + 1, [] => (acc.reverse, [])
    | fuel + 1, c :: rest =>
      if c.isDigit then digitsOf (c :: acc) fuel (skip mode rest) else (acc.reverse, c :: rest)
  /-- What follows white space. -/
  spacesOf : (fuel : Nat) → List Char → List Char
    | 0, rest => rest
    | _ + 1, [] => []
    | fuel + 1, c :: rest => if isSpace c then spacesOf fuel (skip mode rest) else c :: rest

/-- Whether a character may begin the name of a group. -/
def startsName (c : Char) : Bool :=
  c == '_' || if c.toNat < 0x80 then c.isAlpha else Unicode.alphabetic.contains c

/-- Whether a character may stand in the name of a group after the first place. -/
def continuesName (c : Char) : Bool :=
  c == '_' || c == '.' || c == '[' || c == ']'
    || if c.toNat < 0x80 then c.isAlphanum else Unicode.alphanumeric.contains c

/-- Read the name of a group up to `>`. -/
def readGroupName (rest : List Char) : Except SyntaxError (List Char × List Char) :=
  let name := rest.takeWhile (· ≠ '>')
  match rest.dropWhile (· ≠ '>') with
  | [] => .error .invalidGroupName
  | _ :: after =>
    match name with
    | [] => .error .invalidGroupName
    | c :: later => if startsName c && later.all continuesName then .ok (name, after)
      else .error .invalidGroupName

end Linear

end TextExpr
