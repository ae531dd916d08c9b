import TextExpr.Json.Writer
import TextExpr.Text.Cursor
import TextExpr.Text.Quoted
import TextExpr.Unicode.Table

/-!
# Reading JSON

A reader takes the characters that are left and returns a value with the characters after it, or
a failure. A failure says how many bytes were left where it arose, from which its line and column
follow. At most 127 arrays and objects may be open at once.
-/

namespace TextExpr

namespace Json

/-- What is wrong with a JSON text. -/
inductive Fault where
  /-- The text ends before a value is complete. -/
  | eofInValue
  /-- The text ends inside an array. -/
  | eofInList
  /-- The text ends inside an object. -/
  | eofInObject
  /-- The text ends inside a string. -/
  | eofInString
  /-- No value starts here. -/
  | expectedValue
  /-- A misspelt `null`, `true` or `false`. -/
  | expectedIdent
  /-- An array element is followed by something else. -/
  | expectedCommaOrBracket
  /-- An object member is followed by something else. -/
  | expectedCommaOrBrace
  /-- A key is not followed by a colon. -/
  | expectedColon
  /-- A comma without anything after it. -/
  | trailingComma
  /-- Something follows the value. -/
  | trailingCharacters
  /-- A member does not start with a string. -/
  | keyMustBeString
  /-- A number that breaks the grammar. -/
  | invalidNumber
  /-- A number too large for binary64. -/
  | numberOutOfRange
  /-- An unknown escape. -/
  | invalidEscape
  /-- A leading surrogate without a second escape. -/
  | unexpectedEndOfHexEscape
  /-- A surrogate that is not part of a pair. -/
  | loneSurrogate
  /-- An unescaped control character. -/
  | controlCharacter
  /-- Too many open arrays and objects. -/
  | recursionLimit
  /-- A value of another type where an object is expected. -/
  | notAnObject (found : String)
deriving DecidableEq, Repr

/-- The wording of a fault. -/
def Fault.message : Fault → String
  | eofInValue => "EOF while parsing a value"
  | eofInList => "EOF while parsing a list"
  | eofInObject => "EOF while parsing an object"
  | eofInString => "EOF while parsing a string"
  | expectedValue => "expected value"
  | expectedIdent => "expected ident"
  | expectedCommaOrBracket => "expected `,` or `]`"
  | expectedCommaOrBrace => "expected `,` or `\x7d`"
  | expectedColon => "expected `:`"
  | trailingComma => "trailing comma"
  | trailingCharacters => "trailing characters"
  | keyMustBeString => "key must be a string"
  | invalidNumber => "invalid number"
  | numberOutOfRange => "number out of range"
  | invalidEscape => "invalid escape"
  | unexpectedEndOfHexEscape => "unexpected end of hex escape"
  | loneSurrogate => "lone leading surrogate in hex escape"
  | controlCharacter => "control character (\\u0000-\\u001F) found while parsing a string"
  | recursionLimit => "recursion limit exceeded"
  | notAnObject found => "invalid type: " ++ found ++ ", expected a map"

/-- A fault and the number of bytes that were left where it arose. -/
structure Failure where
  /-- What is wrong. -/
  fault : Fault
  /-- The number of bytes left. -/
  left : Nat
deriving DecidableEq, Repr

/-- A reader of some value. -/
abbrev Reader (α : Type) := List Char → Except Failure (α × List Char)

/-- Fail after the characters read so far. -/
def failAt {α : Type} (fault : Fault) (rest : List Char) : Except Failure α :=
  .error ⟨fault, byteLength rest⟩

/-- Fail at the next byte, which counts as read if there is one. -/
def failOnNext {α : Type} (fault : Fault) (rest : List Char) : Except Failure α :=
  .error ⟨fault, byteLength rest - 1⟩

/-- White space between the parts of a value. -/
def isBlank (c : Char) : Bool := c = ' ' || c = '\n' || c = '\t' || c = '\r'

/-- The characters after white space. -/
def skipBlanks (rest : List Char) : List Char := rest.dropWhile isBlank

/-- Read the remaining characters of a fixed word. -/
def readWord : List Char → Reader Unit
  | [], rest => .ok ((), rest)
  | _ :: _, [] => failAt .eofInValue []
  | c :: word, d :: rest =>
    if c = d then readWord word rest else failOnNext .expectedIdent (d :: rest)

/-! ### Numbers -/

/-- The value of a decimal digit. -/
def digit? (c : Char) : Option Nat :=
  if '0' ≤ c ∧ c ≤ '9' then some (c.toNat - '0'.toNat) else none

/-- A leading run of digits and what follows it. -/
def spanDigits (rest : List Char) : List Char × List Char :=
  (rest.takeWhile (digit? · |>.isSome), rest.dropWhile (digit? · |>.isSome))

/-- The largest significand that is kept exactly. -/
def significandLimit : Nat := Nat.pow 2 64

/-- Add digits to a significand as long as it stays below the limit; also returns how many digits
were added and the digits that did not fit. -/
def addDigits (significand : Nat) (count : Nat) : List Char → Nat × Nat × List Char
  | [] => (significand, count, [])
  | c :: rest =>
    let next := 10 * significand + (digit? c).getD 0
    if next < significandLimit then addDigits next (count + 1) rest
    else (significand, count, c :: rest)

/-- The power of ten as a binary64 number. -/
def powerOfTen (n : Nat) : Float := Float.ofScientific 1 false n

/-- `f * 10 ^ exponent` by binary64 operations, in steps of at most 308 powers of ten; none if
the result is too large. -/
def scale? (f : Float) (exponent : Int) : (fuel : Nat) → Option Float
  | 0 => some f
  | fuel + 1 =>
    if exponent.natAbs ≤ 308 then
      if 0 ≤ exponent then
        let scaled := f * powerOfTen exponent.natAbs
        if scaled.isInf then none else some scaled
      else some (f / powerOfTen exponent.natAbs)
    else if f == 0.0 then some f
    else if 0 ≤ exponent then none
    else scale? (f / powerOfTen 308) (exponent + 308) fuel

/-- The number with the given sign, significand and exponent of ten. -/
def floatOf (negative : Bool) (significand : Nat) (exponent : Int) : Reader JsonNumber :=
  fun rest =>
    match scale? significand.toUInt64.toFloat exponent (exponent.natAbs / 308 + 2) with
    | none => failAt .numberOutOfRange rest
    | some f => .ok (.float (if negative then -f else f).toBits, rest)

/-- The largest exponent that is read exactly. -/
def exponentLimit : Nat := Nat.pow 2 31

/-- Read the digits of an exponent after its sign; `value` is what the digits so far amount to.
An exponent beyond the limit makes the number too large, or zero. -/
def readExponentDigits (negative : Bool) (significand : Nat) (start : Int) (negativeExponent : Bool)
    (value : Nat) : Reader JsonNumber
  | c :: rest =>
    match digit? c with
    | none => finish value (c :: rest)
    | some d =>
      let next := 10 * value + d
      if next < exponentLimit then
        readExponentDigits negative significand start negativeExponent next rest
      else if significand ≠ 0 ∧ !negativeExponent then failAt .numberOutOfRange rest
      else
        let zero : Float := if negative then -0.0 else 0.0
        .ok (.float zero.toBits, (spanDigits rest).2)
  | [] => finish value []
where
  /-- The number with the exponent read, kept within the range of exponents. -/
  finish (value : Nat) : Reader JsonNumber :=
    let total := if negativeExponent then start - value else start + value
    floatOf negative significand (max (-(exponentLimit : Int)) (min (exponentLimit - 1) total))

/-- Read an exponent from its letter on. -/
def readExponent (negative : Bool) (significand : Nat) (start : Int) : Reader JsonNumber
  | [] => failAt .eofInValue []
  | _ :: rest =>
    let (negativeExponent, rest) :=
      match rest with
      | '+' :: rest => (false, rest)
      | '-' :: rest => (true, rest)
      | rest => (false, rest)
    match rest with
    | [] => failAt .eofInValue []
    | c :: after =>
      match digit? c with
      | none => failOnNext .invalidNumber (c :: after)
      | some d => readExponentDigits negative significand start negativeExponent d after

/-- Finish a number whose integer and fraction digits are read. -/
def finishNumber (negative : Bool) (significand : Nat) (exponent : Int) : Reader JsonNumber
  | 'e' :: rest => readExponent negative significand exponent ('e' :: rest)
  | 'E' :: rest => readExponent negative significand exponent ('E' :: rest)
  | rest => floatOf negative significand exponent rest

/-- Read a fraction after its point. Digits that no longer fit are passed over. -/
def readFraction (negative : Bool) (significand : Nat) (exponent : Int) : Reader JsonNumber :=
  fun rest =>
    let (digits, after) := spanDigits rest
    if digits.isEmpty then
      if rest.isEmpty then failOnNext .eofInValue rest else failOnNext .invalidNumber rest
    else
      let (total, count, _) := addDigits significand 0 digits
      finishNumber negative total (exponent - count) after

/-- The number of an integer literal. Negative zero and integers below the least of 64 bits are
binary64 numbers. -/
def integer (negative : Bool) (significand : Nat) : JsonNumber :=
  if negative then
    if significand = 0 ∨ Nat.pow 2 63 < significand then
      .float (-(significand.toUInt64.toFloat)).toBits
    else .int (-(significand : Int))
  else .int significand

/-- Read a number after its sign. -/
def readNumber (negative : Bool) : Reader JsonNumber
  | [] => failAt .eofInValue []
  | c :: rest =>
    match digit? c with
    | none => failOnNext .invalidNumber (c :: rest)
    | some 0 =>
      match rest with
      | [] => .ok (integer negative 0, [])
      | d :: _ =>
        if (digit? d).isSome then failOnNext .invalidNumber rest else continueAfter 0 0 rest
    | some _ =>
      let (digits, after) := spanDigits (c :: rest)
      let (significand, _, excess) := addDigits 0 0 digits
      continueAfter significand excess.length after
where
  /-- Read what follows the integer digits, `excess` of which did not fit. -/
  continueAfter (significand excess : Nat) : Reader JsonNumber
    | '.' :: rest => readFraction negative significand excess rest
    | rest =>
      let hasExponent := rest.head? = some 'e' || rest.head? = some 'E'
      if excess = 0 && !hasExponent then .ok (integer negative significand, rest)
      else finishNumber negative significand excess rest

/-! ### Strings -/

/-- Read four hexadecimal digits. The four bytes are taken before they are looked at. -/
def readHex4 : Reader Nat := fun rest =>
  match rest with
  | a :: b :: c :: d :: after =>
    match Unicode.hexDigit? a, Unicode.hexDigit? b, Unicode.hexDigit? c, Unicode.hexDigit? d with
    | some a, some b, some c, some d => .ok (((16 * a + b) * 16 + c) * 16 + d, after)
    | _, _, _, _ => .error ⟨.invalidEscape, byteLength rest - 4⟩
  | _ => if byteLength rest < 4 then .error ⟨.eofInString, 0⟩
    else .error ⟨.invalidEscape, byteLength rest - 4⟩

/-- Read the rest of an escape of the form `\uXXXX`, with its second half if the first is a
leading surrogate. -/
def readUnicodeEscape : Reader Char := fun rest => do
  let (high, rest) ← readHex4 rest
  if 0xDC00 ≤ high ∧ high ≤ 0xDFFF then failAt .loneSurrogate rest
  else if high < 0xD800 ∨ 0xDBFF < high then return (Char.ofNat high, rest)
  else
    match rest with
    | [] => failAt .eofInString []
    | '\\' :: [] => failAt .eofInString []
    | '\\' :: 'u' :: rest =>
      let (low, rest) ← readHex4 rest
      if low < 0xDC00 ∨ 0xDFFF < low then failAt .loneSurrogate rest
      else return (Char.ofNat (0x10000 + (high - 0xD800) * 0x400 + (low - 0xDC00)), rest)
    | '\\' :: rest => failOnNext .unexpectedEndOfHexEscape rest
    | rest => failOnNext .unexpectedEndOfHexEscape rest

/-- Read an escape after its backslash. -/
def readEscape : Reader Char
  | [] => failAt .eofInString []
  | c :: rest =>
    match c with
    | '"' => .ok ('"', rest)
    | '\\' => .ok ('\\', rest)
    | '/' => .ok ('/', rest)
    | 'b' => .ok ('\x08', rest)
    | 'f' => .ok ('\x0c', rest)
    | 'n' => .ok ('\n', rest)
    | 'r' => .ok ('\r', rest)
    | 't' => .ok ('\t', rest)
    | 'u' => readUnicodeEscape rest
    | _ => failOnNext .invalidEscape (c :: rest)

/-- Read a string after its opening quote; `acc` holds what is read, the last character first. -/
def readString (acc : List Char) : (fuel : Nat) → Reader String
  | 0, rest => failAt .eofInString rest
  | _ + 1, [] => failAt .eofInString []
  | fuel + 1, c :: rest =>
    if c = '"' then .ok (String.ofList acc.reverse, rest)
    else if c = '\\' then do
      let (d, rest) ← readEscape rest
      readString (d :: acc) fuel rest
    else if c.toNat < 0x20 then failAt .controlCharacter rest
    else readString (c :: acc) fuel rest

/-- Read a string after its opening quote. -/
def stringAfterQuote : Reader String := fun rest => readString [] (rest.length + 1) rest

/-! ### Arrays and objects -/

/-- Read array elements up to the closing bracket; `acc` holds those read, the last first. -/
def readElements (element : Reader Json) (acc : List Json) : (fuel : Nat) → Reader (List Json)
  | 0, rest => failAt .eofInList rest
  | fuel + 1, rest => do
    match skipBlanks rest with
    | [] => failOnNext .eofInList []
    | ']' :: rest => return (acc.reverse, rest)
    | ',' :: rest =>
      if acc.isEmpty then
        let (v, rest) ← element (',' :: rest)
        readElements element (v :: acc) fuel rest
      else
        match skipBlanks rest with
        | [] => failOnNext .eofInValue []
        | ']' :: rest => failOnNext .trailingComma (']' :: rest)
        | rest =>
          let (v, rest) ← element rest
          readElements element (v :: acc) fuel rest
    | rest =>
      if acc.isEmpty then
        let (v, rest) ← element rest
        readElements element (v :: acc) fuel rest
      else failOnNext .expectedCommaOrBracket rest

/-- Read one member from the opening quote of its key on. -/
def readMember (element : Reader Json) : Reader (String × Json) := fun rest => do
  let (key, rest) ← stringAfterQuote (rest.drop 1)
  match skipBlanks rest with
  | [] => failOnNext .eofInObject []
  | ':' :: rest =>
    let (value, rest) ← element rest
    return ((key, value), rest)
  | rest => failOnNext .expectedColon rest

/-- Read object members up to the closing brace; `count` members are read. -/
def readMembers (element : Reader Json) (acc : Members) (count : Nat) :
    (fuel : Nat) → Reader Members
  | 0, rest => failAt .eofInObject rest
  | fuel + 1, rest => do
    match skipBlanks rest with
    | [] => failOnNext .eofInObject []
    | c :: rest =>
      if c = '\x7d' then return (acc, rest)
      else if count = 0 then
        if c = '"' then
          let ((k, v), rest) ← readMember element (c :: rest)
          readMembers element (acc.insert k v) 1 fuel rest
        else failOnNext .keyMustBeString (c :: rest)
      else if c = ',' then
        match skipBlanks rest with
        | [] => failOnNext .eofInValue []
        | d :: rest =>
          if d = '"' then
            let ((k, v), rest) ← readMember element (d :: rest)
            readMembers element (acc.insert k v) (count + 1) fuel rest
          else if d = '\x7d' then failOnNext .trailingComma (d :: rest)
          else failOnNext .keyMustBeString (d :: rest)
      else failOnNext .expectedCommaOrBrace (c :: rest)

/-- Read a value where `depth - 1` further arrays and objects may be opened. -/
def readValue : (depth : Nat) → Reader Json
  | 0, rest => failOnNext .recursionLimit rest
  | depth + 1, rest => do
    match skipBlanks rest with
    | [] => failOnNext .eofInValue []
    | c :: after =>
      if c = 'n' then
        let ((), after) ← readWord ['u', 'l', 'l'] after
        return (.null, after)
      else if c = 't' then
        let ((), after) ← readWord ['r', 'u', 'e'] after
        return (.bool true, after)
      else if c = 'f' then
        let ((), after) ← readWord ['a', 'l', 's', 'e'] after
        return (.bool false, after)
      else if c = '-' then
        let (n, after) ← readNumber true after
        return (.number n, after)
      else if (digit? c).isSome then
        let (n, after) ← readNumber false (c :: after)
        return (.number n, after)
      else if c = '"' then
        let (s, after) ← stringAfterQuote after
        return (.str s, after)
      else if c = '[' then
        if depth = 0 then failOnNext .recursionLimit (c :: after)
        else
          let (items, after) ← readElements (readValue depth) [] (after.length + 1) after
          return (.arr items, after)
      else if c = '\x7b' then
        if depth = 0 then failOnNext .recursionLimit (c :: after)
        else
          let (members, after) ← readMembers (readValue depth) [] 0 (after.length + 1) after
          return (.obj members, after)
      else failOnNext .expectedValue (c :: after)

/-- The depth with which reading starts. -/
def depthLimit : Nat := 128

/-- The line and column after `bytes` bytes of a text; a column counts bytes since the last line
break. -/
def position (bytes : Nat) : List Char → (line column : Nat) → Nat × Nat
  | [], line, column => (line, column + bytes)
  | c :: rest, line, column =>
    if bytes < c.utf8Size then (line, column + bytes)
    else if c = '\n' then position (bytes - 1) rest (line + 1) 0
    else position (bytes - c.utf8Size) rest line (column + c.utf8Size)

/-- The wording of a failure to read a text. -/
def Failure.message (text : List Char) (f : Failure) : String :=
  let (line, column) := position (byteLength text - f.left) text 1 0
  f.fault.message ++ " at line " ++ toString line ++ " column " ++ toString column

/-- Read a text from which the reader may leave nothing but white space. -/
def readAll {α : Type} (reader : Reader α) (text : List Char) : Except String α :=
  match reader text with
  | .error f => .error (f.message text)
  | .ok (value, rest) =>
    match skipBlanks rest with
    | [] => .ok value
    | rest => .error (Failure.message text ⟨.trailingCharacters, byteLength rest - 1⟩)

/-- The value that a JSON text writes. -/
def parse (text : String) : Except String Json := readAll (readValue depthLimit) text.toList

/-- The members of an object, or how a value of another type is called. -/
def membersOrKind : Json → Except String Members
  | obj members => .ok members
  | null => .error "null"
  | bool b => .error ("boolean `" ++ toString b ++ "`")
  | number (.int n) => .error ("integer `" ++ toString n ++ "`")
  | number (.float bits) => .error ("floating point `" ++ numberText (.float bits) ++ "`")
  | str s => .error ("string " ++ quoted s)
  | arr _ => .error "sequence"

/-- Read an object. Of a value of another type only an array is refused before it is read. -/
def readObject : Reader Members := fun rest =>
  match skipBlanks rest with
  | '[' :: rest => failAt (.notAnObject "sequence") ('[' :: rest)
  | rest => do
    let (value, rest) ← readValue depthLimit rest
    match membersOrKind value with
    | .ok members => return (members, rest)
    | .error found => failAt (.notAnObject found) rest

/-- The members of the object that a JSON text writes. -/
def parseObject (text : String) : Except String Members := readAll readObject text.toList

end Json

end TextExpr
