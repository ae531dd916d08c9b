import TextExpr.Linear.Lexical
import TextExpr.Pattern.Assertion
import TextExpr.Unicode.Folding

/-!
# Escapes

What follows a backslash. The same escapes are read everywhere in a pattern; those that stand for
conditions on a position have no meaning inside a bracketed class.
-/

namespace TextExpr

namespace Linear

/-- What an escape stands for. -/
inductive Escape where
  /-- A character. -/
  | literal (c : Char)
  /-- A set of characters. -/
  | set (chars : CharSet)
  /-- A condition on the position. -/
  | look (assertion : Assertion)
deriving Repr

/-- Characters that have a meaning of their own somewhere in a pattern. -/
def isMeta (c : Char) : Bool := "\\.+*?()|[]\x7b\x7d^$#&-~".toList.contains c

/-- Characters that may be escaped without need. -/
def isEscapable (c : Char) : Bool :=
  isMeta c || (c.toNat < 0x80 && !c.isAlphanum && c != '<' && c != '>')

/-! ### Sets -/

/-- The characters in any of the ranges, all of them ASCII. -/
def asciiSet (ranges : List (Nat × Nat)) : CharSet :=
  .ofRanges (ranges.map fun r => ⟨r.1, r.2⟩)

/-- The ASCII class of a name. -/
def asciiClass? (name : String) : Option CharSet :=
  (([
    ("alnum", [(0x30, 0x39), (0x41, 0x5A), (0x61, 0x7A)]),
    ("alpha", [(0x41, 0x5A), (0x61, 0x7A)]),
    ("ascii", [(0x00, 0x7F)]),
    ("blank", [(0x09, 0x09), (0x20, 0x20)]),
    ("cntrl", [(0x00, 0x1F), (0x7F, 0x7F)]),
    ("digit", [(0x30, 0x39)]),
    ("graph", [(0x21, 0x7E)]),
    ("lower", [(0x61, 0x7A)]),
    ("print", [(0x20, 0x7E)]),
    ("punct", [(0x21, 0x2F), (0x3A, 0x40), (0x5B, 0x60), (0x7B, 0x7E)]),
    ("space", [(0x09, 0x0D), (0x20, 0x20)]),
    ("upper", [(0x41, 0x5A)]),
    ("word", [(0x30, 0x39), (0x41, 0x5A), (0x5F, 0x5F), (0x61, 0x7A)]),
    ("xdigit", [(0x30, 0x39), (0x41, 0x46), (0x61, 0x66)])
  ] : List (String × List (Nat × Nat))).lookup name).map asciiSet

/-- The set or, if asked for, its complement. Where characters are bytes, the complement of a set
has bytes that are no characters. -/
def negated (mode : Mode) (negate : Bool) (chars : CharSet) : Except SyntaxError CharSet :=
  if !negate then .ok chars
  else if mode.unicode then .ok chars.complement
  else .error .notCharacters

/-- The set with the other case of each character if the mode ignores case. -/
def folded (mode : Mode) (chars : CharSet) : CharSet :=
  if !mode.ignoreCase then chars
  else if mode.unicode then Unicode.foldSet chars
  else (Unicode.foldSet chars).inter (asciiSet [(0x00, 0x7F)])

/-- The set that a letter after a backslash stands for, and in upper case its complement. -/
def letterSet (mode : Mode) (letter : Char) : Except SyntaxError CharSet :=
  let chars :=
    match letter.toLower, mode.unicode with
    | 'd', true => Unicode.digits
    | 's', true => Unicode.whiteSpace
    | 'w', true => Unicode.wordCharacters
    | 'd', false => asciiSet [(0x30, 0x39)]
    | 's', false => asciiSet [(0x09, 0x0D), (0x20, 0x20)]
    | _, _ => asciiSet [(0x30, 0x39), (0x41, 0x5A), (0x5F, 0x5F), (0x61, 0x7A)]
  negated mode letter.isUpper chars

/-! ### Reading -/

/-- Read characters up to a closing brace. -/
def readBraced (mode : Mode) (acc : List Char) :
    (fuel : Nat) → List Char → Except SyntaxError (List Char × List Char)
  | 0, _ => .error .unexpectedEnd
  | fuel + 1, rest =>
    match skip mode rest with
    | [] => .error .unexpectedEnd
    | c :: rest =>
      if c = '\x7d' then .ok (acc.reverse, rest) else readBraced mode (c :: acc) fuel rest

/-- The set that the text between the braces of a property names, and whether it is negated. A
property and its value stand on the two sides of `!=`, `:` or `=`. -/
def braceProperty? (name : List Char) : Option (CharSet × Bool) :=
  match splitAt? ['!', '='] name with
  | some (property, value) => (Unicode.valued? property value).map (·, true)
  | none =>
    match (splitAt? [':'] name).or (splitAt? ['='] name) with
    | some (property, value) => (Unicode.valued? property value).map (·, false)
    | none => (Unicode.named? name).map (·, false)
where
  /-- What comes before and after the first occurrence of `sign`. -/
  splitAt? (sign : List Char) : List Char → Option (List Char × List Char)
    | [] => none
    | c :: rest =>
      if sign.isPrefixOf (c :: rest) then some ([], (c :: rest).drop sign.length)
      else (splitAt? sign rest).map fun (a, b) => (c :: a, b)

/-- Read a property after `\p` or, with `negate`, after `\P`. -/
def readProperty (mode : Mode) (negate : Bool) (rest : List Char) :
    Except SyntaxError (CharSet × List Char) :=
  match skip mode rest with
  | [] => .error .unexpectedEnd
  | c :: after => do
    let (found, rest) ←
      if c = '\x7b' then do
        let (name, rest) ← readBraced mode [] (after.length + 1) after
        pure (braceProperty? name, rest)
      else if c = '\\' then .error .unknownProperty
      else pure ((Unicode.named? [c]).map (·, false), skip mode after)
    match found with
    | none => throw .unknownProperty
    | some (chars, inverted) =>
      if !mode.unicode then throw .notCharacters
      let chars ← negated mode (negate != inverted) (folded mode chars)
      return (chars, rest)

/-- Read the letters and hyphens that name a kind of word boundary. -/
def readBoundaryName (mode : Mode) (acc : List Char) :
    (fuel : Nat) → List Char → List Char × List Char
  | 0, rest => (acc.reverse, rest)
  | _ + 1, [] => (acc.reverse, [])
  | fuel + 1, c :: rest =>
    if c.isAlpha || c == '-' then readBoundaryName mode (c :: acc) fuel (skip mode rest)
    else (acc.reverse, c :: rest)

/-- The kind of word boundary that a name in braces stands for. -/
def boundary? (ascii : Bool) (name : String) : Option Assertion :=
  ([("start", .wordStart ascii), ("end", .wordEnd ascii),
    ("start-half", .wordStartHalf ascii), ("end-half", .wordEndHalf ascii)] :
    List (String × Assertion)).lookup name

/-- Read what may follow `\b`: a kind in braces. Braces that hold anything but a name are left to
be read as a repetition. -/
def readBoundary (mode : Mode) (rest : List Char) :
    Except SyntaxError (Assertion × List Char) :=
  let plain : Assertion × List Char := (.wordBoundary !mode.unicode, rest)
  match rest with
  | '\x7b' :: after =>
    let after := skip mode after
    match after with
    | [] => .error .unexpectedEnd
    | c :: _ =>
      if !(c.isAlpha || c == '-') then .ok plain
      else
        let (name, rest) := readBoundaryName mode [] (after.length + 1) after
        match rest with
        | '\x7d' :: rest =>
          match boundary? (!mode.unicode) (String.ofList name) with
          | some assertion => .ok (assertion, rest)
          | none => .error .invalidBoundary
        | _ => .error .invalidBoundary
  | _ => .ok plain

/-- Read the number of a character. In its fixed form it stands for a byte where characters are
bytes, and a byte outside ASCII is no character. -/
def readCode (mode : Mode) (letter : Char) (rest : List Char) :
    Except SyntaxError (Char × List Char) := do
  let digits := if letter = 'x' then 2 else if letter = 'u' then 4 else 8
  let ((c, isFixed), rest) ← readHex mode digits rest
  if !mode.unicode && isFixed && letter == 'x' && 0x80 ≤ c.toNat then throw .notCharacters
  return (c, rest)

/-- The character that a letter after a backslash stands for. -/
def control? (letter : Char) : Option Char :=
  ([('a', '\x07'), ('f', '\x0c'), ('t', '\t'), ('n', '\n'), ('r', '\r'), ('v', '\x0b')] :
    List (Char × Char)).lookup letter

/-- Read what follows a backslash. -/
def readEscape (mode : Mode) : List Char → Except SyntaxError (Escape × List Char)
  | [] => .error .unexpectedEnd
  | c :: rest =>
    if c.isDigit then .error .backReference
    else if c = 'x' ∨ c = 'u' ∨ c = 'U' then do
      let (c, rest) ← readCode mode c rest
      return (.literal c, rest)
    else if c = 'p' ∨ c = 'P' then do
      let (chars, rest) ← readProperty mode (c == 'P') rest
      return (.set chars, rest)
    else if "dswDSW".toList.contains c then do
      let chars ← letterSet mode c
      return (.set chars, rest)
    else if isEscapable c then .ok (.literal c, rest)
    else
      match control? c with
      | some c => .ok (.literal c, rest)
      | none =>
        match c with
        | 'A' => .ok (.look .textStart, rest)
        | 'z' => .ok (.look .textEnd, rest)
        | 'b' => do
          let (assertion, rest) ← readBoundary mode rest
          return (.look assertion, rest)
        | 'B' => .ok (.look (.notWordBoundary !mode.unicode), rest)
        | '<' => .ok (.look (.wordStart !mode.unicode), rest)
        | '>' => .ok (.look (.wordEnd !mode.unicode), rest)
        | _ => .error .unknownEscape

end Linear

end TextExpr
