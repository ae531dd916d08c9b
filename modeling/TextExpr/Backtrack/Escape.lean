import TextExpr.Backtrack.State

/-!
# Escapes

What follows a backslash: references, characters, sets of characters and conditions. A reference
is resolved as it is read, so it can only go back.
-/

namespace TextExpr

namespace Backtrack

/-! ### References -/

/-- The state after a reference, which must be to a group that was opened before or to the whole
match, which is group 0 and open all the time. -/
def refer (state : ReadState) (group : Nat) : Except PatternError ReadState :=
  if state.groupCount < group then .error .invalidReference
  else .ok { state with references := group :: state.references }

/-- Read a reference by number. -/
def readNumbered (state : ReadState) (rest : List Char) :
    Except PatternError ((ReadState × Nat) × List Char) :=
  match readDecimal? rest with
  | none => .error .invalidReference
  | some (group, rest) => do
    if state.length / 2 ≤ group then throw .invalidReference
    let state ← refer { state with hasNumbered := true } group
    return ((state, group), rest)

/-- Read a reference by name or number up to a closing character. After a hyphen, groups are
counted back from the last one. -/
def readNamed (state : ReadState) (relative : Bool) (closing : Char) (rest : List Char) :
    Except PatternError ((ReadState × Nat) × List Char) :=
  match relative, rest with
  | true, '-' :: digits =>
    match readDecimal? digits with
    | some (back, c :: rest) =>
      if c = closing && back ≤ state.groupCount + 1 then do
        let group := state.groupCount + 1 - back
        return ((← refer state group, group), rest)
      else .error .invalidReference
    | _ => .error .invalidReference
  | _, _ =>
    match readName? closing rest with
    | none => .error .invalidGroupName
    | some (name, rest) =>
      let numbered := (readDecimal? name).bind fun (group, rest) =>
        if rest.isEmpty then some group else none
      match (state.names.lookup name).or numbered with
      | none => .error .invalidReference
      | some group => do return ((← refer state group, group), rest)

/-- Read a reference after its letter: a name in angle brackets or single quotes. -/
def readEnclosed (state : ReadState) : List Char →
    Except PatternError ((ReadState × Nat) × List Char)
  | '\'' :: rest => readNamed state true '\'' rest
  | '<' :: rest => readNamed state true '>' rest
  | _ => .error .invalidGroupName

/-! ### Escapes -/

/-- The character whose number hexadecimal digits write. -/
def hexChar (digits : List Char) : Except PatternError Char :=
  let value := Unicode.hexNumber digits
  if value.isValidChar then .ok (Char.ofNat value) else .error .invalidHex

/-- A hexadecimal digit. -/
def isHexDigit (c : Char) : Bool := (Unicode.hexDigit? c).isSome

/-- Read the number of a character: the given number of digits, or up to eight in braces. -/
def readHex (count : Nat) (rest : List Char) : Except PatternError (Char × List Char) :=
  let digits := rest.take count
  if digits.length = count && digits.all isHexDigit then do
    return (← hexChar digits, rest.drop count)
  else
    match rest with
    | '\x7b' :: rest =>
      let digits := rest.takeWhile isHexDigit
      match rest.dropWhile isHexDigit with
      | '\x7d' :: after =>
        if digits.isEmpty || 8 < digits.length then .error .invalidHex
        else do return (← hexChar digits, after)
      | _ => .error .invalidHex
    | _ => .error .invalidHex

/-- Read the name of a property after its letter, as it is written. -/
def readProperty : List Char → Except PatternError (List Char × List Char)
  | '\x7b' :: rest =>
    match rest.dropWhile (· != '\x7d') with
    | _ :: after => .ok ('\x7b' :: rest.takeWhile (· != '\x7d') ++ ['\x7d'], after)
    | [] => .error .unclosedProperty
  | c :: rest => .ok ([c], rest)
  | [] => .error .unclosedProperty

/-- The character that a letter after a backslash stands for. -/
def control? (letter : Char) : Option Char :=
  ([('a', '\x07'), ('f', '\x0c'), ('n', '\n'), ('r', '\r'), ('t', '\t'), ('v', '\x0b'),
    ('e', '\x1b')] : List (Char × Char)).lookup letter

/-- Read an escape that means the same inside and outside of a class. -/
def readCharEscape (mode : Mode) (c : Char) (rest : List Char) :
    Except PatternError (Tree × List Char) :=
  if "dswDSW".toList.contains c then .ok (.chars ['\\', c] mode.ignoreCase, rest)
  else if c = 'h' then .ok (.chars "[0-9A-Fa-f]".toList false, rest)
  else if c = 'H' then .ok (.chars "[^0-9A-Fa-f]".toList false, rest)
  else if c = 'x' ∨ c = 'u' ∨ c = 'U' then do
    let (d, rest) ← readHex (if c = 'x' then 2 else if c = 'u' then 4 else 8) rest
    return (.literal d mode.ignoreCase, rest)
  else if (c = 'p' ∨ c = 'P') ∧ rest ≠ [] then do
    let (name, rest) ← readProperty rest
    return (.chars ('\\' :: c :: name) mode.ignoreCase, rest)
  else
    match control? c with
    | some d => .ok (.literal d false, rest)
    | none => if c.isAlpha then .error .invalidEscape else .ok (.literal c false, rest)

/-- A condition about both sides of a position, after which no brace may stand: braces would name
another kind of boundary. -/
def readBoundary (state : ReadState) (condition : Assertion) :
    List Char → Except PatternError ((ReadState × Tree) × List Char)
  | '\x7b' :: _ => .error .invalidEscape
  | rest => .ok ((state, .assertion condition), rest)

/-- Read what follows a backslash outside of a class. -/
def readEscape (state : ReadState) : List Char →
    Except PatternError ((ReadState × Tree) × List Char)
  | [] => .error .invalidEscape
  | c :: rest =>
    if c.isDigit then do
      let ((state, group), rest) ← readNumbered state (c :: rest)
      return ((state, .backref group), rest)
    else
      match c with
      | 'k' => do
        let ((state, group), rest) ← readEnclosed state rest
        return ((state, .backref group), rest)
      | 'A' => .ok ((state, .assertion .textStart), rest)
      | 'z' => .ok ((state, .assertion .textEnd), rest)
      | 'b' => readBoundary state (.wordBoundary false) rest
      | 'B' => readBoundary state (.notWordBoundary false) rest
      | '<' => .ok ((state, .assertion (.wordStart false)), rest)
      | '>' => .ok ((state, .assertion (.wordEnd false)), rest)
      | 'K' => .ok ((state, .matchStart), rest)
      | 'G' => .ok ((state, .searchStart), rest)
      | c => do
        let (tree, rest) ← readCharEscape state.mode c rest
        return ((state, tree), rest)

end Backtrack

end TextExpr
