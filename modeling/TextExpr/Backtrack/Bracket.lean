import TextExpr.Backtrack.Escape

/-!
# Bracketed classes

A class is kept as it is written, except that its escapes are exchanged for those of the linear
engine, which knows fewer of them.
-/

namespace TextExpr

namespace Backtrack

/-- A character that may need a backslash in a class. -/
def isClassMeta (c : Char) : Bool := "\\.+*?()|[]\x7b\x7d^$#&-~".toList.contains c

/-- A character as it is written in a class. -/
def inClass (c : Char) : List Char := if isClassMeta c then ['\\', c] else [c]

/-- Read an escape in a class, as it is written for the linear engine. Letters that are conditions
or references elsewhere stand for themselves. -/
def readClassEscape (mode : Mode) : List Char → Except PatternError (List Char × List Char)
  | [] => .error .invalidEscape
  | 'b' :: rest => .ok (['\x08'], rest)
  | c :: rest =>
    if c.isDigit then .error .invalidClass
    else if "kAzBKG".toList.contains c then .ok ([c], rest)
    else do
      let (tree, rest) ← readCharEscape mode c rest
      match tree with
      | .literal d _ => return (inClass d, rest)
      | .chars source _ => return (source, rest)
      | _ => throw .invalidClass

/-- Read a class up to the bracket that closes the outermost of `depth + 1` open ones. What was
read comes in reverse. -/
def readClassText (mode : Mode) :
    (fuel : Nat) → (depth : Nat) → (acc : List Char) → List Char →
      Except PatternError (List Char × List Char)
  | 0, _, _, _ => .error .invalidClass
  | _ + 1, _, _, [] => .error .invalidClass
  | fuel + 1, depth, acc, c :: rest =>
    match c with
    | '\\' => do
      let (text, rest) ← readClassEscape mode rest
      readClassText mode fuel depth (text.reverse ++ acc) rest
    | '[' => readClassText mode fuel (depth + 1) ('[' :: acc) rest
    | ']' =>
      match depth with
      | 0 => .ok ((']' :: acc).reverse, rest)
      | depth + 1 => readClassText mode fuel depth (']' :: acc) rest
    | c => readClassText mode fuel depth (c :: acc) rest

/-- Read a class after its opening bracket. -/
def readClass (mode : Mode) (rest : List Char) : Except PatternError (Tree × List Char) := do
  let (acc, rest) := match rest with
    | '^' :: rest => (['^', '['], rest)
    | rest => (['['], rest)
  let (acc, rest) := match rest with
    | ']' :: rest => (']' :: acc, rest)
    | rest => (acc, rest)
  let (source, rest) ← readClassText mode (rest.length + 1) 0 acc rest
  return (.chars source mode.ignoreCase, rest)

end Backtrack

end TextExpr
