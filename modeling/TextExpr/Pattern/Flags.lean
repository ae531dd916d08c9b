import TextExpr.Expr.Error

/-!
# Pattern flags

Six letters, each of which may be given once and in any order. Three of them (`i`, `m`, `s`) are
handed to the engine as an inline group in front of the pattern; the others steer how matches are
looked for.
-/

namespace TextExpr

/-- The flags of a pattern. -/
structure Flags where
  /-- `g`: find every match. -/
  isGlobal : Bool := false
  /-- `i`: ignore case. -/
  ignoreCase : Bool := false
  /-- `m`: anchors also match at line breaks. -/
  multiline : Bool := false
  /-- `s`: the dot also matches line breaks. -/
  dotAll : Bool := false
  /-- `u`: accepted without effect. -/
  unicode : Bool := false
  /-- `y`: a match must start where the search starts. -/
  sticky : Bool := false
deriving DecidableEq, Repr, Inhabited

namespace Flags

/-- The flags with the one of a letter set; none if the letter names no flag. -/
def set? (flags : Flags) (letter : Char) : Option Flags :=
  match letter with
  | 'g' => some { flags with isGlobal := true }
  | 'i' => some { flags with ignoreCase := true }
  | 'm' => some { flags with multiline := true }
  | 's' => some { flags with dotAll := true }
  | 'u' => some { flags with unicode := true }
  | 'y' => some { flags with sticky := true }
  | _ => none

/-- The flags that letters, none of them twice, name in any order. -/
def parse (letters : String) : Except EvalError Flags :=
  match if letters.toList.Nodup then letters.toList.foldlM set? {} else none with
  | some flags => .ok flags
  | none => .error (.invalidFlags letters)

/-- Each letter in its place with whether its flag is set. -/
def letters (flags : Flags) : List (Bool × Char) := [
  (flags.isGlobal, 'g'), (flags.ignoreCase, 'i'), (flags.multiline, 'm'), (flags.dotAll, 's'),
  (flags.unicode, 'u'), (flags.sticky, 'y')]

/-- The letters that are set, among letters with whether they are. -/
def chosen (letters : List (Bool × Char)) : List Char :=
  (letters.filter (·.1)).map (·.2)

/-- The letters of the flags in their fixed order. -/
def text (flags : Flags) : String := String.ofList (chosen flags.letters)

/-- The letters that an engine takes as an inline group. -/
def inlineLetters (flags : Flags) : List Char :=
  chosen [(flags.ignoreCase, 'i'), (flags.multiline, 'm'), (flags.dotAll, 's')]

/-- A pattern source with the flags that concern the engine in front of it. -/
def apply (flags : Flags) (source : String) : String :=
  match flags.inlineLetters with
  | [] => source
  | inline => String.ofList (['(', '?'] ++ inline ++ [')']) ++ source

/-- The flags as a message shows them. -/
def describe (flags : Flags) : String :=
  let field := fun (name : String) (on : Bool) => name ++ ": " ++ toString on
  "Flags \x7b " ++ ", ".intercalate [
    field "global" flags.isGlobal, field "ignore_case" flags.ignoreCase,
    field "multiline" flags.multiline, field "dot_all" flags.dotAll,
    field "unicode" flags.unicode, field "sticky" flags.sticky] ++ " \x7d"

end Flags

end TextExpr
