/-!
# Modes

What inline flags switch while a pattern is read.
-/

namespace TextExpr

/-- What inline flags switch. -/
structure Mode where
  /-- `i`: ignore case. -/
  ignoreCase : Bool := false
  /-- `m`: anchors also match at line breaks. -/
  multiline : Bool := false
  /-- `s`: the dot also matches line breaks. -/
  dotAll : Bool := false
  /-- `U`: repetitions prefer fewer rounds unless marked. -/
  swapGreed : Bool := false
  /-- `u`: characters are those of Unicode and not bytes. -/
  unicode : Bool := true
  /-- `R`: carriage returns end lines too. -/
  crlf : Bool := false
  /-- `x`: white space and comments are skipped. -/
  ignoreSpace : Bool := false
deriving DecidableEq, Repr, Inhabited

namespace Mode

/-- The mode with the flag of a letter switched; none if the letter names no flag. -/
def switch? (mode : Mode) (letter : Char) (on : Bool) : Option Mode :=
  match letter with
  | 'i' => some { mode with ignoreCase := on }
  | 'm' => some { mode with multiline := on }
  | 's' => some { mode with dotAll := on }
  | 'U' => some { mode with swapGreed := on }
  | 'u' => some { mode with unicode := on }
  | 'R' => some { mode with crlf := on }
  | 'x' => some { mode with ignoreSpace := on }
  | _ => none

end Mode

end TextExpr
