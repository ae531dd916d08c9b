import Mathlib.Tactic.Lemma
import TextExpr.Pattern.Mode
import TextExpr.Unicode.Folding

/-!
# The syntax that the pattern languages share

The two pattern languages have most of their syntax in common, but not all that both of them accept
means the same in both. `IsShared` describes patterns that do, as lists of items: characters,
escapes, classes, groups, repetitions and flags. What is left out is read in two ways: a repetition
of a repetition, white space in counts, ignored white space, flags that are still switched where a
capture group ends, classes in classes, and conditions on words.
-/

namespace TextExpr

namespace Shared

/-! ## Escapes -/

/-- A sign that stands for itself after a backslash. -/
def isMark (c : Char) : Bool := c.toNat < 0x80 && !c.isAlphanum && c != '<' && c != '>'

/-- The control characters that have a letter. -/
def controls : List (Char × Char) :=
  [('a', '\x07'), ('f', '\x0c'), ('n', '\n'), ('r', '\r'), ('t', '\t'), ('v', '\x0b')]

/-- The letters before the number of a character, with how many digits follow. -/
def codeLengths : List (Char × Nat) := [('x', 2), ('u', 4), ('U', 8)]

/-- What may follow a backslash to write a character. -/
inductive CharEscape where
  /-- A sign. -/
  | mark (c : Char) (h : isMark c = true)
  /-- A letter for a control character. -/
  | control (letter c : Char) (h : (letter, c) ∈ controls)
  /-- The number of a character in a fixed number of digits. -/
  | code (letter : Char) (digits : List Char) (h : (letter, digits.length) ∈ codeLengths)
    (hdigits : ∀ d ∈ digits, (Unicode.hexDigit? d).isSome)
  /-- The number of a character in braces. -/
  | braced (letter : Char) (digits : List Char) (h : letter ∈ codeLengths.map (·.1))
    (hlength : 0 < digits.length ∧ digits.length ≤ 8)
    (hdigits : ∀ d ∈ digits, (Unicode.hexDigit? d).isSome)

namespace CharEscape

/-- What stands after the backslash. -/
def text : CharEscape → List Char
  | mark c _ => [c]
  | control letter _ _ => [letter]
  | code letter digits _ _ => letter :: digits
  | braced letter digits _ _ _ => letter :: '\x7b' :: digits ++ ['\x7d']

/-- The character of a number, if there is one. -/
def ofNumber? (digits : List Char) : Option Char :=
  if (Unicode.hexNumber digits).isValidChar then some (Char.ofNat (Unicode.hexNumber digits))
  else none

/-- The character that is written. -/
def char? : CharEscape → Option Char
  | mark c _ => some c
  | control _ c _ => some c
  | code _ digits _ _ => ofNumber? digits
  | braced _ digits _ _ _ => ofNumber? digits

/-- No other character is equal to the one that is written without regard to case, unless it is
written by its number. -/
def HasOneCase : CharEscape → Prop
  | mark c _ => Unicode.foldChar c = .singleton c
  | control _ c _ => Unicode.foldChar c = .singleton c
  | _ => True

end CharEscape

/-- What may follow a backslash to write a set of characters. -/
inductive SetEscape where
  /-- A letter for a set, or in upper case for its complement. -/
  | letter (c : Char) (h : c ∈ ['d', 's', 'w', 'D', 'S', 'W'])
  /-- A property of one letter; `P` is for its complement. -/
  | property (sign c : Char) (h : sign = 'p' ∨ sign = 'P') (hc : c ≠ '\x7b')
  /-- A property with its name in braces. -/
  | named (sign : Char) (name : List Char) (h : sign = 'p' ∨ sign = 'P') (hname : '\x7d' ∉ name)

/-- What stands after the backslash. -/
def SetEscape.text : SetEscape → List Char
  | letter c _ => [c]
  | property sign c _ _ => [sign, c]
  | named sign name _ _ => sign :: '\x7b' :: name ++ ['\x7d']

/-! ## Classes -/

/-- Characters that do not stand for themselves everywhere in a class. -/
def isClassSign (c : Char) : Bool := ['[', ']', '\\', '^', '-', '&', '~'].contains c

/-- A member of a class. -/
inductive Member where
  /-- A character that stands for itself. -/
  | plain (c : Char) (h : isClassSign c = false)
  /-- A character after a backslash. -/
  | escaped (e : CharEscape)
  /-- A set after a backslash. -/
  | set (e : SetEscape)

/-- How a member is written. -/
def Member.text : Member → List Char
  | plain c _ => [c]
  | escaped e => '\\' :: e.text
  | set e => '\\' :: e.text

/-- The names of ASCII classes. -/
def asciiNames : List String :=
  ["alnum", "alpha", "ascii", "blank", "cntrl", "digit", "graph", "lower", "print", "punct",
    "space", "upper", "word", "xdigit"]

/-- An item of a class. -/
inductive ClassItem where
  /-- A member. -/
  | one (member : Member)
  /-- The characters from one to another. -/
  | range (first last : Member)
  /-- An ASCII class, negated or not. -/
  | ascii (isNegated : Bool) (name : String) (h : name ∈ asciiNames)

/-- How an item of a class is written. -/
def ClassItem.text : ClassItem → List Char
  | one member => member.text
  | range first last => first.text ++ '-' :: last.text
  | ascii isNegated name _ =>
    '[' :: ':' :: (if isNegated then ['^'] else []) ++ name.toList ++ [':', ']']

/-- A hyphen that may stand where no range is possible. -/
def hyphen (isWritten : Bool) : List Char := if isWritten then ['-'] else []

/-- A class in brackets. -/
structure CharClass where
  /-- The class is negated. -/
  isNegated : Bool
  /-- A hyphen stands in front of the items. -/
  hyphenFirst : Bool
  /-- The first item. -/
  first : ClassItem
  /-- The other items. -/
  others : List ClassItem
  /-- A hyphen stands after the items. -/
  hyphenLast : Bool

namespace CharClass

/-- The items of a class. -/
def items (b : CharClass) : List ClassItem := b.first :: b.others

/-- What stands between the opening and the closing bracket. -/
def text (b : CharClass) : List Char :=
  (if b.isNegated then ['^'] else []) ++ hyphen b.hyphenFirst ++
    b.items.flatMap ClassItem.text ++ hyphen b.hyphenLast

end CharClass

/-! ## Parts -/

/-- Characters that do not stand for themselves outside of classes. -/
def isSign (c : Char) : Bool :=
  ['\\', '.', '+', '*', '?', '(', ')', '|', '[', '\x7b', '^', '$'].contains c

/-- The smallest parts of a pattern. -/
inductive Atom where
  /-- A character that stands for itself. -/
  | plain (c : Char) (h : isSign c = false)
  /-- A character after a backslash. -/
  | escaped (e : CharEscape)
  /-- A set after a backslash. -/
  | set (e : SetEscape)
  /-- A class in brackets. -/
  | charClass (b : CharClass)
  /-- Any character. -/
  | dot
  /-- The start of the text or of a line. -/
  | caret
  /-- The end of the text or of a line. -/
  | dollar
  /-- The start of the text. -/
  | textStart
  /-- The end of the text. -/
  | textEnd

namespace Atom

/-- How a part is written. -/
def text : Atom → List Char
  | plain c _ => [c]
  | escaped e => '\\' :: e.text
  | set e => '\\' :: e.text
  | charClass b => '[' :: b.text ++ [']']
  | dot => ['.']
  | caret => ['^']
  | dollar => ['$']
  | textStart => ['\\', 'A']
  | textEnd => ['\\', 'z']

/-- An escape for a character is understood alike whether case is ignored or not. -/
def Fits (mode : Mode) : Atom → Prop
  | escaped e => mode.ignoreCase = true → e.HasOneCase
  | _ => True

end Atom

/-- Digits of a count. -/
structure Digits where
  /-- The digits. -/
  chars : List Char
  /-- There is a digit. -/
  ne_nil : chars ≠ []
  /-- They are digits. -/
  isDigit : ∀ c ∈ chars, c.isDigit = true

/-- How often a part is repeated. -/
inductive Count where
  /-- Once or not at all. -/
  | optional
  /-- Any number of times. -/
  | star
  /-- At least once. -/
  | plus
  /-- A number of times. -/
  | exactly (count : Digits)
  /-- At least a number of times. -/
  | atLeast (least : Digits)
  /-- Between two numbers of times. -/
  | between (least most : Digits)

/-- How a count is written. -/
def Count.text : Count → List Char
  | optional => ['?']
  | star => ['*']
  | plus => ['+']
  | exactly count => '\x7b' :: count.chars ++ ['\x7d']
  | atLeast least => '\x7b' :: least.chars ++ [',', '\x7d']
  | between least most => '\x7b' :: least.chars ++ ',' :: most.chars ++ ['\x7d']

/-- A repetition. -/
structure Rounds where
  /-- How often. -/
  count : Count
  /-- A question mark follows. -/
  isMarked : Bool

/-- How a repetition is written. -/
def Rounds.text (r : Rounds) : List Char := r.count.text ++ if r.isMarked then ['?'] else []

/-- How the repetition that may follow a part is written. -/
def roundsText : Option Rounds → List Char
  | none => []
  | some r => r.text

/-! ## Flags and groups -/

/-- Flags as they are switched. -/
structure Switches where
  /-- The flags that are switched on. -/
  on : List Char
  /-- The flags that are switched off, if a hyphen follows. -/
  off : Option (List Char)
  /-- Ignored white space is not switched on. -/
  on_mem : ∀ c ∈ on, c ∈ ['i', 'm', 's', 'U', 'u']
  /-- Unicode is not switched off. -/
  off_mem : ∀ cs ∈ off, ∀ c ∈ cs, c ∈ ['i', 'm', 's', 'U', 'x']

namespace Switches

/-- How flags are written. -/
def text (f : Switches) : List Char :=
  f.on ++ match f.off with
    | none => []
    | some off => '-' :: off

/-- The mode after flags are switched one after the other. -/
def switchAll (on : Bool) (letters : List Char) (mode : Mode) : Mode :=
  letters.foldl (fun mode c => (mode.switch? c on).getD mode) mode

/-- The mode after the flags are switched. -/
def apply (f : Switches) (mode : Mode) : Mode :=
  switchAll false (f.off.getD []) (switchAll true f.on mode)

end Switches

/-- How a group is opened. -/
inductive Opening where
  /-- A capture group. -/
  | capture
  /-- A capture group with a name, written with a `P` or without. -/
  | named (long : Bool) (name : List Char) (h : '>' ∉ name)
    (hfirst : name.head? ≠ some '=' ∧ name.head? ≠ some '!')
  /-- A group for the sake of flags. -/
  | flags (switches : Switches)

namespace Opening

/-- How an opening is written. -/
def text : Opening → List Char
  | capture => ['(']
  | named long name _ _ => '(' :: '?' :: (if long then ['P'] else []) ++ '<' :: name ++ ['>']
  | flags switches => '(' :: '?' :: switches.text ++ [':']

/-- A capture group is opened. -/
def isCapture : Opening → Bool
  | flags _ => false
  | _ => true

/-- The mode in the group. -/
def inner (mode : Mode) : Opening → Mode
  | flags switches => switches.apply mode
  | _ => mode

end Opening

/-! ## Patterns -/

/-- An item of a pattern. -/
inductive Item where
  /-- A part, repeated or not. -/
  | atom (part : Atom) (rounds : Option Rounds)
  /-- A group begins. -/
  | opening (opening : Opening)
  /-- A group ends and is repeated or not. -/
  | closing (rounds : Option Rounds)
  /-- Another branch begins. -/
  | bar
  /-- Flags are switched for what follows. -/
  | switch (switches : Switches)

/-- How an item is written. -/
def Item.text : Item → List Char
  | atom part rounds => part.text ++ roundsText rounds
  | opening o => o.text
  | closing rounds => ')' :: roundsText rounds
  | bar => ['|']
  | switch switches => '(' :: '?' :: switches.text ++ [')']

/-- How a pattern is written. -/
def text (items : List Item) : List Char := items.flatMap Item.text

/-- The items may stand where a mode holds, inside of groups that are given from the innermost
outwards: whether each is a capture group, and the mode outside of it. A capture group ends in the
mode in which it has begun. -/
def Fits : (mode : Mode) → (groups : List (Bool × Mode)) → List Item → Prop
  | _, _, [] => True
  | mode, groups, .atom part _ :: items => part.Fits mode ∧ Fits mode groups items
  | mode, groups, .opening o :: items => Fits (o.inner mode) ((o.isCapture, mode) :: groups) items
  | mode, groups, .closing _ :: items =>
    match groups with
    | [] => True
    | (isCapture, outer) :: groups => (isCapture = true → mode = outer) ∧ Fits outer groups items
  | mode, groups, .bar :: items => Fits mode groups items
  | mode, groups, .switch switches :: items => Fits (switches.apply mode) groups items

/-- The pattern is written in the syntax that the pattern languages share. -/
def IsShared (pattern : String) : Prop :=
  ∃ items, Fits {} [] items ∧ pattern.toList = text items

/-! ## Modes -/

/-- Of what flags switch, only the flags that the shared syntax has are switched. -/
structure IsPlain (mode : Mode) : Prop where
  /-- Characters are those of Unicode. -/
  unicode : mode.unicode = true
  /-- Carriage returns end no lines. -/
  crlf : mode.crlf = false
  /-- White space stands for itself. -/
  ignoreSpace : mode.ignoreSpace = false

variable {mode : Mode} {rest : List Char}

/-- The flags that may be switched. -/
def flagLetters : List Char := ['i', 'm', 's', 'U', 'u', 'x']

lemma Switches.on_mem_flagLetters (f : Switches) : ∀ c ∈ f.on, c ∈ flagLetters := by
  intro c hc
  have hmem := f.on_mem c hc
  simp only [flagLetters, List.mem_cons, List.not_mem_nil, or_false] at hmem ⊢
  grind

lemma Switches.off_mem_flagLetters (f : Switches) : ∀ cs ∈ f.off, ∀ c ∈ cs, c ∈ flagLetters := by
  intro cs hcs c hc
  have hmem := f.off_mem cs hcs c hc
  simp only [flagLetters, List.mem_cons, List.not_mem_nil, or_false] at hmem ⊢
  grind

/-- A letter switches its flag. -/
lemma switch?_eq_some {c : Char} (hc : c ∈ flagLetters) (mode : Mode) (on : Bool) :
    mode.switch? c on = some ((mode.switch? c on).getD mode) := by
  simp only [flagLetters, List.mem_cons, List.not_mem_nil, or_false] at hc
  rcases hc with rfl | rfl | rfl | rfl | rfl | rfl <;> rfl

lemma Switches.text_append (f : Switches) {c : Char} (hc : c = ':' ∨ c = ')')
    (rest : List Char) :
    ∃ d later, f.text ++ c :: rest = d :: later ∧ d ∈ '-' :: ':' :: ')' :: flagLetters := by
  have hletters := f.on_mem_flagLetters
  rw [Switches.text]
  cases hon : f.on with
  | cons d on =>
    rw [hon] at hletters
    refine ⟨d, _, rfl, ?_⟩
    simp [hletters d List.mem_cons_self]
  | nil =>
    cases f.off with
    | some off => exact ⟨'-', _, rfl, by decide⟩
    | none => exact ⟨c, rest, rfl, by rcases hc with rfl | rfl <;> decide⟩

lemma IsPlain.switchAll (hmode : IsPlain mode) {on : Bool} {letters : List Char}
    (hletters : ∀ c ∈ letters, c ∈ ['i', 'm', 's', 'U'] ∨ c = if on then 'u' else 'x') :
    IsPlain (Switches.switchAll on letters mode) := by
  induction letters generalizing mode with
  | nil => exact hmode
  | cons c letters ih =>
    refine ih ?_ fun c hc => hletters c (List.mem_cons_of_mem _ hc)
    have hc := hletters c List.mem_cons_self
    simp only [List.mem_cons, List.not_mem_nil, or_false] at hc
    rcases hc with (rfl | rfl | rfl | rfl) | rfl
    · exact ⟨hmode.unicode, hmode.crlf, hmode.ignoreSpace⟩
    · exact ⟨hmode.unicode, hmode.crlf, hmode.ignoreSpace⟩
    · exact ⟨hmode.unicode, hmode.crlf, hmode.ignoreSpace⟩
    · exact ⟨hmode.unicode, hmode.crlf, hmode.ignoreSpace⟩
    · cases on with
      | true => exact ⟨rfl, hmode.crlf, hmode.ignoreSpace⟩
      | false => exact ⟨hmode.unicode, hmode.crlf, rfl⟩

lemma Switches.mem_on (f : Switches) :
    ∀ c ∈ f.on, c ∈ ['i', 'm', 's', 'U'] ∨ c = if true then 'u' else 'x' := by
  intro c hc
  have hmem := f.on_mem c hc
  simp only [List.mem_cons, List.not_mem_nil, or_false, if_true] at hmem ⊢
  grind

lemma Switches.mem_off (f : Switches) {off : List Char} (hoff : f.off = some off) :
    ∀ c ∈ off, c ∈ ['i', 'm', 's', 'U'] ∨ c = if false then 'u' else 'x' := by
  intro c hc
  have hmem := f.off_mem off hoff c hc
  simp only [List.mem_cons, List.not_mem_nil, or_false, Bool.false_eq_true, if_false] at hmem ⊢
  grind

/-- Switched flags leave white space and the kind of characters alone. -/
lemma IsPlain.apply (hmode : IsPlain mode) (f : Switches) : IsPlain (f.apply mode) := by
  refine IsPlain.switchAll (IsPlain.switchAll hmode f.mem_on) fun c hc => ?_
  cases hoff : f.off with
  | none => simp [hoff] at hc
  | some off => exact f.mem_off hoff c (by simpa [hoff] using hc)

/-! ## Repetitions -/

/-- The number that digits write. -/
def Digits.value (digits : Digits) : Nat := Nat.ofDigitChars 10 digits.chars 0

namespace Count

/-- The least number of rounds. -/
def least : Count → Nat
  | optional | star => 0
  | plus => 1
  | exactly count => count.value
  | atLeast least => least.value
  | between least _ => least.value

/-- The greatest number of rounds, if there is one. -/
def most : Count → Option Nat
  | optional => some 1
  | star | plus | atLeast _ => none
  | exactly count => some count.value
  | between _ most => some most.value

/-- The numbers that a count is written with are less than a bound. -/
def IsBelow (bound : Nat) (count : Count) : Prop :=
  count.least < bound ∧ ∀ most ∈ count.most, most < bound

end Count

/-- The signs of repetitions. -/
def roundSigns : List Char := ['?', '*', '+', '\x7b']

/-- The repetition prefers more rounds. -/
def Rounds.isGreedy (mode : Mode) (r : Rounds) : Bool := r.isMarked == mode.swapGreed

/-! ## Characters in lists -/

/-- What all characters of a list have, each of them has. -/
lemma of_contains {p : Char → Bool} {l : List Char} (hl : l.all p = true) {c : Char}
    (hc : l.contains c = true) : p c = true :=
  List.all_eq_true.mp hl c (List.contains_iff_mem.mp hc)

/-- A character without what all characters of a list have is none of them. -/
lemma contains_eq_false {p : Char → Bool} {l : List Char} (hl : l.all p = true) {c : Char}
    (hc : p c = false) : l.contains c = false :=
  Bool.eq_false_iff.mpr fun hmem => by simp [of_contains hl hmem] at hc

/-- A mark is in no list of other characters. -/
lemma contains_of_isMark {c : Char} (hc : isMark c = true) {l : List Char}
    (hl : l.all (fun d => !isMark d) = true) : l.contains c = false :=
  contains_eq_false hl (by rw [hc]; rfl)

/-- The characters up to one that ends them. -/
lemma takeWhile_append_cons {p : Char → Bool} {cs : List Char} (hcs : ∀ d ∈ cs, p d = true)
    {c : Char} (hc : p c = false) : (cs ++ c :: rest).takeWhile p = cs := by
  rw [List.takeWhile_append_of_pos hcs, List.takeWhile_cons_of_neg (by simp [hc]), List.append_nil]

/-- What remains begins with the one that ends them. -/
lemma dropWhile_append_cons {p : Char → Bool} {cs : List Char} (hcs : ∀ d ∈ cs, p d = true)
    {c : Char} (hc : p c = false) : (cs ++ c :: rest).dropWhile p = c :: rest := by
  rw [List.dropWhile_append_of_pos hcs, List.dropWhile_cons_of_neg (by simp [hc])]

lemma forall_bne {cs : List Char} {c : Char} (hc : c ∉ cs) : ∀ d ∈ cs, (d != c) = true :=
  fun _ hd => bne_iff_ne.mpr fun heq => hc (heq ▸ hd)

/-! ## What items begin with -/

/-- Characters that begin no item of a class. -/
def classBreaks : List Char := ['[', ']', '^', '-', '&', '~']

lemma Member.text_eq_cons (m : Member) : ∃ c later, m.text = c :: later ∧ c ∉ classBreaks := by
  cases m with
  | plain c hc =>
    have hsigns : classBreaks.all isClassSign = true := by decide
    exact ⟨c, [], rfl, fun hmem => by simp [List.all_eq_true.mp hsigns c hmem] at hc⟩
  | escaped e => exact ⟨'\\', e.text, rfl, by decide⟩
  | set e => exact ⟨'\\', e.text, rfl, by decide⟩

lemma ClassItem.text_eq_cons (item : ClassItem) :
    ∃ c later, item.text = c :: later ∧ c ≠ ']' ∧ c ≠ '^' ∧ c ≠ '-' := by
  have hbreaks : ∀ {c}, c ∉ classBreaks → c ≠ ']' ∧ c ≠ '^' ∧ c ≠ '-' := by
    simp only [classBreaks, List.mem_cons, not_or]
    exact fun h => ⟨h.2.1, h.2.2.1, h.2.2.2.1⟩
  cases item with
  | one m =>
    obtain ⟨c, later, htext, hc⟩ := m.text_eq_cons
    exact ⟨c, later, htext, hbreaks hc⟩
  | range first last =>
    obtain ⟨c, later, htext, hc⟩ := first.text_eq_cons
    exact ⟨c, later ++ '-' :: last.text, by simp [ClassItem.text, htext], hbreaks hc⟩
  | ascii isNegated name h => exact ⟨'[', _, rfl, by decide, by decide, by decide⟩

lemma Count.text_eq_cons (count : Count) :
    ∃ sign later, count.text = sign :: later ∧ sign ∈ roundSigns := by
  cases count <;> exact ⟨_, _, rfl, by decide⟩

/-- What follows begins with no comment. -/
def NoComment (rest : List Char) : Prop := ∀ later, rest ≠ '(' :: '?' :: '#' :: later

lemma noComment_of_head {c : Char} (hc : c ≠ '(') : NoComment (c :: rest) :=
  fun _ heq => hc (List.cons.inj heq).1

/-- What follows an item begins with no repetition and no comment. -/
structure Follows (rest : List Char) : Prop where
  /-- No repetition. -/
  sign : ∀ c ∈ rest.head?, c ∉ roundSigns
  /-- No comment. -/
  comment : NoComment rest

lemma Follows.of_head {c : Char} (hc : c ∉ roundSigns) (hopen : c ≠ '(') : Follows (c :: rest) where
  sign := by
    rintro _ ⟨⟩
    exact hc
  comment := noComment_of_head hopen

lemma Follows.of_opening {c : Char} (hc : c ≠ '#') : Follows ('(' :: '?' :: c :: rest) where
  sign := by
    rintro _ ⟨⟩
    decide
  comment := by
    rintro later heq
    obtain ⟨-, heq⟩ := List.cons.inj heq
    obtain ⟨-, heq⟩ := List.cons.inj heq
    exact hc (List.cons.inj heq).1

lemma Follows.ne_question (h : Follows rest) : rest.head? ≠ some '?' := by
  intro heq
  exact h.sign '?' heq (by decide)

lemma Atom.text_eq_cons (a : Atom) :
    ∃ c later, a.text = c :: later ∧ c ∉ roundSigns ∧ c ≠ '(' := by
  cases a with
  | plain c hc =>
    have hsigns : roundSigns.all isSign = true := by decide
    refine ⟨c, [], rfl, fun hmem => ?_, ?_⟩
    · simp [List.all_eq_true.mp hsigns c hmem] at hc
    · rintro rfl
      simp [isSign] at hc
  | _ => exact ⟨_, _, rfl, by decide, by decide⟩

lemma follows_item (item : Item) (hrest : Follows rest) : Follows (item.text ++ rest) := by
  cases item with
  | atom part rounds =>
    obtain ⟨c, later, htext, hc, hopen⟩ := part.text_eq_cons
    rw [Item.text, htext]
    exact .of_head hc hopen
  | opening o =>
    cases o with
    | capture =>
      -- the parenthesis would begin a comment only if a question mark followed
      refine ⟨by rintro _ ⟨⟩; decide, fun later heq => ?_⟩
      have hrest' : rest = '?' :: '#' :: later := (List.cons.inj heq).2
      exact hrest.ne_question (by rw [hrest']; rfl)
    | named long name hname hfirst => cases long <;> exact .of_opening (by decide)
    | flags f =>
      obtain ⟨d, later, htext, hd⟩ := f.text_append (.inl rfl) rest
      rw [Item.text, Opening.text]
      simp only [List.cons_append, List.append_assoc, List.nil_append]
      rw [htext]
      exact .of_opening (by rintro rfl; exact absurd hd (by decide))
  | closing rounds => exact .of_head (by decide) (by decide)
  | bar => exact .of_head (by decide) (by decide)
  | switch f =>
    obtain ⟨d, later, htext, hd⟩ := f.text_append (.inr rfl) rest
    rw [Item.text]
    simp only [List.cons_append, List.append_assoc, List.nil_append]
    rw [htext]
    exact .of_opening (by rintro rfl; exact absurd hd (by decide))

lemma follows_text (items : List Item) : Follows (text items) := by
  induction items with
  | nil => exact ⟨by simp [text], fun _ heq => by simp [text] at heq⟩
  | cons item items ih => exact follows_item item ih

end Shared

end TextExpr
