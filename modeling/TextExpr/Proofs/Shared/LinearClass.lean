import TextExpr.Linear.Parser
import TextExpr.Proofs.Shared.Syntax
import TextExpr.Proofs.TreePlan

/-!
# Escapes and classes of the shared syntax in the linear engine

What the escapes and the classes of the shared syntax stand for, and that the readers of the linear
engine find it: whatever follows, they stop where the escape or the class ends.
-/

namespace TextExpr

namespace Shared

/-! ## Modes -/

/-- The mode of which only the case counts. -/
def ofCase (ignoreCase : Bool) : Mode := { ignoreCase }

lemma isPlain_ofCase (ignoreCase : Bool) : IsPlain (ofCase ignoreCase) := ⟨rfl, rfl, rfl⟩

variable {mode : Mode} {rest : List Char}

lemma IsPlain.skip (hmode : IsPlain mode) (rest : List Char) : Linear.skip mode rest = rest := by
  simp [Linear.skip, hmode.ignoreSpace]

lemma IsPlain.folded (hmode : IsPlain mode) (chars : CharSet) :
    Linear.folded mode chars = Linear.folded (ofCase mode.ignoreCase) chars := by
  simp [Linear.folded, ofCase, hmode.unicode]

/-- The set or, if asked for, its complement. -/
def complementIf (negate : Bool) (chars : CharSet) : CharSet :=
  if negate then chars.complement else chars

lemma IsPlain.negated (hmode : IsPlain mode) (negate : Bool) (chars : CharSet) :
    Linear.negated mode negate chars = .ok (complementIf negate chars) := by
  cases negate <;> simp [Linear.negated, complementIf, hmode.unicode]

/-! ## Escapes for characters -/

/-- The number that digits write after a number that stands in front of them. -/
def hexFrom (value : Nat) (digits : List Char) : Nat :=
  digits.foldl (fun n c => match Unicode.hexDigit? c with | some d => 16 * n + d | none => n) value

lemma hexFrom_cons {c : Char} {d : Nat} (hd : Unicode.hexDigit? c = some d) (value : Nat)
    (digits : List Char) : hexFrom value (c :: digits) = hexFrom (16 * value + d) digits := by
  simp [hexFrom, hd]

lemma readHexFixed_append (hmode : IsPlain mode) {digits : List Char} (value : Nat)
    (hdigits : ∀ d ∈ digits, (Unicode.hexDigit? d).isSome) :
    Linear.readHexFixed mode value digits.length (digits ++ rest) =
      .ok (hexFrom value digits, rest) := by
  induction digits generalizing value with
  | nil => simp [Linear.readHexFixed, hmode.skip, hexFrom]
  | cons c digits ih =>
    obtain ⟨d, hd⟩ := Option.isSome_iff_exists.mp (hdigits c List.mem_cons_self)
    simp only [List.length_cons, List.cons_append, Linear.readHexFixed, hmode.skip, hd]
    rw [ih _ fun d hd => hdigits d (List.mem_cons_of_mem c hd), hexFrom_cons hd]

lemma readHexDigits_append (hmode : IsPlain mode) {digits : List Char} (value count : Nat)
    {fuel : Nat} (hdigits : ∀ d ∈ digits, (Unicode.hexDigit? d).isSome)
    (hfuel : digits.length < fuel) :
    Linear.readHexDigits mode value count fuel (digits ++ '\x7d' :: rest) =
      .ok ((hexFrom value digits, count + digits.length), rest) := by
  induction digits generalizing value count fuel with
  | nil =>
    obtain ⟨fuel, rfl⟩ := Nat.exists_eq_succ_of_ne_zero (Nat.ne_zero_of_lt hfuel)
    simp [Linear.readHexDigits, hmode.skip, hexFrom]
  | cons c digits ih =>
    obtain ⟨fuel, rfl⟩ := Nat.exists_eq_succ_of_ne_zero (Nat.ne_zero_of_lt hfuel)
    obtain ⟨d, hd⟩ := Option.isSome_iff_exists.mp (hdigits c List.mem_cons_self)
    have hne : c ≠ '\x7d' := by
      rintro rfl
      exact absurd (hd.symm.trans (by decide : _ = none)) (by simp)
    simp only [List.length_cons, List.cons_append, Linear.readHexDigits, hmode.skip, hd,
      if_neg hne]
    rw [ih _ _ (fun d hd => hdigits d (List.mem_cons_of_mem c hd)) (by simpa using hfuel),
      hexFrom_cons hd]
    simp only [Nat.add_comm, Nat.add_left_comm]

/-- The number of digits that follow a letter before the number of a character. -/
lemma eq_of_mem_codeLengths {letter : Char} {count : Nat} (h : (letter, count) ∈ codeLengths) :
    (letter = 'x' ∨ letter = 'u' ∨ letter = 'U') ∧
      count = if letter = 'x' then 2 else if letter = 'u' then 4 else 8 := by
  simp only [codeLengths, List.mem_cons, Prod.mk.injEq, List.not_mem_nil, or_false] at h
  rcases h with ⟨rfl, rfl⟩ | ⟨rfl, rfl⟩ | ⟨rfl, rfl⟩ <;> decide

lemma readEscape_code {letter : Char} (h : letter = 'x' ∨ letter = 'u' ∨ letter = 'U') :
    Linear.readEscape mode (letter :: rest) = (do
      let (c, rest) ← Linear.readCode mode letter rest
      return (.literal c, rest)) := by
  rcases h with rfl | rfl | rfl <;> rfl

lemma charOf?_hexFrom (digits : List Char) :
    Linear.charOf? (hexFrom 0 digits) = CharEscape.ofNumber? digits := rfl

/-- What the character of a number is taken for, once its digits are read. -/
lemma readCode_of_readHex (hmode : IsPlain mode) {letter : Char} {result : Char × List Char}
    (h : Linear.readCode mode letter rest = .ok result) : ∃ isFixed,
    Linear.readHex mode (if letter = 'x' then 2 else if letter = 'u' then 4 else 8) rest =
      .ok ((result.1, isFixed), result.2) := by
  simp only [Linear.readCode, hmode.unicode, Bool.not_true, Bool.false_and, Bool.false_eq_true,
    if_false, bind_eq_ok, pure_eq_ok] at h
  obtain ⟨⟨⟨c, isFixed⟩, after⟩, hread, rfl⟩ := h
  exact ⟨isFixed, hread⟩

lemma readHex_fixed (hmode : IsPlain mode) {digits : List Char} (hpos : digits ≠ [])
    (hdigits : ∀ d ∈ digits, (Unicode.hexDigit? d).isSome) {result : (Char × Bool) × List Char}
    (h : Linear.readHex mode digits.length (digits ++ rest) = .ok result) :
    CharEscape.ofNumber? digits = some result.1.1 ∧ result.2 = rest := by
  obtain ⟨c, later, rfl⟩ := List.exists_cons_of_ne_nil hpos
  have hne : c ≠ '\x7b' := by
    rintro rfl
    exact absurd (hdigits _ List.mem_cons_self) (by decide)
  have hread := @readHexFixed_append mode rest hmode (c :: later) 0 hdigits
  rw [List.cons_append] at h hread
  simp only [Linear.readHex, hmode.skip, if_neg hne, hread, bind_eq_ok, Except.ok.injEq] at h
  obtain ⟨_, rfl, h⟩ := h
  rw [charOf?_hexFrom] at h
  split at h
  · next c hc =>
    obtain rfl := pure_eq_ok.mp h
    exact ⟨hc, rfl⟩
  · exact (throw_eq_ok.mp h).elim

lemma readHex_braced (hmode : IsPlain mode) {digits : List Char} {count : Nat}
    (hdigits : ∀ d ∈ digits, (Unicode.hexDigit? d).isSome) {result : (Char × Bool) × List Char}
    (h : Linear.readHex mode count ('\x7b' :: digits ++ '\x7d' :: rest) = .ok result) :
    CharEscape.ofNumber? digits = some result.1.1 ∧ result.2 = rest := by
  have hread := @readHexDigits_append mode rest hmode digits 0 0
    ((digits ++ '\x7d' :: rest).length + 1) hdigits
    (by rw [List.length_append]; omega)
  simp only [List.cons_append, Linear.readHex, hmode.skip, if_true, hread, bind_eq_ok,
    Except.ok.injEq] at h
  obtain ⟨_, rfl, h⟩ := h
  split at h
  · exact (throw_bind_eq_ok.mp h).elim
  · simp only at h
    rw [charOf?_hexFrom] at h
    split at h
    · next c hc =>
      obtain rfl := pure_eq_ok.mp h
      exact ⟨hc, rfl⟩
    · exact (throw_eq_ok.mp h).elim

lemma ne_of_isMark {c d : Char} (hc : isMark c = true) (hd : isMark d = false) : c ≠ d := by
  rintro rfl
  simp [hc] at hd

lemma isDigit_of_isMark {c : Char} (hc : isMark c = true) : c.isDigit = false := by
  simp only [isMark, Char.isAlphanum, Bool.and_eq_true, Bool.not_eq_true',
    Bool.or_eq_false_iff] at hc
  exact hc.1.1.2.2

lemma readEscape_mark {c : Char} (hc : isMark c = true) :
    Linear.readEscape mode (c :: rest) = .ok (.literal c, rest) := by
  have hdigit := isDigit_of_isMark hc
  have hcode : ¬ (c = 'x' ∨ c = 'u' ∨ c = 'U') := by
    simp only [not_or]
    exact ⟨ne_of_isMark hc rfl, ne_of_isMark hc rfl, ne_of_isMark hc rfl⟩
  have hproperty : ¬ (c = 'p' ∨ c = 'P') := by
    simp only [not_or]
    exact ⟨ne_of_isMark hc rfl, ne_of_isMark hc rfl⟩
  have hletter : "dswDSW".toList.contains c = false := contains_of_isMark hc (by decide)
  have hescapable : Linear.isEscapable c = true := by
    simp only [Linear.isEscapable, Bool.or_eq_true]
    exact .inr hc
  simp only [Linear.readEscape, hdigit, if_neg hcode, if_neg hproperty, hletter, hescapable,
    Bool.false_eq_true, if_false, if_true]

/-- An escape for a character is read as such, up to its end. -/
lemma readEscape_char (hmode : IsPlain mode) (e : CharEscape) {result : Linear.Escape × List Char}
    (h : Linear.readEscape mode (e.text ++ rest) = .ok result) :
    ∃ c, e.char? = some c ∧ result = (.literal c, rest) := by
  cases e with
  | mark c hc => exact ⟨c, rfl, Except.ok.inj (h.symm.trans (readEscape_mark hc))⟩
  | control letter c hc =>
    refine ⟨c, rfl, Except.ok.inj (h.symm.trans ?_)⟩
    simp only [controls, List.mem_cons, Prod.mk.injEq, List.not_mem_nil, or_false] at hc
    rcases hc with ⟨rfl, rfl⟩ | ⟨rfl, rfl⟩ | ⟨rfl, rfl⟩ | ⟨rfl, rfl⟩ | ⟨rfl, rfl⟩ | ⟨rfl, rfl⟩ <;>
      rfl
  | code letter digits hletter hdigits =>
    obtain ⟨hcase, hlength⟩ := eq_of_mem_codeLengths hletter
    have hpos : digits ≠ [] := by
      rintro rfl
      simp [codeLengths] at hletter
    rw [CharEscape.text, List.cons_append, readEscape_code hcase] at h
    simp only [bind_eq_ok, pure_eq_ok] at h
    obtain ⟨⟨c, after⟩, hread, rfl⟩ := h
    obtain ⟨isFixed, hread⟩ := readCode_of_readHex hmode hread
    rw [← hlength] at hread
    obtain ⟨hchar, rfl⟩ := readHex_fixed hmode hpos hdigits hread
    exact ⟨c, hchar, rfl⟩
  | braced letter digits hletter hlength hdigits =>
    have hcase : letter = 'x' ∨ letter = 'u' ∨ letter = 'U' := by
      simpa [codeLengths] using hletter
    rw [CharEscape.text, List.cons_append, List.cons_append, List.append_assoc,
      readEscape_code hcase] at h
    simp only [bind_eq_ok, pure_eq_ok] at h
    obtain ⟨⟨c, after⟩, hread, rfl⟩ := h
    obtain ⟨isFixed, hread⟩ := readCode_of_readHex hmode hread
    obtain ⟨hchar, rfl⟩ := readHex_braced hmode hdigits hread
    exact ⟨c, hchar, rfl⟩


/-! ## Escapes for sets -/

/-- The set of a property that has been looked up. -/
def property? (ignoreCase : Bool) (sign : Char) (found : Option (CharSet × Bool)) :
    Option CharSet :=
  found.map fun (chars, inverted) =>
    complementIf ((sign == 'P') != inverted) (Linear.folded (ofCase ignoreCase) chars)

/-- The set that an escape stands for, if there is one. -/
def SetEscape.chars? (ignoreCase : Bool) : SetEscape → Option CharSet
  | letter c _ => (Linear.letterSet (ofCase ignoreCase) c).toOption
  | property sign c _ _ => property? ignoreCase sign ((Unicode.named? [c]).map (·, false))
  | named sign name _ _ => property? ignoreCase sign (Linear.braceProperty? name)

lemma IsPlain.letterSet (hmode : IsPlain mode) (c : Char) :
    Linear.letterSet mode c = Linear.letterSet (ofCase mode.ignoreCase) c := by
  simp [Linear.letterSet, hmode.negated, (isPlain_ofCase _).negated, hmode.unicode,
    (isPlain_ofCase _).unicode]

lemma readBraced_append (hmode : IsPlain mode) {name : List Char} (acc : List Char) {fuel : Nat}
    (hname : '\x7d' ∉ name) (hfuel : name.length < fuel) :
    Linear.readBraced mode acc fuel (name ++ '\x7d' :: rest) =
      .ok (acc.reverse ++ name, rest) := by
  induction name generalizing acc fuel with
  | nil =>
    obtain ⟨fuel, rfl⟩ := Nat.exists_eq_succ_of_ne_zero (Nat.ne_zero_of_lt hfuel)
    simp [Linear.readBraced, hmode.skip]
  | cons c name ih =>
    obtain ⟨fuel, rfl⟩ := Nat.exists_eq_succ_of_ne_zero (Nat.ne_zero_of_lt hfuel)
    obtain ⟨hne, hname⟩ := not_or.mp (mt List.mem_cons.mpr hname)
    simp only [List.cons_append, Linear.readBraced, hmode.skip, if_neg (Ne.symm hne)]
    rw [ih _ hname (by simpa using hfuel)]
    simp

/-- What the set of a property is, once it has been looked up. -/
lemma readProperty_found (hmode : IsPlain mode) {sign : Char} {found : Option (CharSet × Bool)}
    {result : CharSet × List Char}
    (h : (match found with
      | none => throw .unknownProperty
      | some (chars, inverted) => do
        if !mode.unicode then throw .notCharacters
        let chars ← Linear.negated mode ((sign == 'P') != inverted) (Linear.folded mode chars)
        return (chars, rest) : Except Linear.SyntaxError (CharSet × List Char)) = .ok result) :
    property? mode.ignoreCase sign found = some result.1 ∧ result.2 = rest := by
  cases found with
  | none => exact (throw_eq_ok.mp h).elim
  | some found =>
    simp only [hmode.unicode, Bool.not_true, Bool.false_eq_true, if_false, hmode.negated,
      bind_eq_ok, Except.ok.injEq, pure_eq_ok] at h
    obtain ⟨_, rfl, rfl⟩ := h
    simp [property?, hmode.folded]

lemma readEscape_property {sign : Char} (h : sign = 'p' ∨ sign = 'P') :
    Linear.readEscape mode (sign :: rest) = (do
      let (chars, rest) ← Linear.readProperty mode (sign == 'P') rest
      return (.set chars, rest)) := by
  rcases h with rfl | rfl <;> rfl

/-- An escape for a set is read as such, up to its end. -/
lemma readEscape_set (hmode : IsPlain mode) (e : SetEscape) {result : Linear.Escape × List Char}
    (h : Linear.readEscape mode (e.text ++ rest) = .ok result) :
    ∃ chars, e.chars? mode.ignoreCase = some chars ∧ result = (.set chars, rest) := by
  cases e with
  | letter c hc =>
    have hread : Linear.readEscape mode (c :: rest) = (do
        let chars ← Linear.letterSet mode c
        return (.set chars, rest)) := by
      simp only [List.mem_cons, List.not_mem_nil, or_false] at hc
      rcases hc with rfl | rfl | rfl | rfl | rfl | rfl <;> rfl
    rw [SetEscape.text, List.cons_append, List.nil_append, hread] at h
    simp only [bind_eq_ok, pure_eq_ok] at h
    obtain ⟨chars, hset, rfl⟩ := h
    refine ⟨chars, ?_, rfl⟩
    rw [SetEscape.chars?, ← hmode.letterSet, hset]
    rfl
  | property sign c hsign hc =>
    rw [SetEscape.text, List.cons_append, List.cons_append, List.nil_append,
      readEscape_property hsign] at h
    simp only [Linear.readProperty, hmode.skip, if_neg hc, bind_eq_ok, pure_eq_ok] at h
    obtain ⟨⟨chars, after⟩, h, rfl⟩ := h
    split at h
    · simp [bind_eq_ok] at h
    · simp only [bind_eq_ok, pure_eq_ok] at h
      obtain ⟨_, rfl, h⟩ := h
      obtain ⟨hset, rfl⟩ := readProperty_found hmode h
      exact ⟨chars, hset, rfl⟩
  | named sign name hsign hname =>
    have hread := @readBraced_append mode rest hmode name [] ((name ++ '\x7d' :: rest).length + 1)
      hname (by rw [List.length_append]; omega)
    rw [SetEscape.text, List.cons_append, List.cons_append, List.cons_append, List.cons_append,
      List.append_assoc, readEscape_property hsign] at h
    simp only [Linear.readProperty, hmode.skip, if_true, bind_eq_ok, pure_eq_ok,
      List.cons_append, List.nil_append, hread, Except.ok.injEq] at h
    obtain ⟨⟨chars, after⟩, ⟨_, rfl, _, rfl, h⟩, rfl⟩ := h
    obtain ⟨hset, rfl⟩ := readProperty_found hmode h
    exact ⟨chars, hset, rfl⟩


/-! ## Classes -/

/-- What a member of a class stands for. -/
def Member.item? (ignoreCase : Bool) : Member → Option Linear.SetItem
  | plain c _ => some (.literal c)
  | escaped e => e.char?.map .literal
  | set e => (e.chars? ignoreCase).map .set

/-- The characters of an item of a class, if the item is well-formed. -/
def ClassItem.chars? (ignoreCase : Bool) : ClassItem → Option CharSet
  | one m =>
    match m.item? ignoreCase with
    | some (.literal c) => some (.singleton c)
    | some (.set chars) => some chars
    | none => none
  | range first last =>
    match first.item? ignoreCase, last.item? ignoreCase with
    | some (.literal lo), some (.literal hi) => if hi < lo then none else some (.interval lo hi)
    | _, _ => none
  | ascii isNegated name _ => (Linear.asciiClass? name).map fun chars =>
    complementIf isNegated (Linear.folded (ofCase ignoreCase) chars)

/-- The characters of a hyphen that may be written. -/
def hyphenSets (isWritten : Bool) : List CharSet := if isWritten then [.singleton '-'] else []

/-- The characters of a class, if the class is well-formed. -/
def CharClass.chars? (ignoreCase : Bool) (b : CharClass) : Option CharSet :=
  (b.items.mapM (ClassItem.chars? ignoreCase)).map fun sets =>
    complementIf b.isNegated (Linear.folded (ofCase ignoreCase)
      ((hyphenSets b.hyphenFirst ++ sets ++ hyphenSets b.hyphenLast).foldl CharSet.union .empty))

lemma readSetItem_member (hmode : IsPlain mode) (m : Member)
    {result : Linear.SetItem × List Char}
    (h : Linear.readSetItem mode (m.text ++ rest) = .ok result) :
    m.item? mode.ignoreCase = some result.1 ∧ result.2 = rest := by
  cases m with
  | plain c hc =>
    have hne : c ≠ '\\' := by
      rintro rfl
      simp [isClassSign] at hc
    have hread : Linear.readSetItem mode (c :: rest) = .ok (.literal c, rest) := by
      simp [Linear.readSetItem]
    obtain rfl := Except.ok.inj (h.symm.trans hread)
    exact ⟨rfl, rfl⟩
  | escaped e =>
    simp only [Member.text, List.cons_append, Linear.readSetItem, bind_eq_ok] at h
    obtain ⟨_, hread, h⟩ := h
    obtain ⟨c, hc, rfl⟩ := readEscape_char hmode e hread
    obtain rfl := pure_eq_ok.mp h
    exact ⟨by simp [Member.item?, hc], rfl⟩
  | set e =>
    simp only [Member.text, List.cons_append, Linear.readSetItem, bind_eq_ok] at h
    obtain ⟨_, hread, h⟩ := h
    obtain ⟨chars, hset, rfl⟩ := readEscape_set hmode e hread
    obtain rfl := pure_eq_ok.mp h
    exact ⟨by simp [Member.item?, hset], rfl⟩

lemma IsPlain.chars_literal (hmode : IsPlain mode) (c : Char) :
    Linear.SetItem.chars mode (.literal c) = .ok (.singleton c) := by
  simp [Linear.SetItem.chars, hmode.unicode]

/-- No range is made of an item and what follows it: no hyphen follows, or the class ends after
one. -/
def EndsItem (rest : List Char) : Prop :=
  rest.head? ≠ some '-' ∨ ∃ later, rest = '-' :: ']' :: later

lemma readRange_one (hmode : IsPlain mode) (m : Member) (hrest : EndsItem rest)
    {result : CharSet × List Char} (h : Linear.readRange mode (m.text ++ rest) = .ok result) :
    (ClassItem.one m).chars? mode.ignoreCase = some result.1 ∧ result.2 = rest := by
  simp only [Linear.readRange, bind_eq_ok] at h
  obtain ⟨⟨item, after⟩, hread, h⟩ := h
  obtain ⟨hitem, rfl⟩ := readSetItem_member hmode m hread
  simp only [hmode.skip] at h
  -- a hyphen at the end of the class is looked at but left where it is
  have hchars : ∃ chars, item.chars mode = .ok chars ∧ result = (chars, after) := by
    split at h
    · exact (throw_eq_ok.mp h).elim
    · next later =>
      rcases hrest with hrest | ⟨later', heq⟩
      · simp at hrest
      · obtain rfl := (List.cons.inj heq).2
        have hnext : Linear.peekPastHyphen mode (']' :: later') = some ']' := by
          simp [Linear.peekPastHyphen, hmode.ignoreSpace]
        rw [hnext, if_pos (.inl rfl)] at h
        obtain ⟨chars, hchars, heq⟩ := bind_eq_ok.mp h
        exact ⟨chars, hchars, (pure_eq_ok.mp heq).symm⟩
    · obtain ⟨chars, hchars, heq⟩ := bind_eq_ok.mp h
      exact ⟨chars, hchars, (pure_eq_ok.mp heq).symm⟩
  obtain ⟨chars, hchars, rfl⟩ := hchars
  refine ⟨?_, rfl⟩
  cases item with
  | literal c =>
    rw [hmode.chars_literal] at hchars
    simpa [ClassItem.chars?, hitem] using hchars
  | set chars => simpa [ClassItem.chars?, hitem, Linear.SetItem.chars] using hchars

lemma readRange_range (hmode : IsPlain mode) (first last : Member)
    {result : CharSet × List Char}
    (h : Linear.readRange mode ((ClassItem.range first last).text ++ rest) = .ok result) :
    (ClassItem.range first last).chars? mode.ignoreCase = some result.1 ∧ result.2 = rest := by
  obtain ⟨c, later, htext, hc⟩ := last.text_eq_cons
  simp only [ClassItem.text, List.append_assoc, List.cons_append, Linear.readRange,
    bind_eq_ok] at h
  obtain ⟨⟨lo, after⟩, hread, h⟩ := h
  obtain ⟨hlo, rfl⟩ := readSetItem_member hmode first hread
  -- an item begins with neither of the signs after which a hyphen stands for itself
  have hnext : ¬ (Linear.peekPastHyphen mode (last.text ++ rest) = some ']' ∨
      Linear.peekPastHyphen mode (last.text ++ rest) = some '-') := by
    simp only [Linear.peekPastHyphen, hmode.ignoreSpace, htext, List.cons_append]
    simp only [classBreaks, List.mem_cons, not_or] at hc
    simp [hc.2.1, hc.2.2.2.1]
  simp only [hmode.skip, if_neg hnext, bind_eq_ok] at h
  obtain ⟨⟨hi, after⟩, hread, h⟩ := h
  obtain ⟨hhi, rfl⟩ := readSetItem_member hmode last hread
  simp only at hlo hhi h
  cases lo with
  | set chars => exact (throw_eq_ok.mp h).elim
  | literal lo =>
    cases hi with
    | set chars => exact (throw_eq_ok.mp h).elim
    | literal hi =>
      simp only [hmode.chars_literal, bind_eq_ok] at h
      obtain ⟨_, -, _, -, h⟩ := h
      split at h
      · exact (throw_bind_eq_ok.mp h).elim
      · next hle =>
        obtain rfl := pure_eq_ok.mp h
        exact ⟨by simp [ClassItem.chars?, hlo, hhi, hle], rfl⟩

/-- What a name of an ASCII class is made of. -/
lemma asciiName {name : String} (h : name ∈ asciiNames) :
    name.toList.all (· != ':') = true ∧ name.toList.head? ≠ some '^' ∧
      (Linear.asciiClass? name).isSome = true := by
  have hall : asciiNames.all (fun name => name.toList.all (· != ':') &&
      (name.toList.head? != some '^' && (Linear.asciiClass? name).isSome)) = true := by decide
  simpa only [Bool.and_eq_true, bne_iff_ne] using List.all_eq_true.mp hall name h

lemma readAsciiClass?_text (isNegated : Bool) {name : String} (h : name ∈ asciiNames) :
    Linear.readAsciiClass? (':' :: ((if isNegated then ['^'] else []) ++
        (name.toList ++ ':' :: ']' :: rest))) =
      (Linear.asciiClass? name).map fun chars => ((isNegated, chars), rest) := by
  obtain ⟨hcolon, hhead, -⟩ := asciiName h
  have hall : ∀ c ∈ name.toList, (c != ':') = true := List.all_eq_true.mp hcolon
  have htake : (name.toList ++ ':' :: ']' :: rest).takeWhile (· != ':') = name.toList :=
    takeWhile_append_cons hall rfl
  have hdrop : (name.toList ++ ':' :: ']' :: rest).dropWhile (· != ':') = ':' :: ']' :: rest :=
    dropWhile_append_cons hall rfl
  cases isNegated with
  | true => simp [Linear.readAsciiClass?, htake, hdrop]
  | false =>
    cases hname : name.toList with
    | nil =>
      rw [hname] at hdrop htake
      simp [Linear.readAsciiClass?, String.toList_eq_nil_iff.mp hname]
    | cons c cs =>
      rw [hname] at hhead htake hdrop
      rw [List.cons_append] at htake hdrop
      have hne : c ≠ '^' := by simpa using hhead
      have hofList : String.ofList (c :: cs) = name := by rw [← hname, String.ofList_toList]
      unfold Linear.readAsciiClass?
      split
      · next heq =>
        obtain rfl := (List.cons.inj heq).2
        simp [htake, hdrop, hofList, hne]
      · simp at *

lemma ofChar?_eq_none {c : Char} (hc : c ∉ classBreaks) : Linear.SetOperator.ofChar? c = none := by
  unfold Linear.SetOperator.ofChar?
  split <;> simp [classBreaks] at hc ⊢

/-- Before an item of a class that begins with no sign of a class the reader goes on with the
item. -/
lemma readBrackets_head (hmode : IsPlain mode) {c : Char} (hc : c ∉ classBreaks)
    {later : List Char} {fuel : Nat} {bracket : Linear.Bracket} :
    Linear.readBrackets mode (fuel + 1) bracket [] (c :: later) = (do
      let (chars, rest) ← Linear.readRange mode (c :: later)
      Linear.readBrackets mode fuel (bracket.add chars) [] rest) := by
  have hnone := ofChar?_eq_none hc
  rw [Linear.readBrackets, hmode.skip]
  split
  · simp at *
  · simp_all [classBreaks]
  · simp_all [classBreaks]
  · next heq =>
    obtain ⟨rfl, rfl⟩ := List.cons.inj heq
    simp [hnone]

/-- An item of a class is read as the characters that it stands for. -/
lemma readBrackets_item (hmode : IsPlain mode) (item : ClassItem) (hrest : EndsItem rest)
    {fuel : Nat} {bracket : Linear.Bracket} {result : (CharSet × Nat) × List Char}
    (h : Linear.readBrackets mode (fuel + 1) bracket [] (item.text ++ rest) = .ok result) :
    ∃ chars, item.chars? mode.ignoreCase = some chars ∧
      Linear.readBrackets mode fuel (bracket.add chars) [] rest = .ok result := by
  cases item with
  | one m =>
    obtain ⟨c, later, htext, hc⟩ := m.text_eq_cons
    rw [ClassItem.text, htext, List.cons_append, readBrackets_head hmode hc, ← List.cons_append,
      ← htext] at h
    obtain ⟨⟨chars, after⟩, hread, hlater⟩ := bind_eq_ok.mp h
    obtain ⟨hchars, rfl⟩ := readRange_one hmode m hrest hread
    exact ⟨chars, hchars, hlater⟩
  | range first last =>
    obtain ⟨c, later, htext, hc⟩ := first.text_eq_cons
    have hitem : (ClassItem.range first last).text ++ rest =
        c :: (later ++ '-' :: last.text ++ rest) := by simp [ClassItem.text, htext]
    rw [hitem, readBrackets_head hmode hc, ← hitem] at h
    obtain ⟨⟨chars, after⟩, hread, hlater⟩ := bind_eq_ok.mp h
    obtain ⟨hchars, rfl⟩ := readRange_range hmode first last hread
    exact ⟨chars, hchars, hlater⟩
  | ascii isNegated name hname =>
    obtain ⟨chars, hchars⟩ := Option.isSome_iff_exists.mp (asciiName hname).2.2
    have hread := @readAsciiClass?_text rest isNegated name hname
    rw [hchars] at hread
    simp only [ClassItem.text, List.cons_append, List.append_assoc, List.nil_append,
      Linear.readBrackets, hmode.skip, hread, Option.map_some, hmode.negated, hmode.folded] at h
    exact ⟨_, congrArg (Option.map _) hchars, h⟩

/-- No range is made of an item and the rest of the class. -/
lemma endsItem_items (items : List ClassItem) (isWritten : Bool) :
    EndsItem (items.flatMap ClassItem.text ++ (hyphen isWritten ++ ']' :: rest)) := by
  cases items with
  | nil =>
    cases isWritten with
    | true => exact .inr ⟨rest, rfl⟩
    | false => exact .inl (by simp [hyphen])
  | cons item items =>
    obtain ⟨c, later, htext, -, -, hne⟩ := item.text_eq_cons
    exact .inl (by simp [htext, hne])

/-- At the end of a class its characters are known. -/
lemma readBrackets_close (hmode : IsPlain mode) {fuel : Nat} {bracket : Linear.Bracket}
    (hpending : bracket.pending = none) {result : (CharSet × Nat) × List Char}
    (h : Linear.readBrackets mode fuel bracket [] (']' :: rest) = .ok result) :
    complementIf bracket.isNegated
      (Linear.folded (ofCase mode.ignoreCase) bracket.items.chars) = result.1.1 ∧
      result.2 = rest := by
  cases fuel with
  | zero => simp [Linear.readBrackets] at h
  | succ fuel =>
    simp only [Linear.readBrackets, hmode.skip, Linear.Bracket.close, Linear.Bracket.contents,
      hpending, hmode.negated, bind_eq_ok, pure_eq_ok, Except.ok.injEq] at h
    obtain ⟨_, ⟨_, rfl, rfl⟩, rfl⟩ := h
    exact ⟨by rw [hmode.folded], rfl⟩

/-- The hyphen that may stand at the end of a class is one of its characters. -/
lemma readBrackets_hyphen (hmode : IsPlain mode) (isWritten : Bool) {fuel : Nat}
    {bracket : Linear.Bracket} (hpending : bracket.pending = none)
    {result : (CharSet × Nat) × List Char}
    (h : Linear.readBrackets mode fuel bracket [] (hyphen isWritten ++ ']' :: rest) =
      .ok result) :
    complementIf bracket.isNegated (Linear.folded (ofCase mode.ignoreCase)
      ((hyphenSets isWritten).foldl CharSet.union bracket.items.chars)) = result.1.1 ∧
      result.2 = rest := by
  cases isWritten with
  | false => exact readBrackets_close hmode hpending h
  | true =>
    cases fuel with
    | zero => simp [Linear.readBrackets] at h
    | succ fuel =>
      have hread : Linear.readRange mode ('-' :: ']' :: rest) =
          .ok (.singleton '-', ']' :: rest) := by
        simp [Linear.readRange, Linear.readSetItem, hmode.skip, hmode.chars_literal, bind,
          Except.bind, pure, Except.pure]
      have hstep : Linear.readBrackets mode (fuel + 1) bracket [] ('-' :: ']' :: rest) =
          Linear.readBrackets mode fuel (bracket.add (.singleton '-')) [] (']' :: rest) := by
        simp [Linear.readBrackets, hmode.skip, Linear.SetOperator.ofChar?, hread, bind,
          Except.bind]
      rw [hyphen, if_pos rfl, List.cons_append, List.nil_append, hstep] at h
      exact readBrackets_close hmode (by exact hpending) h

lemma readBrackets_items (hmode : IsPlain mode) (items : List ClassItem) (isWritten : Bool)
    {fuel : Nat} {bracket : Linear.Bracket} (hpending : bracket.pending = none)
    {result : (CharSet × Nat) × List Char}
    (h : Linear.readBrackets mode fuel bracket []
      (items.flatMap ClassItem.text ++ (hyphen isWritten ++ ']' :: rest)) = .ok result) :
    ((items.mapM (ClassItem.chars? mode.ignoreCase)).map fun sets =>
      complementIf bracket.isNegated
        (Linear.folded (ofCase mode.ignoreCase)
          ((sets ++ hyphenSets isWritten).foldl CharSet.union bracket.items.chars))) =
        some result.1.1 ∧
      result.2 = rest := by
  -- what has been read is in the bracket, so the union goes on from its characters
  induction items generalizing fuel bracket with
  | nil =>
    obtain ⟨hchars, hrest⟩ := readBrackets_hyphen hmode isWritten hpending h
    exact ⟨congrArg some hchars, hrest⟩
  | cons item items ih =>
    cases fuel with
    | zero => simp [Linear.readBrackets] at h
    | succ fuel =>
      rw [List.flatMap_cons, List.append_assoc] at h
      obtain ⟨chars, hchars, h⟩ := readBrackets_item hmode item (endsItem_items items isWritten) h
      obtain ⟨hset, hrest⟩ := @ih fuel (bracket.add chars) hpending h
      refine ⟨?_, hrest⟩
      rw [← hset]
      cases hall : items.mapM (ClassItem.chars? mode.ignoreCase) <;>
        simp [hchars, hall, Linear.Bracket.add, Linear.SetItems.add]

/-- The bracket before the first item of a class. -/
def CharClass.bracket (b : CharClass) : Linear.Bracket :=
  let bracket : Linear.Bracket := { isNegated := b.isNegated }
  if b.hyphenFirst then bracket.add (.singleton '-') else bracket

lemma openBracket_text (hmode : IsPlain mode) (b : CharClass) :
    Linear.openBracket mode (b.text ++ ']' :: rest) =
      (b.bracket, b.items.flatMap ClassItem.text ++ (hyphen b.hyphenLast ++ ']' :: rest)) := by
  obtain ⟨isNegated, hyphenFirst, first, others, hyphenLast⟩ := b
  obtain ⟨c, later, htext, hclose, hnegate, hhyphen⟩ := first.text_eq_cons
  have hhyphens : ∀ bracket fuel after,
      Linear.readHyphens mode bracket fuel (c :: after) = (bracket, c :: after) := by
    intro bracket fuel after
    cases fuel with
    | zero => rfl
    | succ fuel => simp [Linear.readHyphens, hhyphen]
  have hfirst : ∀ bracket fuel after,
      Linear.readHyphens mode bracket (fuel + 1) ('-' :: c :: after) =
        (bracket.add (.singleton '-'), c :: after) := by
    intro bracket fuel after
    simp [Linear.readHyphens, hmode.skip, hhyphens]
  cases isNegated <;> cases hyphenFirst <;>
    simp [Linear.openBracket, CharClass.text, CharClass.items, CharClass.bracket, htext,
      hmode.skip, hhyphens, hfirst, hclose, hnegate, hyphen]

/-- A class is read as the set that it stands for, up to its end. -/
lemma readClass_text (hmode : IsPlain mode) (b : CharClass) {result : (CharSet × Nat) × List Char}
    (h : Linear.readClass mode (b.text ++ ']' :: rest) = .ok result) :
    b.chars? mode.ignoreCase = some result.1.1 ∧ result.2 = rest := by
  have hbracket : b.bracket.pending = none ∧ b.bracket.isNegated = b.isNegated ∧
      b.bracket.items.chars = (hyphenSets b.hyphenFirst).foldl CharSet.union .empty := by
    unfold CharClass.bracket
    cases b.hyphenFirst <;> exact ⟨rfl, rfl, rfl⟩
  simp only [Linear.readClass, openBracket_text hmode] at h
  have hread := readBrackets_items hmode b.items b.hyphenLast hbracket.1 h
  rw [hbracket.2.1, hbracket.2.2] at hread
  refine ⟨?_, hread.2⟩
  rw [← hread.1, CharClass.chars?]
  simp only [List.foldl_append]

end Shared

end TextExpr
