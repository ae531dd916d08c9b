import TextExpr.Backtrack.Parser
import TextExpr.Proofs.Shared.LinearClass

/-!
# Escapes and classes of the shared syntax in the backtracking engine

The backtracking engine takes escapes for characters apart as the linear engine does, and keeps
sets and classes as they are written. In a class it writes each escaped character in a way of its
own, but the class that it keeps is one of the shared syntax and stands for the same characters
(`CharClass.rewritten`).
-/

namespace TextExpr

namespace Shared

variable {mode : Mode} {rest : List Char}

/-! ## Escapes for characters -/

lemma hexChar_eq_ok {digits : List Char} {c : Char} (h : Backtrack.hexChar digits = .ok c) :
    CharEscape.ofNumber? digits = some c := by
  simp only [Backtrack.hexChar] at h
  rw [CharEscape.ofNumber?]
  split at h
  · next hvalid =>
    rw [if_pos hvalid]
    exact congrArg some (Except.ok.inj h)
  · simp at h

lemma all_isHexDigit {digits : List Char}
    (hdigits : ∀ d ∈ digits, (Unicode.hexDigit? d).isSome) :
    digits.all Backtrack.isHexDigit = true :=
  List.all_eq_true.mpr hdigits

lemma readHex_fixed_number {digits : List Char}
    (hdigits : ∀ d ∈ digits, (Unicode.hexDigit? d).isSome) {result : Char × List Char}
    (h : Backtrack.readHex digits.length (digits ++ rest) = .ok result) :
    CharEscape.ofNumber? digits = some result.1 ∧ result.2 = rest := by
  have htake : (digits ++ rest).take digits.length = digits := List.take_left' rfl
  have hdrop : (digits ++ rest).drop digits.length = rest := List.drop_left' rfl
  simp only [Backtrack.readHex, htake, hdrop, all_isHexDigit hdigits, decide_true, Bool.and_true,
    if_true, bind_eq_ok, pure_eq_ok] at h
  obtain ⟨c, hc, rfl⟩ := h
  exact ⟨hexChar_eq_ok hc, rfl⟩

lemma readHex_braced_number {digits : List Char} {count : Nat} (hcount : count ≠ 0)
    (hlength : 0 < digits.length ∧ digits.length ≤ 8)
    (hdigits : ∀ d ∈ digits, (Unicode.hexDigit? d).isSome) {result : Char × List Char}
    (h : Backtrack.readHex count ('\x7b' :: (digits ++ '\x7d' :: rest)) = .ok result) :
    CharEscape.ofNumber? digits = some result.1 ∧ result.2 = rest := by
  have hall : ∀ d ∈ digits, Backtrack.isHexDigit d = true := hdigits
  have htake : (digits ++ '\x7d' :: rest).takeWhile Backtrack.isHexDigit = digits :=
    takeWhile_append_cons hall (by decide)
  have hdrop : (digits ++ '\x7d' :: rest).dropWhile Backtrack.isHexDigit = '\x7d' :: rest :=
    dropWhile_append_cons hall (by decide)
  have hfixed : (('\x7b' :: (digits ++ '\x7d' :: rest)).take count).all Backtrack.isHexDigit =
      false := by
    obtain ⟨count, rfl⟩ := Nat.exists_eq_succ_of_ne_zero hcount
    simp [show Backtrack.isHexDigit '\x7b' = false by decide]
  have hbounds : (digits.isEmpty || decide (8 < digits.length)) = false := by
    simp only [Bool.or_eq_false_iff, List.isEmpty_eq_false_iff, decide_eq_false_iff_not]
    exact ⟨List.ne_nil_of_length_pos hlength.1, Nat.not_lt.mpr hlength.2⟩
  simp only [Backtrack.readHex, hfixed, Bool.and_false, Bool.false_eq_true, if_false, htake,
    hdrop, hbounds, bind_eq_ok, pure_eq_ok] at h
  obtain ⟨c, hc, rfl⟩ := h
  exact ⟨hexChar_eq_ok hc, rfl⟩

/-- The character is written by its number, which is the only way to write one that is of either
case if case is ignored. -/
def CharEscape.isNumber : CharEscape → Bool
  | mark .. | control .. => false
  | code .. | braced .. => true

lemma readCharEscape_code {letter : Char} (h : letter = 'x' ∨ letter = 'u' ∨ letter = 'U') :
    Backtrack.readCharEscape mode letter rest = (do
      let (d, rest) ← Backtrack.readHex
        (if letter = 'x' then 2 else if letter = 'u' then 4 else 8) rest
      return (.literal d mode.ignoreCase, rest)) := by
  rcases h with rfl | rfl | rfl <;> rfl

lemma readCharEscape_mark {c : Char} (hc : isMark c = true) :
    Backtrack.readCharEscape mode c rest = .ok (.literal c false, rest) := by
  have hletter : "dswDSW".toList.contains c = false := contains_of_isMark hc (by decide)
  have hcode : ¬ (c = 'x' ∨ c = 'u' ∨ c = 'U') := by
    simp only [not_or]
    exact ⟨ne_of_isMark hc rfl, ne_of_isMark hc rfl, ne_of_isMark hc rfl⟩
  have hproperty : ¬ ((c = 'p' ∨ c = 'P') ∧ rest ≠ []) := by
    rintro ⟨rfl | rfl, -⟩ <;> simp [isMark] at hc
  have hcontrol : Backtrack.control? c = none := by
    refine List.lookup_eq_none_iff.mpr fun p hp => bne_iff_ne.mpr ?_
    have hletters : ['a', 'f', 'n', 'r', 't', 'v', 'e'].contains c = false :=
      contains_of_isMark hc (by decide)
    rintro rfl
    have hmem : ['a', 'f', 'n', 'r', 't', 'v', 'e'].contains p.1 = true :=
      List.contains_iff_mem.mpr (List.mem_map_of_mem hp)
    exact Bool.false_ne_true (hletters.symm.trans hmem)
  have halpha : c.isAlpha = false := by
    simp only [isMark, Char.isAlphanum, Bool.and_eq_true, Bool.not_eq_true',
      Bool.or_eq_false_iff] at hc
    exact hc.1.1.2.1
  -- a mark is none of the letters that the reader tries in turn
  rw [Backtrack.readCharEscape, hletter, if_neg Bool.false_ne_true,
    if_neg (ne_of_isMark hc rfl), if_neg (ne_of_isMark hc rfl), if_neg hcode, if_neg hproperty,
    hcontrol, halpha]
  rfl

/-- An escape for a character is read as such, up to its end. -/
lemma readCharEscape_char (e : CharEscape) {c : Char} {later : List Char}
    (htext : e.text = c :: later) {result : Backtrack.Tree × List Char}
    (h : Backtrack.readCharEscape mode c (later ++ rest) = .ok result) :
    ∃ d, e.char? = some d ∧ result = (.literal d (e.isNumber && mode.ignoreCase), rest) := by
  cases e with
  | mark c hc =>
    obtain ⟨rfl, rfl⟩ := List.cons.inj htext
    exact ⟨c, rfl, Except.ok.inj (h.symm.trans (readCharEscape_mark hc))⟩
  | control letter d hd =>
    obtain ⟨rfl, rfl⟩ := List.cons.inj htext
    refine ⟨d, rfl, Except.ok.inj (h.symm.trans ?_)⟩
    simp only [controls, List.mem_cons, Prod.mk.injEq, List.not_mem_nil, or_false] at hd
    rcases hd with ⟨rfl, rfl⟩ | ⟨rfl, rfl⟩ | ⟨rfl, rfl⟩ | ⟨rfl, rfl⟩ | ⟨rfl, rfl⟩ | ⟨rfl, rfl⟩ <;>
      rfl
  | code letter digits hletter hdigits =>
    obtain ⟨rfl, rfl⟩ := List.cons.inj htext
    obtain ⟨hcase, hlength⟩ := eq_of_mem_codeLengths hletter
    rw [readCharEscape_code hcase, ← hlength] at h
    simp only [bind_eq_ok, pure_eq_ok] at h
    obtain ⟨⟨d, after⟩, hread, rfl⟩ := h
    obtain ⟨hd, rfl⟩ := readHex_fixed_number hdigits hread
    exact ⟨d, hd, rfl⟩
  | braced letter digits hletter hlength hdigits =>
    obtain ⟨rfl, rfl⟩ := List.cons.inj htext
    have hcase : letter = 'x' ∨ letter = 'u' ∨ letter = 'U' := by
      simpa [codeLengths] using hletter
    rw [readCharEscape_code hcase, List.append_eq, List.cons_append, List.cons_append,
      List.append_assoc] at h
    simp only [bind_eq_ok, pure_eq_ok] at h
    obtain ⟨⟨d, after⟩, hread, rfl⟩ := h
    have hcount : (if letter = 'x' then 2 else if letter = 'u' then 4 else 8) ≠ 0 := by
      rcases hcase with rfl | rfl | rfl <;> decide
    obtain ⟨hd, rfl⟩ := readHex_braced_number hcount hlength hdigits hread
    exact ⟨d, hd, rfl⟩

/-! ## Escapes for sets -/

/-- An escape for a set is kept as it is written. -/
lemma readCharEscape_set (e : SetEscape) {c : Char} {later : List Char}
    (htext : e.text = c :: later) {result : Backtrack.Tree × List Char}
    (h : Backtrack.readCharEscape mode c (later ++ rest) = .ok result) :
    result = (.chars ('\\' :: e.text) mode.ignoreCase, rest) := by
  cases e with
  | letter c hc =>
    obtain ⟨rfl, rfl⟩ := List.cons.inj htext
    refine (Except.ok.inj (h.symm.trans ?_))
    simp only [List.mem_cons, List.not_mem_nil, or_false] at hc
    rcases hc with rfl | rfl | rfl | rfl | rfl | rfl <;> rfl
  | property sign c hsign hc =>
    obtain ⟨rfl, rfl⟩ := List.cons.inj htext
    have hread : Backtrack.readProperty (c :: rest) = .ok ([c], rest) := by
      unfold Backtrack.readProperty
      split <;> simp_all
    refine (Except.ok.inj (h.symm.trans ?_))
    rcases hsign with rfl | rfl <;>
      simp [Backtrack.readCharEscape, hread, bind, Except.bind, pure, Except.pure, SetEscape.text]
  | named sign name hsign hname =>
    obtain ⟨rfl, rfl⟩ := List.cons.inj htext
    have htake : (name ++ '\x7d' :: rest).takeWhile (· != '\x7d') = name :=
      takeWhile_append_cons (forall_bne hname) rfl
    have hdrop : (name ++ '\x7d' :: rest).dropWhile (· != '\x7d') = '\x7d' :: rest :=
      dropWhile_append_cons (forall_bne hname) rfl
    have hread : Backtrack.readProperty ('\x7b' :: (name ++ '\x7d' :: rest)) =
        .ok ('\x7b' :: name ++ ['\x7d'], rest) := by
      simp [Backtrack.readProperty, htake, hdrop]
    rw [List.append_eq, List.cons_append, List.cons_append, List.append_assoc] at h
    refine (Except.ok.inj (h.symm.trans ?_))
    rcases hsign with rfl | rfl <;>
      simp [Backtrack.readCharEscape, hread, bind, Except.bind, pure, Except.pure, SetEscape.text]

/-! ## Escapes in classes -/

/-- Letters after a backslash that stand for themselves in a class or mean something else there. -/
def classLetters : List Char := ['b', 'k', 'A', 'z', 'B', 'K', 'G']

/-- What may follow a backslash in the shared syntax, apart from conditions. -/
def IsEscapeStart (c : Char) : Prop :=
  c.isDigit = false ∧ c ∉ classLetters ∧ c ≠ '<' ∧ c ≠ '>'

lemma CharEscape.text_eq_cons (e : CharEscape) :
    ∃ c later, e.text = c :: later ∧ IsEscapeStart c := by
  cases e with
  | mark c hc =>
    have hletters : classLetters.contains c = false := contains_of_isMark hc (by decide)
    exact ⟨c, [], rfl, isDigit_of_isMark hc, by simpa using hletters, ne_of_isMark hc rfl,
      ne_of_isMark hc rfl⟩
  | control letter c hc =>
    refine ⟨letter, [], rfl, ?_⟩
    simp only [controls, List.mem_cons, Prod.mk.injEq, List.not_mem_nil, or_false] at hc
    rcases hc with ⟨rfl, -⟩ | ⟨rfl, -⟩ | ⟨rfl, -⟩ | ⟨rfl, -⟩ | ⟨rfl, -⟩ | ⟨rfl, -⟩ <;>
      exact ⟨rfl, by decide, by decide, by decide⟩
  | code letter digits hletter hdigits =>
    refine ⟨letter, digits, rfl, ?_⟩
    obtain ⟨rfl | rfl | rfl, -⟩ := eq_of_mem_codeLengths hletter <;>
      exact ⟨rfl, by decide, by decide, by decide⟩
  | braced letter digits hletter hlength hdigits =>
    refine ⟨letter, _, rfl, ?_⟩
    have hcase : letter = 'x' ∨ letter = 'u' ∨ letter = 'U' := by
      simpa [codeLengths] using hletter
    rcases hcase with rfl | rfl | rfl <;> exact ⟨rfl, by decide, by decide, by decide⟩

lemma SetEscape.text_eq_cons (e : SetEscape) :
    ∃ c later, e.text = c :: later ∧ IsEscapeStart c := by
  cases e with
  | letter c hc =>
    refine ⟨c, [], rfl, ?_⟩
    simp only [List.mem_cons, List.not_mem_nil, or_false] at hc
    rcases hc with rfl | rfl | rfl | rfl | rfl | rfl <;>
      exact ⟨rfl, by decide, by decide, by decide⟩
  | property sign c hsign hc =>
    refine ⟨sign, [c], rfl, ?_⟩
    rcases hsign with rfl | rfl <;> exact ⟨rfl, by decide, by decide, by decide⟩
  | named sign name hsign hname =>
    refine ⟨sign, _, rfl, ?_⟩
    rcases hsign with rfl | rfl <;> exact ⟨rfl, by decide, by decide, by decide⟩

lemma readClassEscape_start {c : Char} (hc : IsEscapeStart c) :
    Backtrack.readClassEscape mode (c :: rest) = (do
      let (tree, rest) ← Backtrack.readCharEscape mode c rest
      match tree with
      | .literal d _ => return (Backtrack.inClass d, rest)
      | .chars source _ => return (source, rest)
      | _ => throw .invalidClass) := by
  obtain ⟨hdigit, hletters, -⟩ := hc
  simp only [classLetters, List.mem_cons, not_or] at hletters
  have hkept : "kAzBKG".toList.contains c = false := by
    rw [List.contains_eq_any_beq, List.any_eq_false]
    intro d hd
    simp only [String.reduceToList, List.mem_cons, List.not_mem_nil, or_false] at hd
    rcases hd with rfl | rfl | rfl | rfl | rfl | rfl <;> simp [hletters]
  unfold Backtrack.readClassEscape
  split
  · simp at *
  · simp_all
  · next heq =>
    obtain ⟨rfl, rfl⟩ := List.cons.inj heq
    rw [hdigit, hkept]
    rfl

/-! ## Classes -/

lemma isMark_of_isClassMeta {d : Char} (hd : Backtrack.isClassMeta d = true) :
    isMark d = true :=
  of_contains (by decide) hd

lemma isClassSign_of_not_isClassMeta {d : Char} (hd : ¬ Backtrack.isClassMeta d = true) :
    isClassSign d = false :=
  contains_eq_false (by decide) (Bool.eq_false_iff.mpr hd)

/-- A character that is kept in a class as it is. -/
def isKept (c : Char) : Bool := c != '\\' && c != '[' && c != ']'

lemma readClassText_kept {cs : List Char} (hcs : cs.all isKept = true) {fuel depth : Nat}
    {acc : List Char} {result : List Char × List Char}
    (h : Backtrack.readClassText mode fuel depth acc (cs ++ rest) = .ok result) :
    ∃ fuel, Backtrack.readClassText mode fuel depth (cs.reverse ++ acc) rest = .ok result := by
  induction cs generalizing fuel acc with
  | nil => exact ⟨fuel, h⟩
  | cons c cs ih =>
    obtain ⟨hc, hcs⟩ := Bool.and_eq_true_iff.mp hcs
    simp only [isKept, Bool.and_eq_true, bne_iff_ne] at hc
    obtain ⟨⟨hslash, hopen⟩, hclose⟩ := hc
    obtain _ | fuel := fuel
    · simp [Backtrack.readClassText] at h
    simp only [List.cons_append, Backtrack.readClassText] at h
    obtain ⟨fuel, h⟩ := ih hcs h
    exact ⟨fuel, by simpa using h⟩

namespace Member

/-- A character as it is kept in a class. -/
def ofChar (d : Char) : Member :=
  if h : Backtrack.isClassMeta d = true then .escaped (.mark d (isMark_of_isClassMeta h))
  else .plain d (isClassSign_of_not_isClassMeta h)

lemma text_ofChar (d : Char) : (ofChar d).text = Backtrack.inClass d := by
  unfold ofChar Backtrack.inClass
  split <;> rfl

lemma item?_ofChar (ignoreCase : Bool) (d : Char) :
    (ofChar d).item? ignoreCase = some (.literal d) := by
  unfold ofChar
  split <;> rfl

/-- A member as it is kept in a class. -/
def rewritten : Member → Member
  | plain c h => plain c h
  | escaped e =>
    match e.char? with
    | some d => ofChar d
    | none => escaped e
  | set e => set e

lemma item?_rewritten (ignoreCase : Bool) (m : Member) :
    m.rewritten.item? ignoreCase = m.item? ignoreCase := by
  cases m with
  | plain c h => rfl
  | escaped e =>
    rw [rewritten]
    cases hchar : e.char? with
    | none => rfl
    | some d => rw [item?_ofChar, item?, hchar, Option.map_some]
  | set e => rfl

/-- A member is exchanged for the one that is kept. -/
lemma readClassText (m : Member) {fuel : Nat} {acc : List Char} {result : List Char × List Char}
    (h : Backtrack.readClassText mode fuel 0 acc (m.text ++ rest) = .ok result) :
    ∃ fuel, Backtrack.readClassText mode fuel 0 (m.rewritten.text.reverse ++ acc) rest =
      .ok result := by
  cases m with
  | plain c hc =>
    have hkept : isKept c = true := by
      simp only [isKept, Bool.and_eq_true, bne_iff_ne]
      refine ⟨⟨?_, ?_⟩, ?_⟩ <;>
      · rintro rfl
        simp [isClassSign] at hc
    have hall : [c].all isKept = true := by rw [List.all_cons, hkept, List.all_nil, Bool.and_true]
    exact readClassText_kept hall h
  | escaped e =>
    obtain _ | fuel := fuel
    · simp [Backtrack.readClassText] at h
    obtain ⟨c, later, htext, hc⟩ := e.text_eq_cons
    simp only [text, List.cons_append, Backtrack.readClassText, bind_eq_ok] at h
    obtain ⟨⟨source, after⟩, hread, h⟩ := h
    rw [htext, List.cons_append, readClassEscape_start hc] at hread
    simp only [bind_eq_ok] at hread
    obtain ⟨_, hread, heq⟩ := hread
    obtain ⟨d, hd, rfl⟩ := readCharEscape_char e htext hread
    obtain ⟨rfl, rfl⟩ := Prod.mk.inj (pure_eq_ok.mp heq)
    refine ⟨fuel, ?_⟩
    rw [rewritten, hd, text_ofChar]
    exact h
  | set e =>
    obtain _ | fuel := fuel
    · simp [Backtrack.readClassText] at h
    obtain ⟨c, later, htext, hc⟩ := e.text_eq_cons
    simp only [text, List.cons_append, Backtrack.readClassText, bind_eq_ok] at h
    obtain ⟨⟨source, after⟩, hread, h⟩ := h
    rw [htext, List.cons_append, readClassEscape_start hc] at hread
    simp only [bind_eq_ok] at hread
    obtain ⟨_, hread, heq⟩ := hread
    obtain rfl := readCharEscape_set e htext hread
    obtain ⟨rfl, rfl⟩ := Prod.mk.inj (pure_eq_ok.mp heq)
    exact ⟨fuel, h⟩

end Member

lemma isKept_asciiName {name : String} (h : name ∈ asciiNames) :
    name.toList.all isKept = true := by
  have hall : asciiNames.all (fun name => name.toList.all isKept) = true := by decide
  exact List.all_eq_true.mp hall name h

namespace ClassItem

/-- An item as it is kept in a class. -/
def rewritten : ClassItem → ClassItem
  | one m => one m.rewritten
  | range first last => range first.rewritten last.rewritten
  | ascii isNegated name h => ascii isNegated name h

lemma chars?_rewritten (ignoreCase : Bool) (item : ClassItem) :
    item.rewritten.chars? ignoreCase = item.chars? ignoreCase := by
  cases item with
  | one m => simp only [rewritten, chars?, Member.item?_rewritten]
  | range first last => simp only [rewritten, chars?, Member.item?_rewritten]
  | ascii isNegated name h => rfl

lemma readClassText (item : ClassItem) {fuel : Nat} {acc : List Char}
    {result : List Char × List Char}
    (h : Backtrack.readClassText mode fuel 0 acc (item.text ++ rest) = .ok result) :
    ∃ fuel, Backtrack.readClassText mode fuel 0 (item.rewritten.text.reverse ++ acc) rest =
      .ok result := by
  cases item with
  | one m => exact m.readClassText h
  | range first last =>
    rw [text, List.append_assoc] at h
    obtain ⟨fuel, h⟩ := first.readClassText h
    -- the hyphen is kept as it is
    obtain _ | fuel := fuel
    · simp [Backtrack.readClassText] at h
    obtain ⟨fuel, h⟩ := last.readClassText (show Backtrack.readClassText mode fuel 0
      ('-' :: (first.rewritten.text.reverse ++ acc)) (last.text ++ rest) = .ok result from h)
    exact ⟨fuel, by simpa [rewritten, text] using h⟩
  | ascii isNegated name hname =>
    have hkept : ((':' :: if isNegated then ['^'] else []) ++ name.toList ++ [':']).all isKept =
        true := by
      rw [List.all_append, List.all_append, isKept_asciiName hname]
      cases isNegated <;> rfl
    obtain _ | fuel := fuel
    · simp [Backtrack.readClassText] at h
    -- the class in the class raises the depth up to its own bracket
    have hinner : Backtrack.readClassText mode fuel 1 ('[' :: acc)
        ((':' :: if isNegated then ['^'] else []) ++ name.toList ++ [':'] ++ ']' :: rest) =
          .ok result := by
      simpa [text, Backtrack.readClassText] using h
    obtain ⟨fuel, hinner⟩ := readClassText_kept hkept hinner
    obtain _ | fuel := fuel
    · simp [Backtrack.readClassText] at hinner
    refine ⟨fuel, ?_⟩
    simpa [rewritten, text, Backtrack.readClassText] using hinner

end ClassItem

lemma readClassText_items (items : List ClassItem) (isWritten : Bool) {fuel : Nat}
    {acc : List Char} {result : List Char × List Char}
    (h : Backtrack.readClassText mode fuel 0 acc
      (items.flatMap ClassItem.text ++ (hyphen isWritten ++ ']' :: rest)) = .ok result) :
    result = (acc.reverse ++ (items.map ClassItem.rewritten).flatMap ClassItem.text ++
      hyphen isWritten ++ [']'], rest) := by
  induction items generalizing fuel acc with
  | nil =>
    have hkept : (hyphen isWritten).all isKept = true := by cases isWritten <;> rfl
    obtain ⟨fuel, h⟩ := readClassText_kept hkept h
    obtain _ | fuel := fuel
    · simp [Backtrack.readClassText] at h
    simpa [Backtrack.readClassText, eq_comm] using h
  | cons item items ih =>
    rw [List.flatMap_cons, List.append_assoc] at h
    obtain ⟨fuel, h⟩ := item.readClassText h
    simpa using ih h

namespace CharClass

/-- A class as it is kept. -/
def rewritten (b : CharClass) : CharClass where
  isNegated := b.isNegated
  hyphenFirst := b.hyphenFirst
  first := b.first.rewritten
  others := b.others.map ClassItem.rewritten
  hyphenLast := b.hyphenLast

/-- The class that is kept stands for the same characters. -/
lemma chars?_rewritten (ignoreCase : Bool) (b : CharClass) :
    b.rewritten.chars? ignoreCase = b.chars? ignoreCase := by
  have hitems : b.rewritten.items.mapM (ClassItem.chars? ignoreCase) =
      b.items.mapM (ClassItem.chars? ignoreCase) := by
    rw [show b.rewritten.items = b.items.map ClassItem.rewritten from rfl, List.mapM_map]
    exact congrArg (b.items.mapM ·) (funext (ClassItem.chars?_rewritten ignoreCase))
  rw [chars?, hitems]
  rfl

/-- Neither a caret nor a closing bracket is taken for the first item. -/
lemma readClass_eq (b : CharClass) {after : List Char}
    (hafter : after = hyphen b.hyphenFirst ++
      (b.items.flatMap ClassItem.text ++ (hyphen b.hyphenLast ++ ']' :: rest))) :
    Backtrack.readClass mode (b.text ++ ']' :: rest) = (do
      let (source, rest) ← Backtrack.readClassText mode (after.length + 1) 0
        ((if b.isNegated then ['^'] else []) ++ ['[']) after
      return (.chars source mode.ignoreCase, rest)) := by
  obtain ⟨c, later, htext, hclose, hnegate, hhyphen⟩ := b.first.text_eq_cons
  have hitems : b.items.flatMap ClassItem.text =
      c :: (later ++ b.others.flatMap ClassItem.text) := by
    rw [items, List.flatMap_cons, htext, List.cons_append]
  subst hafter
  cases hnegated : b.isNegated <;> cases hfirst : b.hyphenFirst <;>
    simp [Backtrack.readClass, text, hnegated, hfirst, hitems, hyphen, hclose, hnegate]

/-- A class is kept, up to its end. -/
lemma readClass (b : CharClass) {result : Backtrack.Tree × List Char}
    (h : Backtrack.readClass mode (b.text ++ ']' :: rest) = .ok result) :
    result = (.chars ('[' :: b.rewritten.text ++ [']']) mode.ignoreCase, rest) := by
  simp only [b.readClass_eq rfl, bind_eq_ok] at h
  obtain ⟨_, hread, h⟩ := h
  have hkept : (hyphen b.hyphenFirst).all isKept = true := by cases b.hyphenFirst <;> rfl
  obtain ⟨fuel, hread⟩ := readClassText_kept hkept hread
  obtain rfl := readClassText_items b.items b.hyphenLast hread
  obtain rfl := pure_eq_ok.mp h
  have hrewritten : b.rewritten.text = (if b.isNegated then ['^'] else []) ++
      hyphen b.hyphenFirst ++ (b.items.map ClassItem.rewritten).flatMap ClassItem.text ++
        hyphen b.hyphenLast := rfl
  rw [hrewritten]
  cases b.isNegated <;> cases b.hyphenFirst <;> simp [hyphen]

end CharClass

end Shared

end TextExpr
