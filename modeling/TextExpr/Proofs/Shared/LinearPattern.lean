import TextExpr.Proofs.Shared.LinearClass

/-!
# Patterns of the shared syntax in the linear engine

How the linear engine reads each item of a pattern. `Accepts` says that the rest of a pattern can be
read from a state; there is one lemma for each kind of item, which gives the state after it.
-/

namespace TextExpr

namespace Shared

variable {mode : Mode} {rest : List Char}

/-! ## Parts -/

/-- The expression of a part, if the part is well-formed. -/
def Atom.expr? (mode : Mode) : Atom → Option Linear.Regex
  | plain c _ => some (Linear.literalExpr (ofCase mode.ignoreCase) c)
  | escaped e => e.char?.map (Linear.literalExpr (ofCase mode.ignoreCase))
  | set e => (e.chars? mode.ignoreCase).map .set
  | charClass b => (b.chars? mode.ignoreCase).map .set
  | dot => some (.set (if mode.dotAll then CharSet.empty.complement
      else (CharSet.singleton '\n').complement))
  | caret => some (.look (if mode.multiline then .lineStart else .textStart))
  | dollar => some (.look (if mode.multiline then .lineEnd else .textEnd))
  | textStart => some (.look .textStart)
  | textEnd => some (.look .textEnd)

lemma IsPlain.literalExpr (hmode : IsPlain mode) (c : Char) :
    Linear.literalExpr mode c = Linear.literalExpr (ofCase mode.ignoreCase) c := by
  simp [Linear.literalExpr, ofCase, hmode.unicode]

lemma eq_of_checked {part part' : Linear.Part} (h : part.checked = .ok part') : part' = part := by
  unfold Linear.Part.checked at h
  split at h
  · exact (Except.ok.inj h).symm
  · simp at h

/-- From a state the rest of a pattern can be read, and the whole pattern writes an expression. -/
def Accepts (state : Linear.ReadState) (text : List Char) (e : Linear.Regex) : Prop :=
  ∃ fuel, Linear.readPattern fuel state text = .ok e

namespace Accepts

variable {state : Linear.ReadState} {e : Linear.Regex}

lemma cons (hmode : IsPlain state.mode) {c : Char} (h : Accepts state (c :: rest) e) :
    ∃ state' rest', Linear.readPart state c rest = .ok (state', rest') ∧
      Accepts state' rest' e := by
  obtain ⟨fuel, h⟩ := h
  cases fuel with
  | zero => simp [Linear.readPattern] at h
  | succ fuel =>
    simp only [Linear.readPattern, hmode.skip, bind_eq_ok] at h
    obtain ⟨⟨state', rest'⟩, hread, h⟩ := h
    exact ⟨state', rest', hread, fuel, h⟩

lemma nil (hmode : IsPlain state.mode) (h : Accepts state [] e) :
    state.groups = [] ∧ ∃ part, state.current.close = .ok part ∧ part.expr = e := by
  obtain ⟨fuel, h⟩ := h
  cases fuel with
  | zero => simp [Linear.readPattern] at h
  | succ fuel =>
    simp only [Linear.readPattern, hmode.skip] at h
    split at h
    · next hgroups =>
      simp only [bind_eq_ok, pure_eq_ok] at h
      exact ⟨hgroups, h⟩
    · simp at h

/-- A character that is read for itself. -/
lemma of_readPart (hmode : IsPlain state.mode) {c : Char} {state' : Linear.ReadState}
    {rest' : List Char} (h : Accepts state (c :: rest) e)
    (hread : Linear.readPart state c rest = .ok (state', rest')) : Accepts state' rest' e := by
  obtain ⟨_, _, hread', h⟩ := h.cons hmode
  obtain ⟨rfl, rfl⟩ := Prod.mk.inj (Except.ok.inj (hread.symm.trans hread'))
  exact h

/-- A character that has no meaning of its own outside of classes. -/
lemma literal (hmode : IsPlain state.mode) {c : Char} (hc : isSign c = false)
    (h : Accepts state (c :: rest) e) :
    Accepts (state.pushExpr (Linear.literalExpr (ofCase state.mode.ignoreCase) c)) rest e := by
  -- what the reader tells apart are `)` and the signs
  by_cases hclose : c = ')'
  · subst hclose
    simp [isSign] at hc
  · refine h.of_readPart hmode ?_
    rw [← hmode.literalExpr]
    simp only [isSign, List.contains_eq_mem, decide_eq_false_iff_not, List.mem_cons,
      List.not_mem_nil, or_false, not_or] at hc
    obtain ⟨_, _, _, _, _, _, _, _, _, _, _, _⟩ := hc
    unfold Linear.readPart
    split <;> first | rfl | contradiction

/-- What an escape gives outside of classes. -/
lemma escape (hmode : IsPlain state.mode) (h : Accepts state ('\\' :: rest) e) :
    ∃ escape rest', Linear.readEscape state.mode rest = .ok (escape, rest') ∧
      Accepts (state.pushExpr (match escape with
        | .literal c => Linear.literalExpr state.mode c
        | .set chars => .set chars
        | .look assertion => .look assertion)) rest' e := by
  obtain ⟨_, _, hread, h⟩ := h.cons hmode
  simp only [Linear.readPart, Linear.readEscaped, bind_eq_ok, pure_eq_ok] at hread
  obtain ⟨⟨escape, rest'⟩, hread, heq⟩ := hread
  obtain ⟨rfl, rfl⟩ := Prod.mk.inj heq
  exact ⟨escape, _, hread, h⟩

/-- A part is read as one part of its expression. -/
lemma atom (hmode : IsPlain state.mode) (a : Atom) (h : Accepts state (a.text ++ rest) e) :
    ∃ expr depth, a.expr? state.mode = some expr ∧
      Accepts (state.push { expr, depth }) rest e := by
  cases a with
  | plain c hc => exact ⟨_, 0, rfl, h.literal hmode hc⟩
  | escaped esc =>
    obtain ⟨_, _, hread, hlater⟩ := h.escape hmode
    obtain ⟨c, hc, heq⟩ := readEscape_char hmode esc hread
    obtain ⟨rfl, rfl⟩ := Prod.mk.inj heq
    refine ⟨_, 0, by rw [Atom.expr?, hc]; rfl, ?_⟩
    rw [← hmode.literalExpr]
    exact hlater
  | set esc =>
    obtain ⟨_, _, hread, hlater⟩ := h.escape hmode
    obtain ⟨chars, hset, heq⟩ := readEscape_set hmode esc hread
    obtain ⟨rfl, rfl⟩ := Prod.mk.inj heq
    exact ⟨.set chars, 0, by rw [Atom.expr?, hset]; rfl, hlater⟩
  | charClass b =>
    rw [Atom.text, List.append_assoc] at h
    obtain ⟨_, _, hread, hlater⟩ := h.cons hmode
    simp only [Linear.readPart, List.append_eq, List.cons_append, List.nil_append, bind_eq_ok,
      pure_eq_ok] at hread
    -- the nesting in the class matters to the limit only
    obtain ⟨⟨⟨chars, depth⟩, rest'⟩, hread, part, hpart, heq⟩ := hread
    obtain ⟨hset, rfl⟩ := readClass_text hmode b hread
    obtain ⟨rfl, rfl⟩ := Prod.mk.inj heq
    obtain rfl := eq_of_checked hpart
    exact ⟨.set chars, depth, by rw [Atom.expr?, hset]; rfl, hlater⟩
  | dot =>
    refine ⟨_, 0, rfl, h.of_readPart hmode ?_⟩
    cases hall : state.mode.dotAll <;>
      simp [Linear.readPart, Linear.dotExpr, hmode.unicode, hmode.crlf, hall] <;> rfl
  | caret =>
    refine ⟨_, 0, rfl, h.of_readPart hmode ?_⟩
    cases hmultiline : state.mode.multiline <;>
      simp [Linear.readPart, Linear.caret, hmode.crlf, hmultiline, Linear.ReadState.pushExpr]
  | dollar =>
    refine ⟨_, 0, rfl, h.of_readPart hmode ?_⟩
    cases hmultiline : state.mode.multiline <;>
      simp [Linear.readPart, Linear.dollar, hmode.crlf, hmultiline, Linear.ReadState.pushExpr]
  | textStart => exact ⟨_, 0, rfl, h.of_readPart hmode rfl⟩
  | textEnd => exact ⟨_, 0, rfl, h.of_readPart hmode rfl⟩

end Accepts

/-! ## Repetitions -/

lemma isSpace_of_isDigit {c : Char} (hc : c.isDigit = true) : Linear.isSpace c = false := by
  simp only [Char.isDigit, Bool.and_eq_true, decide_eq_true_eq] at hc
  have hleast : 48 ≤ c.toNat := hc.1
  have hmost : c.toNat ≤ 57 := hc.2
  have hne : c ≠ ' ' := by
    rintro rfl
    exact absurd hleast (by decide)
  unfold Linear.isSpace
  rw [if_pos (by omega)]
  simp only [beq_eq_false_iff_ne.mpr hne, Bool.false_or, Bool.and_eq_false_iff,
    decide_eq_false_iff_not]
  exact .inr (by omega)

/-- A sign that ends the digits of a count. -/
def EndsDigits (c : Char) : Prop := c.isDigit = false ∧ Linear.isSpace c = false

lemma endsDigits_brace : EndsDigits '\x7d' := ⟨rfl, rfl⟩

lemma endsDigits_comma : EndsDigits ',' := ⟨rfl, rfl⟩

lemma digitsOf_append (hmode : IsPlain mode) {digits : List Char} (acc : List Char)
    (hdigits : ∀ c ∈ digits, c.isDigit = true) {c : Char} (hc : EndsDigits c) {fuel : Nat}
    (hfuel : digits.length < fuel) :
    Linear.readDecimal.digitsOf mode acc fuel (digits ++ c :: rest) =
      (acc.reverse ++ digits, c :: rest) := by
  induction digits generalizing acc fuel with
  | nil =>
    obtain ⟨fuel, rfl⟩ := Nat.exists_eq_succ_of_ne_zero (Nat.ne_zero_of_lt hfuel)
    simp [Linear.readDecimal.digitsOf, hc.1]
  | cons d digits ih =>
    obtain ⟨fuel, rfl⟩ := Nat.exists_eq_succ_of_ne_zero (Nat.ne_zero_of_lt hfuel)
    simp only [List.cons_append, Linear.readDecimal.digitsOf, hdigits d List.mem_cons_self,
      if_true, hmode.skip]
    rw [ih _ (fun c hc => hdigits c (List.mem_cons_of_mem d hc)) (by simpa using hfuel)]
    simp

/-- A decimal number is read up to the sign that ends it. -/
lemma readDecimal_append (hmode : IsPlain mode) {digits : List Char} (hpos : digits ≠ [])
    (hdigits : ∀ c ∈ digits, c.isDigit = true) {c : Char} (hc : EndsDigits c) :
    Linear.readDecimal mode (digits ++ c :: rest) =
      if Nat.ofDigitChars 10 digits 0 < Nat.pow 2 32 then
        .ok (some (Nat.ofDigitChars 10 digits 0), c :: rest)
      else .error .invalidCount := by
  have hspace : (digits ++ c :: rest).dropWhile Linear.isSpace = digits ++ c :: rest := by
    obtain ⟨d, later, rfl⟩ := List.exists_cons_of_ne_nil hpos
    simp [isSpace_of_isDigit (hdigits d List.mem_cons_self)]
  have hread := @digitsOf_append mode rest hmode digits [] hdigits c hc
    ((digits ++ c :: rest).length + 1) (by rw [List.length_append]; omega)
  have hempty : digits.isEmpty = false := by simpa using hpos
  simp only [Linear.readDecimal, hspace, hread, Linear.readDecimal.spacesOf, hc.2, hempty,
    List.reverse_nil, List.nil_append, Bool.false_eq_true, if_false]
  rfl

/-- A number is read up to the sign that ends it, unless it is too great. -/
lemma Digits.readDecimal (hmode : IsPlain mode) (digits : Digits) {c : Char} (hc : EndsDigits c)
    {result : Option Nat × List Char}
    (h : Linear.readDecimal mode (digits.chars ++ c :: rest) = .ok result) :
    digits.value < Nat.pow 2 32 ∧ result = (some digits.value, c :: rest) := by
  rw [readDecimal_append hmode digits.ne_nil digits.isDigit hc] at h
  split at h
  · next hbelow => exact ⟨hbelow, (Except.ok.inj h).symm⟩
  · simp at h

lemma readCounts_exactly (hmode : IsPlain mode) (count : Digits)
    {result : (Nat × Option Nat) × List Char}
    (h : Linear.readCounts mode (count.chars ++ '\x7d' :: rest) = .ok result) :
    count.value < Nat.pow 2 32 ∧ result = ((count.value, some count.value), rest) := by
  simp only [Linear.readCounts, hmode.skip, bind_eq_ok] at h
  obtain ⟨_, hread, h⟩ := h
  obtain ⟨hbelow, rfl⟩ := count.readDecimal hmode endsDigits_brace hread
  exact ⟨hbelow, (pure_eq_ok.mp h).symm⟩

lemma readCounts_atLeast (hmode : IsPlain mode) (least : Digits)
    {result : (Nat × Option Nat) × List Char}
    (h : Linear.readCounts mode (least.chars ++ ',' :: '\x7d' :: rest) = .ok result) :
    least.value < Nat.pow 2 32 ∧ result = ((least.value, none), rest) := by
  simp only [Linear.readCounts, hmode.skip, bind_eq_ok] at h
  obtain ⟨_, hread, h⟩ := h
  obtain ⟨hbelow, rfl⟩ := least.readDecimal hmode endsDigits_comma hread
  exact ⟨hbelow, (pure_eq_ok.mp h).symm⟩

lemma readCounts_between (hmode : IsPlain mode) (least most : Digits)
    {result : (Nat × Option Nat) × List Char}
    (h : Linear.readCounts mode (least.chars ++ ',' :: (most.chars ++ '\x7d' :: rest)) =
      .ok result) :
    least.value < Nat.pow 2 32 ∧ most.value < Nat.pow 2 32 ∧
      result = ((least.value, some most.value), rest) := by
  simp only [Linear.readCounts, hmode.skip, bind_eq_ok] at h
  obtain ⟨_, hread, h⟩ := h
  obtain ⟨hbelow, rfl⟩ := least.readDecimal hmode endsDigits_comma hread
  simp only at h
  split at h
  · next heq =>
    -- the digits do not begin with the closing brace
    obtain ⟨c, later, hchars⟩ := List.exists_cons_of_ne_nil most.ne_nil
    have hdigit := most.isDigit c (by simp [hchars])
    rw [hchars] at heq
    obtain ⟨rfl, -⟩ := List.cons.inj heq
    exact absurd hdigit (by decide)
  · simp only [bind_eq_ok] at h
    obtain ⟨_, hread, h⟩ := h
    obtain ⟨hbelow', rfl⟩ := most.readDecimal hmode endsDigits_brace hread
    simp only at h
    split at h
    · exact ⟨hbelow, hbelow', (pure_eq_ok.mp h).symm⟩
    · exact (throw_eq_ok.mp h).elim

/-- What a repetition makes of an expression. -/
def repeatedBy (mode : Mode) : Option Rounds → Linear.Regex → Linear.Regex
  | none, e => e
  | some r, e => e.repeated r.count.least r.count.most (r.isGreedy mode)

lemma readLazy_mark {isMarked : Bool} (hrest : rest.head? ≠ some '?') :
    Linear.readLazy ((if isMarked then ['?'] else []) ++ rest) = (isMarked, rest) := by
  cases isMarked with
  | true => rfl
  | false =>
    cases rest with
    | nil => rfl
    | cons c rest =>
      unfold Linear.readLazy
      split <;> simp_all

section

variable {state : Linear.ReadState} {result : Linear.ReadState × List Char}

lemma readRepetition_counts : Linear.readRepetition state '\x7b' rest = (do
    let (counts, rest) ← Linear.readCounts state.mode rest
    let next ← Linear.repeatLast state counts.1 counts.2
      (Linear.readLazy (Linear.skip state.mode rest)).1
    return (next, (Linear.readLazy (Linear.skip state.mode rest)).2)) := by
  cases hcounts : Linear.readCounts state.mode rest <;>
    simp [Linear.readRepetition, hcounts, bind, Except.bind, pure, Except.pure]

/-- What follows the numbers in braces, once they are read. -/
lemma readRepetition_brace (hmode : IsPlain state.mode)
    (h : Linear.readRepetition state '\x7b' rest = .ok result) :
    ∃ counts after, Linear.readCounts state.mode rest = .ok (counts, after) ∧
      Linear.repeatLast state counts.1 counts.2 (Linear.readLazy after).1 = .ok result.1 ∧
      (Linear.readLazy after).2 = result.2 := by
  simp only [readRepetition_counts, hmode.skip, bind_eq_ok, pure_eq_ok] at h
  obtain ⟨⟨counts, after⟩, hcounts, next, hrepeat, rfl⟩ := h
  exact ⟨counts, after, hcounts, hrepeat, rfl⟩

/-- The sign of a repetition, with the numbers that may follow it. -/
lemma readRepetition_count (hmode : IsPlain state.mode) (count : Count)
    {sign : Char} {later : List Char} (htext : count.text = sign :: later)
    (h : Linear.readRepetition state sign (later ++ rest) = .ok result) :
    count.IsBelow (Nat.pow 2 32) ∧
      Linear.repeatLast state count.least count.most (Linear.readLazy rest).1 = .ok result.1 ∧
      (Linear.readLazy rest).2 = result.2 := by
  cases count with
  | optional | star | plus =>
    obtain ⟨rfl, rfl⟩ := List.cons.inj htext
    simp only [Linear.readRepetition, bind_eq_ok, pure_eq_ok] at h
    obtain ⟨_, rfl, state', hrepeat, rfl⟩ := h
    exact ⟨⟨by decide, by simp [Count.most]⟩, hrepeat, rfl⟩
  | exactly count =>
    obtain ⟨rfl, rfl⟩ := List.cons.inj htext
    simp only [List.append_eq, List.append_assoc, List.cons_append, List.nil_append] at h
    obtain ⟨_, _, hread, hrepeat, hrest⟩ := readRepetition_brace hmode h
    obtain ⟨hbelow, heq⟩ := readCounts_exactly hmode count hread
    obtain ⟨rfl, rfl⟩ := Prod.mk.inj heq
    exact ⟨⟨hbelow, by simpa [Count.most] using hbelow⟩, hrepeat, hrest⟩
  | atLeast least =>
    obtain ⟨rfl, rfl⟩ := List.cons.inj htext
    simp only [List.append_eq, List.append_assoc, List.cons_append, List.nil_append] at h
    obtain ⟨_, _, hread, hrepeat, hrest⟩ := readRepetition_brace hmode h
    obtain ⟨hbelow, heq⟩ := readCounts_atLeast hmode least hread
    obtain ⟨rfl, rfl⟩ := Prod.mk.inj heq
    exact ⟨⟨hbelow, by simp [Count.most]⟩, hrepeat, hrest⟩
  | between least most =>
    obtain ⟨rfl, rfl⟩ := List.cons.inj htext
    simp only [List.append_eq, List.append_assoc, List.cons_append, List.nil_append] at h
    obtain ⟨_, _, hread, hrepeat, hrest⟩ := readRepetition_brace hmode h
    obtain ⟨hbelow, hbelow', heq⟩ := readCounts_between hmode least most hread
    obtain ⟨rfl, rfl⟩ := Prod.mk.inj heq
    exact ⟨⟨hbelow, by simpa [Count.most] using hbelow'⟩, hrepeat, hrest⟩

end

lemma readPart_sign {state : Linear.ReadState} {sign : Char} (hsign : sign ∈ roundSigns) :
    Linear.readPart state sign rest = Linear.readRepetition state sign rest := by
  simp only [roundSigns, List.mem_cons, List.not_mem_nil, or_false] at hsign
  rcases hsign with rfl | rfl | rfl | rfl <;> rfl

/-- A repetition that may follow a part turns the part into a repeated one. -/
lemma Accepts.repeated {state : Linear.ReadState} {e : Linear.Regex} (hmode : IsPlain state.mode)
    (rounds : Option Rounds) (hrest : rest.head? ≠ some '?') {expr : Linear.Regex} {depth : Nat}
    (h : Accepts (state.push { expr, depth }) (roundsText rounds ++ rest) e) :
    (∀ r ∈ rounds, r.count.IsBelow (Nat.pow 2 32)) ∧
      ∃ depth, Accepts (state.push { expr := repeatedBy state.mode rounds expr, depth })
        rest e := by
  cases rounds with
  | none => exact ⟨by simp, depth, h⟩
  | some r =>
    obtain ⟨sign, later, htext, hsign⟩ := r.count.text_eq_cons
    rw [roundsText, Rounds.text, htext, List.cons_append, List.cons_append, List.append_assoc] at h
    obtain ⟨next, rest', hread, hlater⟩ := h.cons (show IsPlain (state.push _).mode from hmode)
    rw [readPart_sign hsign] at hread
    obtain ⟨hbelow, hrepeat, rfl⟩ := readRepetition_count
      (show IsPlain (state.push _).mode from hmode) r.count htext hread
    rw [readLazy_mark hrest] at hrepeat hlater
    simp only [Linear.repeatLast, Linear.ReadState.push, Linear.Branches.push, if_true, bind_eq_ok,
      pure_eq_ok] at hrepeat
    obtain ⟨part, hpart, rfl⟩ := hrepeat
    obtain rfl := eq_of_checked hpart
    refine ⟨?_, _, hlater⟩
    rintro _ ⟨⟩
    exact hbelow

/-! ## Flags -/

lemma readFlags_letters {on : Bool} {letters seen : List Char}
    (hletters : ∀ c ∈ letters, c ∈ flagLetters) {result : (Mode × Bool) × List Char}
    (h : Linear.readFlags mode on seen (letters ++ rest) = .ok result) :
    ∃ seen', Linear.readFlags (Switches.switchAll on letters mode) on seen' rest = .ok result := by
  induction letters generalizing mode seen with
  | nil => exact ⟨seen, h⟩
  | cons c letters ih =>
    have hc := hletters c List.mem_cons_self
    have hends : ¬ (c = ':' ∨ c = ')') := by
      rintro (rfl | rfl) <;> exact absurd hc (by decide)
    have hhyphen : c ≠ '-' := by
      rintro rfl
      exact absurd hc (by decide)
    rw [List.cons_append, Linear.readFlags, if_neg hends, if_neg hhyphen,
      switch?_eq_some hc] at h
    split at h
    · simp at h
    · exact ih (fun c hc => hletters c (List.mem_cons_of_mem _ hc)) h

/-- Flags are read up to the sign that ends them. -/
lemma readFlags_text (f : Switches) {c : Char} (hc : c = ':' ∨ c = ')')
    {result : (Mode × Bool) × List Char}
    (h : Linear.readFlags mode true [] (f.text ++ c :: rest) = .ok result) :
    result = ((f.apply mode, c == ')'), rest) := by
  rw [Switches.text, List.append_assoc] at h
  obtain ⟨seen, h⟩ := readFlags_letters f.on_mem_flagLetters h
  have hend : ∀ {mode on seen}, Linear.readFlags mode on seen (c :: rest) = .ok result →
      result = ((mode, c == ')'), rest) := by
    intro mode on seen h
    rw [Linear.readFlags, if_pos hc] at h
    split at h
    · simp at h
    · exact (Except.ok.inj h).symm
  have hoff := f.off_mem_flagLetters
  rw [Switches.apply]
  cases hf : f.off with
  | none =>
    rw [hf] at h
    exact hend h
  | some off =>
    rw [hf] at h
    simp only [List.cons_append, Linear.readFlags] at h
    rw [if_neg (by decide)] at h
    split at h
    · simp at h
    · obtain ⟨seen, h⟩ := readFlags_letters (hoff off hf) h
      exact hend h

/-! ## Groups -/

namespace Accepts

variable {state : Linear.ReadState} {e : Linear.Regex}

lemma capture (hmode : IsPlain state.mode) (hrest : rest.head? ≠ some '?')
    (h : Accepts state ('(' :: rest) e) : Accepts (Linear.openCapture state) rest e := by
  refine h.of_readPart hmode ?_
  simp only [Linear.readPart, Linear.readGroup, hmode.skip]
  split <;> first | rfl | simp at hrest

lemma readGroupName_append {name : List Char} (hname : '>' ∉ name)
    {result : List Char × List Char}
    (h : Linear.readGroupName (name ++ '>' :: rest) = .ok result) : result = (name, rest) := by
  have hall : ∀ c ∈ name, decide (c ≠ '>') = true :=
    fun c hc => decide_eq_true fun heq => hname (heq ▸ hc)
  have htake : (name ++ '>' :: rest).takeWhile (· ≠ '>') = name :=
    takeWhile_append_cons hall rfl
  have hdrop : (name ++ '>' :: rest).dropWhile (· ≠ '>') = '>' :: rest :=
    dropWhile_append_cons hall rfl
  simp only [Linear.readGroupName, htake, hdrop] at h
  split at h
  · simp at h
  · split at h
    · exact (Except.ok.inj h).symm
    · simp at h

lemma openNamed {name : List Char} (hname : '>' ∉ name) {result : Linear.ReadState × List Char}
    (h : Linear.openNamed state (name ++ '>' :: rest) = .ok result) :
    ∃ names, result = (Linear.openCapture { state with names }, rest) := by
  simp only [Linear.openNamed, bind_eq_ok] at h
  obtain ⟨_, hread, h⟩ := h
  obtain rfl := readGroupName_append hname hread
  split at h
  · exact (throw_bind_eq_ok.mp h).elim
  · exact ⟨_, (pure_eq_ok.mp h).symm⟩

lemma named (hmode : IsPlain state.mode) {long : Bool} {name : List Char} (hname : '>' ∉ name)
    (hfirst : name.head? ≠ some '=' ∧ name.head? ≠ some '!')
    (h : Accepts state ((Opening.named long name hname hfirst).text ++ rest) e) :
    ∃ names, Accepts (Linear.openCapture { state with names }) rest e := by
  cases long with
  | true =>
    simp only [Opening.text, if_true, List.cons_append, List.append_assoc, List.nil_append] at h
    obtain ⟨_, _, hread, hlater⟩ := h.cons hmode
    simp only [Linear.readPart, Linear.readGroup, hmode.skip] at hread
    obtain ⟨names, heq⟩ := openNamed hname hread
    obtain ⟨rfl, rfl⟩ := Prod.mk.inj heq
    exact ⟨names, hlater⟩
  | false =>
    simp only [Opening.text, Bool.false_eq_true, if_false, List.cons_append, List.append_assoc,
      List.nil_append] at h
    obtain ⟨_, _, hread, hlater⟩ := h.cons hmode
    have hnamed : Linear.readPart state '(' ('?' :: '<' :: (name ++ '>' :: rest)) =
        Linear.openNamed state (name ++ '>' :: rest) := by
      simp only [Linear.readPart, Linear.readGroup, hmode.skip]
      cases name with
      | nil => rfl
      | cons c name =>
        simp only [List.head?_cons, ne_eq, Option.some.injEq] at hfirst
        simp [hfirst.1, hfirst.2]
    rw [hnamed] at hread
    obtain ⟨names, heq⟩ := openNamed hname hread
    obtain ⟨rfl, rfl⟩ := Prod.mk.inj heq
    exact ⟨names, hlater⟩

lemma readPart_flags (hmode : IsPlain state.mode) (f : Switches) {c : Char}
    (hc : c = ':' ∨ c = ')') :
    Linear.readPart state '(' ('?' :: (f.text ++ c :: rest)) = (do
      let ((mode, isAlone), rest) ← Linear.readFlags state.mode true [] (f.text ++ c :: rest)
      if isAlone then
        return ({ state with mode }.push { expr := .empty, isOperand := false }, rest)
      else
        return (Linear.openGroup state none mode, rest)) := by
  -- whichever sign flags begin with, it begins no other kind of group
  obtain ⟨d, later, htext, hd⟩ := f.text_append hc rest
  simp only [Linear.readPart, Linear.readGroup, hmode.skip]
  rw [htext]
  simp only [flagLetters, List.mem_cons, List.not_mem_nil, or_false] at hd
  rcases hd with rfl | rfl | rfl | rfl | rfl | rfl | rfl | rfl | rfl <;> rfl

/-- What follows an opening parenthesis and a question mark is read as flags. -/
lemma flags (hmode : IsPlain state.mode) (f : Switches) {c : Char} (hc : c = ':' ∨ c = ')')
    (h : Accepts state ('(' :: '?' :: (f.text ++ c :: rest)) e) :
    Accepts (if c = ')' then { state with mode := f.apply state.mode }.push
        { expr := .empty, isOperand := false }
      else Linear.openGroup state none (f.apply state.mode)) rest e := by
  obtain ⟨next, rest', hread, hlater⟩ := h.cons hmode
  simp only [readPart_flags hmode f hc, bind_eq_ok] at hread
  obtain ⟨_, hread, heq⟩ := hread
  obtain rfl := readFlags_text f hc hread
  rcases hc with rfl | rfl
  · obtain ⟨rfl, rfl⟩ := Prod.mk.inj (pure_eq_ok.mp heq)
    exact hlater
  · obtain ⟨rfl, rfl⟩ := Prod.mk.inj (pure_eq_ok.mp heq)
    exact hlater

/-- The innermost group is closed. -/
lemma closing (hmode : IsPlain state.mode) (h : Accepts state (')' :: rest) e) :
    ∃ group groups part depth, state.groups = group :: groups ∧ state.current.close = .ok part ∧
      Accepts ({ state with mode := group.mode, current := group.outside, groups }.push
        { expr := match group.index? with
            | some index => .group index part.expr
            | none => part.expr
          depth }) rest e := by
  obtain ⟨next, rest', hread, hlater⟩ := h.cons hmode
  simp only [Linear.readPart, Linear.closeGroup] at hread
  split at hread
  · simp at hread
  · next group groups hgroups =>
    simp only [bind_eq_ok, pure_eq_ok] at hread
    obtain ⟨body, hbody, part, hpart, heq⟩ := hread
    obtain rfl := eq_of_checked hpart
    obtain ⟨rfl, rfl⟩ := Prod.mk.inj heq
    exact ⟨group, groups, body, _, hgroups, hbody, hlater⟩

/-- A new branch is begun. -/
lemma bar (hmode : IsPlain state.mode) (h : Accepts state ('|' :: rest) e) :
    ∃ part, state.current.branch = .ok part ∧
      Accepts { state with current := ⟨[], part :: state.current.earlier⟩ } rest e := by
  obtain ⟨next, rest', hread, hlater⟩ := h.cons hmode
  simp only [Linear.readPart, Linear.Branches.next, bind_eq_ok, pure_eq_ok] at hread
  obtain ⟨_, ⟨part, hpart, rfl⟩, heq⟩ := hread
  obtain ⟨rfl, rfl⟩ := Prod.mk.inj heq
  exact ⟨part, hpart, hlater⟩

end Accepts

end Shared

end TextExpr
