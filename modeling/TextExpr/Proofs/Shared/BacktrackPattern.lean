import Mathlib.Data.List.TakeWhile
import TextExpr.Proofs.Shared.BacktrackClass

/-!
# Patterns of the shared syntax in the backtracking engine

How the backtracking engine reads each item of a pattern. `Parses` says that the rest of a pattern
can be read from a state; there is one lemma for each kind of item, which gives the state after it.
-/

namespace TextExpr

namespace Shared

variable {mode : Mode} {rest : List Char}

/-! ## Repetitions -/

lemma IsPlain.skip_between (hmode : IsPlain mode) (hrest : NoComment rest) :
    Backtrack.skip mode .between rest = .ok rest := by
  unfold Backtrack.skip
  split
  · exact absurd rfl (hrest _)
  · simp [hmode.ignoreSpace]
  all_goals simp_all

lemma noComment_mark {isMarked : Bool} (hrest : NoComment rest) :
    NoComment ((if isMarked then ['?'] else []) ++ rest) := by
  cases isMarked with
  | true => exact noComment_of_head (by decide)
  | false => exact hrest

section

variable {state : Backtrack.ReadState}

/-- A number is read up to the sign that ends it, unless it is too great. -/
lemma Digits.readDecimal? (digits : Digits) (hbelow : digits.value < Nat.pow 2 32) {c : Char}
    (hc : c.isDigit = false) :
    Backtrack.readDecimal? (digits.chars ++ c :: rest) = some (digits.value, c :: rest) := by
  have hall : ∀ d ∈ digits.chars, Char.isDigit d = true := digits.isDigit
  have htake : (digits.chars ++ c :: rest).takeWhile Char.isDigit = digits.chars :=
    takeWhile_append_cons hall hc
  have hdrop : (digits.chars ++ c :: rest).dropWhile Char.isDigit = c :: rest :=
    dropWhile_append_cons hall hc
  have hempty : digits.chars.isEmpty = false := by simpa using digits.ne_nil
  have hlimit : ¬ Backtrack.countLimit < digits.value := by
    have : Nat.pow 2 32 ≤ Backtrack.countLimit := by decide
    omega
  have hvalue : digits.chars.foldl (fun n c => 10 * n + (c.toNat - '0'.toNat)) 0 =
      digits.value := rfl
  simp only [Backtrack.readDecimal?, htake, hdrop, hempty, hvalue, Bool.false_or,
    decide_eq_true_eq, if_neg hlimit]

lemma Digits.head_ne (digits : Digits) {c : Char} (hc : c.isDigit = false) :
    (digits.chars ++ rest).head? ≠ some c := by
  obtain ⟨d, later, hchars⟩ := List.exists_cons_of_ne_nil digits.ne_nil
  have hd := digits.isDigit d (by simp [hchars])
  rw [hchars]
  simp only [List.cons_append, List.head?_cons, ne_eq, Option.some.injEq]
  rintro rfl
  simp [hc] at hd

lemma Digits.noComment (digits : Digits) : NoComment (digits.chars ++ rest) := by
  intro later heq
  exact digits.head_ne (c := '(') rfl (by rw [heq]; rfl)

/-- A number that is not too great is a bound. -/
lemma value_ne_countLimit {n : Nat} (hbelow : n < Nat.pow 2 32) : n ≠ Backtrack.countLimit := by
  have : Nat.pow 2 32 ≤ Backtrack.countLimit := by decide
  omega

/-- The sign of a repetition, with the numbers that may follow it. -/
lemma readRounds?_count (hmode : IsPlain state.mode) (count : Count)
    (hbelow : count.IsBelow (Nat.pow 2 32)) :
    Backtrack.readRounds? state (count.text ++ rest) =
      some ((count.least, count.most), rest) := by
  have hskip : ∀ {rest}, NoComment rest → state.skip rest = .ok rest := hmode.skip_between
  have hbrace : ∀ {rest}, state.skip ('\x7d' :: rest) = .ok ('\x7d' :: rest) :=
    hskip (noComment_of_head (by decide))
  have hcomma : ∀ {rest}, state.skip (',' :: rest) = .ok (',' :: rest) :=
    hskip (noComment_of_head (by decide))
  cases count with
  | optional | star | plus => rfl
  | exactly count =>
    have hread := @Digits.readDecimal? rest count hbelow.1 '\x7d' rfl
    have hfirst : (count.chars ++ '\x7d' :: rest).head? ≠ some ',' := count.head_ne rfl
    have hlimit := value_ne_countLimit hbelow.1
    simp only [Count.least] at hlimit
    simp only [Count.text, Backtrack.readRounds?, Backtrack.readCounts?, List.cons_append,
      List.append_assoc, List.nil_append, hskip count.noComment, Except.toOption, if_neg hfirst,
      hread, hbrace, if_neg hlimit, bind, Option.bind, Count.least, Count.most]
  | atLeast least =>
    have hread := @Digits.readDecimal? ('\x7d' :: rest) least hbelow.1 ',' rfl
    have hfirst : (least.chars ++ ',' :: '\x7d' :: rest).head? ≠ some ',' := least.head_ne rfl
    have hnone : Backtrack.readDecimal? ('\x7d' :: rest) = none := rfl
    simp only [Count.text, Backtrack.readRounds?, Backtrack.readCounts?, List.cons_append,
      List.append_assoc, List.nil_append, hskip least.noComment, Except.toOption, if_neg hfirst,
      hread, hbrace, hcomma, hnone, bind, Option.bind, Count.least, Count.most]
  | between least most =>
    have hread := @Digits.readDecimal? (most.chars ++ '\x7d' :: rest) least hbelow.1 ',' rfl
    have hfirst : (least.chars ++ ',' :: (most.chars ++ '\x7d' :: rest)).head? ≠ some ',' :=
      least.head_ne rfl
    have hmost := hbelow.2 most.value rfl
    have hread' := @Digits.readDecimal? rest most hmost '\x7d' rfl
    simp only [Count.text, Backtrack.readRounds?, Backtrack.readCounts?, List.cons_append,
      List.append_assoc, List.nil_append, hskip least.noComment, hskip most.noComment,
      Except.toOption, if_neg hfirst, hread, hread', hbrace, hcomma,
      if_neg (value_ne_countLimit hmost), bind, Option.bind, Count.least, Count.most]

lemma readRounds?_follows (hrest : Follows rest) : Backtrack.readRounds? state rest = none := by
  have hsign := hrest.sign
  unfold Backtrack.readRounds?
  split <;> simp_all [roundSigns]

/-- What a repetition makes of a tree. -/
def treeRepeatedBy (mode : Mode) : Option Rounds → Backtrack.Tree → Backtrack.Tree
  | none, tree => tree
  | some r, tree => .rep r.count.least r.count.most (r.isGreedy mode) tree

/-- The state after one more part. -/
def pushTree (state : Backtrack.ReadState) (tree : Backtrack.Tree) : Backtrack.ReadState :=
  { state with current := state.current.push tree }

/-- A part is added with the repetition that may follow it. -/
lemma finish_rounds (hmode : IsPlain state.mode) (rounds : Option Rounds)
    (hbelow : ∀ r ∈ rounds, r.count.IsBelow (Nat.pow 2 32)) (hrest : Follows rest)
    {part : Backtrack.Tree} {result : Backtrack.ReadState × List Char}
    (h : Backtrack.finish state part (roundsText rounds ++ rest) = .ok result) :
    (rounds.isSome = true → part.isRepeatable = true) ∧
      result = (pushTree state (treeRepeatedBy state.mode rounds part), rest) := by
  have hskip : ∀ {rest}, NoComment rest → state.skip rest = .ok rest := hmode.skip_between
  cases rounds with
  | none =>
    simp only [Backtrack.finish, roundsText, List.nil_append, hskip hrest.comment, bind_eq_ok,
      Except.ok.injEq] at h
    obtain ⟨_, rfl, h⟩ := h
    simp only [readRounds?_follows hrest] at h
    exact ⟨by simp, (pure_eq_ok.mp h).symm⟩
  | some r =>
    obtain ⟨sign, later, htext, hsign⟩ := r.count.text_eq_cons
    have hopen : sign ≠ '(' := by
      rintro rfl
      exact absurd hsign (by decide)
    have hcomment : NoComment (roundsText (some r) ++ rest) := by
      rw [roundsText, Rounds.text, htext]
      exact noComment_of_head hopen
    have hread : Backtrack.readRounds? state (roundsText (some r) ++ rest) =
        some ((r.count.least, r.count.most), (if r.isMarked then ['?'] else []) ++ rest) := by
      rw [roundsText, Rounds.text, List.append_assoc]
      exact readRounds?_count hmode r.count (hbelow r rfl)
    simp only [Backtrack.finish, hskip hcomment, bind_eq_ok, Except.ok.injEq] at h
    obtain ⟨_, rfl, h⟩ := h
    rw [hread] at h
    have hmark : state.skip ((if r.isMarked then ['?'] else []) ++ rest) =
        .ok ((if r.isMarked then ['?'] else []) ++ rest) := hskip (noComment_mark hrest.comment)
    simp only [hmark] at h
    split at h
    · exact (throw_bind_eq_ok.mp h).elim
    · next hrepeatable =>
      refine ⟨fun _ => by simpa using hrepeatable, ?_⟩
      simp only [bind_eq_ok, Except.ok.injEq] at h
      obtain ⟨_, rfl, h⟩ := h
      -- neither a question mark nor a plus sign follows the mark of the repetition
      have hplus : rest.head? ≠ some '+' := fun heq => hrest.sign '+' heq (by decide)
      have hquestion := hrest.ne_question
      have hgreedy : r.isGreedy state.mode = (r.isMarked == state.mode.swapGreed) := rfl
      cases rest with
      | nil =>
        cases hmarked : r.isMarked <;> simp only [hmarked] at h <;>
        · rw [treeRepeatedBy, hgreedy, hmarked]
          exact (pure_eq_ok.mp h).symm
      | cons c rest =>
        simp only [List.head?_cons, ne_eq, Option.some.injEq] at hplus hquestion
        rw [treeRepeatedBy, hgreedy]
        cases hmarked : r.isMarked <;>
        · simp [hmarked, hplus, hquestion, pure_eq_ok] at h
          simp [← h, pushTree]

end

/-! ## Parts -/

/-- From a state the rest of a pattern can be read, which gives the whole pattern. -/
def Parses (state : Backtrack.ReadState) (text : List Char) (parsed : Backtrack.Parsed) : Prop :=
  ∃ fuel, Backtrack.readPattern fuel state text = .ok parsed

/-- The tree of a part, if the part is well-formed. -/
def Atom.tree? (mode : Mode) : Atom → Option Backtrack.Tree
  | plain c _ => some (.literal c mode.ignoreCase)
  | escaped e => e.char?.map (.literal · (e.isNumber && mode.ignoreCase))
  | set e => some (.chars ('\\' :: e.text) mode.ignoreCase)
  | charClass b => some (.chars ('[' :: b.rewritten.text ++ [']']) mode.ignoreCase)
  | dot => some (.any mode.dotAll)
  | caret => some (.assertion (if mode.multiline then .lineStart else .textStart))
  | dollar => some (.assertion (if mode.multiline then .lineEnd else .textEnd))
  | textStart => some (.assertion .textStart)
  | textEnd => some (.assertion .textEnd)

namespace Parses

variable {state : Backtrack.ReadState} {parsed : Backtrack.Parsed}

lemma cons (hmode : IsPlain state.mode) {c : Char} (hcomment : NoComment (c :: rest))
    (h : Parses state (c :: rest) parsed) :
    ∃ state' rest', Backtrack.readPart state c rest = .ok (state', rest') ∧
      Parses state' rest' parsed := by
  obtain ⟨fuel, h⟩ := h
  cases fuel with
  | zero => simp [Backtrack.readPattern] at h
  | succ fuel =>
    simp only [Backtrack.readPattern, Backtrack.ReadState.skip, hmode.skip_between hcomment,
      bind_eq_ok, Except.ok.injEq] at h
    obtain ⟨_, rfl, h⟩ := h
    simp only [bind_eq_ok] at h
    obtain ⟨⟨state', rest'⟩, hread, h⟩ := h
    exact ⟨state', rest', hread, fuel, h⟩

lemma nil (h : Parses state [] parsed) :
    state.groups = [] ∧ ∃ tree, Backtrack.closeBranches state = .ok tree ∧
      parsed = ⟨tree, state.groupCount + 1, state.references⟩ := by
  obtain ⟨fuel, h⟩ := h
  cases fuel with
  | zero => simp [Backtrack.readPattern] at h
  | succ fuel =>
    simp only [Backtrack.readPattern, Backtrack.ReadState.skip, Backtrack.skip, bind_eq_ok,
      Except.ok.injEq] at h
    obtain ⟨_, rfl, h⟩ := h
    simp only at h
    split at h
    · exact (throw_bind_eq_ok.mp h).elim
    · next hgroups =>
      simp only [bind_eq_ok, pure_eq_ok] at h
      obtain ⟨tree, hclose, rfl⟩ := h
      exact ⟨by simpa using hgroups, tree, hclose, rfl⟩

/-- What is read for a part is added with the repetition that may follow it. -/
lemma of_readPart (hmode : IsPlain state.mode) {c : Char} (hc : c ≠ '(')
    (rounds : Option Rounds) (hbelow : ∀ r ∈ rounds, r.count.IsBelow (Nat.pow 2 32))
    (hrest : Follows rest) {later : List Char} {tree : Backtrack.Tree}
    (h : Parses state (c :: later) parsed)
    (hread : ∀ result, Backtrack.readPart state c later = .ok result →
      Backtrack.finish state tree (roundsText rounds ++ rest) = .ok result) :
    (rounds.isSome = true → tree.isRepeatable = true) ∧
      Parses (pushTree state (treeRepeatedBy state.mode rounds tree)) rest parsed := by
  obtain ⟨state', rest', hpart, hlater⟩ := h.cons hmode (noComment_of_head hc)
  obtain ⟨hrepeatable, heq⟩ := finish_rounds hmode rounds hbelow hrest (hread _ hpart)
  obtain ⟨rfl, rfl⟩ := Prod.mk.inj heq
  exact ⟨hrepeatable, hlater⟩

lemma readPart_plain {c : Char} (hc : isSign c = false) {later : List Char} :
    Backtrack.readPart state c later =
      Backtrack.finish state (.literal c state.mode.ignoreCase) later := by
  simp only [isSign, List.contains_eq_mem, decide_eq_false_iff_not, List.mem_cons,
    List.not_mem_nil, or_false, not_or] at hc
  obtain ⟨_, _, _, _, _, _, _, _, _, _, _, _⟩ := hc
  unfold Backtrack.readPart
  split <;> first | rfl | contradiction

lemma readEscape_start {c : Char} (hc : IsEscapeStart c) {later : List Char} :
    Backtrack.readEscape state (c :: later) = (do
      let (tree, rest) ← Backtrack.readCharEscape state.mode c later
      return ((state, tree), rest)) := by
  obtain ⟨hdigit, hletters, hless, hgreater⟩ := hc
  simp only [classLetters, List.mem_cons, not_or] at hletters
  obtain ⟨_, _, _, _, _, _, _, _⟩ := hletters
  simp only [Backtrack.readEscape, hdigit, Bool.false_eq_true, if_false]

/-- A part is added with the repetition that may follow it. -/
lemma atom (hmode : IsPlain state.mode) (a : Atom) (rounds : Option Rounds)
    (hbelow : ∀ r ∈ rounds, r.count.IsBelow (Nat.pow 2 32)) (hrest : Follows rest)
    (h : Parses state (a.text ++ (roundsText rounds ++ rest)) parsed) :
    ∃ tree, a.tree? state.mode = some tree ∧ (rounds.isSome = true → tree.isRepeatable = true) ∧
      Parses (pushTree state (treeRepeatedBy state.mode rounds tree)) rest parsed := by
  cases a with
  | plain c hc =>
    have hopen : c ≠ '(' := by
      rintro rfl
      simp [isSign] at hc
    refine ⟨_, rfl, h.of_readPart hmode hopen rounds hbelow hrest fun result hread => ?_⟩
    rw [← readPart_plain hc]
    exact hread
  | escaped e =>
    obtain ⟨c, later, htext, hc⟩ := e.text_eq_cons
    rw [Atom.text, htext, List.cons_append, List.cons_append] at h
    obtain ⟨_, _, hread, hlater⟩ := h.cons hmode (noComment_of_head (by decide))
    simp only [Backtrack.readPart, readEscape_start hc, bind_eq_ok, pure_eq_ok] at hread
    obtain ⟨_, ⟨_, hread, rfl⟩, hfinish⟩ := hread
    obtain ⟨d, hd, rfl⟩ := readCharEscape_char e htext hread
    obtain ⟨hrepeatable, heq⟩ := finish_rounds hmode rounds hbelow hrest hfinish
    obtain ⟨rfl, rfl⟩ := Prod.mk.inj heq
    exact ⟨_, by rw [Atom.tree?, hd]; rfl, hrepeatable, hlater⟩
  | set e =>
    obtain ⟨c, later, htext, hc⟩ := e.text_eq_cons
    rw [Atom.text, htext, List.cons_append, List.cons_append] at h
    obtain ⟨_, _, hread, hlater⟩ := h.cons hmode (noComment_of_head (by decide))
    simp only [Backtrack.readPart, readEscape_start hc, bind_eq_ok, pure_eq_ok] at hread
    obtain ⟨_, ⟨_, hread, rfl⟩, hfinish⟩ := hread
    obtain rfl := readCharEscape_set e htext hread
    obtain ⟨hrepeatable, heq⟩ := finish_rounds hmode rounds hbelow hrest hfinish
    obtain ⟨rfl, rfl⟩ := Prod.mk.inj heq
    exact ⟨_, rfl, hrepeatable, hlater⟩
  | charClass b =>
    rw [Atom.text, List.cons_append, List.cons_append, List.append_assoc,
      List.singleton_append] at h
    obtain ⟨_, _, hread, hlater⟩ := h.cons hmode (noComment_of_head (by decide))
    simp only [Backtrack.readPart, bind_eq_ok] at hread
    obtain ⟨_, hread, hfinish⟩ := hread
    obtain rfl := b.readClass hread
    obtain ⟨hrepeatable, heq⟩ := finish_rounds hmode rounds hbelow hrest hfinish
    obtain ⟨rfl, rfl⟩ := Prod.mk.inj heq
    exact ⟨_, rfl, hrepeatable, hlater⟩
  | dot | caret | dollar | textStart | textEnd =>
    exact ⟨_, rfl, h.of_readPart hmode (by decide) rounds hbelow hrest fun _ hread => hread⟩

end Parses

/-! ## Flags -/

section

variable {state : Backtrack.ReadState}

/-- A letter switches its flag, apart from the one for characters, which stays as it is. -/
lemma readFlags_letter (hmode : IsPlain state.mode) {c : Char} {on : Bool}
    (hc : c ∈ ['i', 'm', 's', 'U'] ∨ c = if on then 'u' else 'x') {outside : Mode}
    {fuel count : Nat} {result : Backtrack.ReadState × List Char}
    (h : Backtrack.readFlags outside on fuel count state (c :: rest) = .ok result) :
    ∃ fuel count, Backtrack.readFlags outside on fuel count
      { state with mode := (state.mode.switch? c on).getD state.mode } rest = .ok result := by
  obtain _ | fuel := fuel
  · simp [Backtrack.readFlags] at h
  have hskip : state.skip (c :: rest) = .ok (c :: rest) := by
    refine hmode.skip_between (noComment_of_head ?_)
    rintro rfl
    cases on <;> exact absurd hc (by decide)
  simp only [Backtrack.readFlags, hskip, bind_eq_ok, Except.ok.injEq] at h
  obtain ⟨_, rfl, h⟩ := h
  simp only [List.mem_cons, List.not_mem_nil, or_false] at hc
  rcases hc with (rfl | rfl | rfl | rfl) | rfl
  · exact ⟨fuel, _, h⟩
  · exact ⟨fuel, _, h⟩
  · exact ⟨fuel, _, h⟩
  · exact ⟨fuel, _, h⟩
  · cases on with
    | false => exact ⟨fuel, _, h⟩
    | true =>
      -- Unicode is on in every mode of the shared syntax
      have hmode' : (state.mode.switch? 'u' true).getD state.mode = state.mode := by
        have hunicode := hmode.unicode
        generalize state.mode = mode at hunicode
        cases mode
        simp_all [Mode.switch?]
      simp only [if_true, hmode']
      exact ⟨fuel, _, h⟩

lemma readFlags_append (hmode : IsPlain state.mode) {on : Bool} {letters : List Char}
    (hletters : ∀ c ∈ letters, c ∈ ['i', 'm', 's', 'U'] ∨ c = if on then 'u' else 'x')
    {outside : Mode} {fuel count : Nat} {result : Backtrack.ReadState × List Char}
    (h : Backtrack.readFlags outside on fuel count state (letters ++ rest) = .ok result) :
    ∃ fuel count, Backtrack.readFlags outside on fuel count
      { state with mode := Switches.switchAll on letters state.mode } rest = .ok result := by
  induction letters generalizing state fuel count with
  | nil => exact ⟨fuel, count, h⟩
  | cons c letters ih =>
    have hc := hletters c List.mem_cons_self
    obtain ⟨fuel, count, h⟩ := readFlags_letter hmode hc h
    have hmode' := hmode.switchAll (fun d hd => (List.mem_singleton.mp hd) ▸ hc : ∀ d ∈ [c], _)
    exact ih hmode' (fun c hc => hletters c (List.mem_cons_of_mem _ hc)) h

/-- What is read at the sign that ends flags. -/
def afterFlags (state : Backtrack.ReadState) (outside : Mode) (c : Char) (rest : List Char) :
    Backtrack.Step :=
  if c = ')' then Backtrack.finish state .empty rest
  else .ok (Backtrack.openGroup state (.flags outside), rest)

lemma readFlags_end (hmode : IsPlain state.mode) {on : Bool} {c : Char} (hc : c = ':' ∨ c = ')')
    {outside : Mode} {fuel count : Nat} {result : Backtrack.ReadState × List Char}
    (h : Backtrack.readFlags outside on fuel count state (c :: rest) = .ok result) :
    afterFlags state outside c rest = .ok result := by
  obtain _ | fuel := fuel
  · simp [Backtrack.readFlags] at h
  have hskip : state.skip (c :: rest) = .ok (c :: rest) := by
    refine hmode.skip_between (noComment_of_head ?_)
    rcases hc with rfl | rfl <;> decide
  simp only [Backtrack.readFlags, hskip, bind_eq_ok, Except.ok.injEq] at h
  obtain ⟨_, rfl, h⟩ := h
  rw [afterFlags]
  rcases hc with rfl | rfl
  · simp only [Char.reduceEq, if_false, if_true] at h ⊢
    split at h
    · exact (throw_bind_eq_ok.mp h).elim
    · exact h
  · simp only [if_true] at h ⊢
    split at h
    · exact (throw_bind_eq_ok.mp h).elim
    · exact h

lemma readFlags_hyphen (hmode : IsPlain state.mode) {outside : Mode} {fuel count : Nat}
    {result : Backtrack.ReadState × List Char}
    (h : Backtrack.readFlags outside true fuel count state ('-' :: rest) = .ok result) :
    ∃ fuel count, Backtrack.readFlags outside false fuel count state rest = .ok result := by
  obtain _ | fuel := fuel
  · simp [Backtrack.readFlags] at h
  have hskip : state.skip ('-' :: rest) = .ok ('-' :: rest) :=
    hmode.skip_between (noComment_of_head (by decide))
  simp only [Backtrack.readFlags, hskip, bind_eq_ok, Except.ok.injEq] at h
  obtain ⟨_, rfl, h⟩ := h
  exact ⟨fuel, _, h⟩

/-- Flags are read up to the sign that ends them. -/
lemma readFlags_switches (hmode : IsPlain state.mode) (f : Switches) {c : Char}
    (hc : c = ':' ∨ c = ')') {outside : Mode} {fuel : Nat}
    {result : Backtrack.ReadState × List Char}
    (h : Backtrack.readFlags outside true fuel 0 state (f.text ++ c :: rest) = .ok result) :
    afterFlags { state with mode := f.apply state.mode } outside c rest = .ok result := by
  -- the flags in front of the hyphen, then those after it
  have hon := hmode.switchAll f.mem_on
  rw [Switches.text, List.append_assoc] at h
  obtain ⟨fuel, count, h⟩ := readFlags_append hmode f.mem_on h
  rw [Switches.apply]
  cases hoff : f.off with
  | none =>
    rw [hoff] at h
    refine readFlags_end ?_ hc h
    exact hon
  | some off =>
    rw [hoff] at h
    have hoff' := hon.switchAll (f.mem_off hoff)
    obtain ⟨fuel, count, h⟩ := readFlags_hyphen (by exact hon) h
    obtain ⟨fuel, count, h⟩ := readFlags_append (by exact hon) (f.mem_off hoff) h
    refine readFlags_end ?_ hc h
    exact hoff'

end

/-! ## Groups -/

namespace Parses

variable {state : Backtrack.ReadState} {parsed : Backtrack.Parsed}

/-- The groups are not nested too deeply where one more is opened. -/
lemma nesting_of_readGroup {result : Backtrack.ReadState × List Char}
    (h : Backtrack.readGroup state rest = .ok result) :
    ¬ Backtrack.nestingLimit ≤ state.groups.length + 1 := by
  intro hdeep
  rw [Backtrack.readGroup, if_pos hdeep] at h
  exact (throw_bind_eq_ok.mp h).elim

lemma capture (hmode : IsPlain state.mode) (hrest : Follows rest)
    (h : Parses state ('(' :: rest) parsed) :
    Parses (Backtrack.openCapture state) rest parsed := by
  have hopen : NoComment ('(' :: rest) := (follows_item (.opening .capture) hrest).comment
  have hskip : state.skip rest = .ok rest := hmode.skip_between hrest.comment
  obtain ⟨_, _, hread, hlater⟩ := h.cons hmode hopen
  simp only [Backtrack.readPart] at hread
  simp only [Backtrack.readGroup, if_neg (nesting_of_readGroup hread), hskip, bind_eq_ok,
    Except.ok.injEq] at hread
  obtain ⟨_, rfl, hread⟩ := hread
  have hquestion := hrest.ne_question
  -- all kinds of groups but this one begin with a question mark
  split at hread
  all_goals try exact absurd rfl hquestion
  obtain ⟨rfl, rfl⟩ := Prod.mk.inj (pure_eq_ok.mp hread)
  exact hlater

lemma readName?_append {name : List Char} (hname : '>' ∉ name) {result : List Char × List Char}
    (h : Backtrack.readName? '>' (name ++ '>' :: rest) = some result) : result = (name, rest) := by
  have hend : Backtrack.isNameChar '>' = false := rfl
  by_cases hall : ∀ c ∈ name, Backtrack.isNameChar c = true
  · have htake : (name ++ '>' :: rest).takeWhile Backtrack.isNameChar = name :=
      takeWhile_append_cons hall hend
    have hdrop : (name ++ '>' :: rest).dropWhile Backtrack.isNameChar = '>' :: rest :=
      dropWhile_append_cons hall hend
    simp only [Backtrack.readName?, htake, hdrop] at h
    split at h
    · exact (Option.some.inj h).symm
    · simp at h
  · -- the characters that may stand in a name end before `>`
    have hne : name.dropWhile Backtrack.isNameChar ≠ [] := mt List.dropWhile_eq_nil_iff.mp hall
    obtain ⟨c, later, hdrop⟩ := List.exists_cons_of_ne_nil hne
    have hmem : c ∈ name :=
      (List.dropWhile_sublist _).subset (by rw [hdrop]; exact List.mem_cons_self)
    have hgreater : c ≠ '>' := by
      rintro rfl
      exact hname hmem
    simp [Backtrack.readName?, List.dropWhile_append, hdrop, hgreater] at h

lemma openNamed {name : List Char} (hname : '>' ∉ name) {result : Backtrack.ReadState × List Char}
    (h : Backtrack.openNamed state (name ++ '>' :: rest) = .ok result) :
    ∃ names, result = (Backtrack.openCapture { state with names }, rest) := by
  unfold Backtrack.openNamed at h
  split at h
  · simp at h
  · next name' rest' hread =>
    obtain ⟨rfl, rfl⟩ := Prod.mk.inj (readName?_append hname hread)
    exact ⟨_, (Except.ok.inj h).symm⟩

lemma named (hmode : IsPlain state.mode) {long : Bool} {name : List Char} (hname : '>' ∉ name)
    (hfirst : name.head? ≠ some '=' ∧ name.head? ≠ some '!')
    (h : Parses state ((Opening.named long name hname hfirst).text ++ rest) parsed) :
    ∃ names, Parses (Backtrack.openCapture { state with names }) rest parsed := by
  have hskip : ∀ {rest}, state.skip ('?' :: rest) = .ok ('?' :: rest) :=
    hmode.skip_between (noComment_of_head (by decide))
  cases long with
  | true =>
    simp only [Opening.text, if_true, List.cons_append, List.append_assoc, List.nil_append] at h
    obtain ⟨_, _, hread, hlater⟩ := h.cons hmode (fun _ heq => by simp at heq)
    simp only [Backtrack.readPart] at hread
    simp only [Backtrack.readGroup, if_neg (nesting_of_readGroup hread), hskip, bind_eq_ok,
      Except.ok.injEq] at hread
    obtain ⟨_, rfl, hread⟩ := hread
    obtain ⟨names, heq⟩ := openNamed hname hread
    obtain ⟨rfl, rfl⟩ := Prod.mk.inj heq
    exact ⟨names, hlater⟩
  | false =>
    simp only [Opening.text, Bool.false_eq_true, if_false, List.cons_append, List.append_assoc,
      List.nil_append] at h
    obtain ⟨state', rest', hread, hlater⟩ := h.cons hmode (fun _ heq => by simp at heq)
    simp only [Backtrack.readPart] at hread
    simp only [Backtrack.readGroup, if_neg (nesting_of_readGroup hread), hskip, bind_eq_ok,
      Except.ok.injEq] at hread
    obtain ⟨_, rfl, hread⟩ := hread
    -- the name does not make a look-behind of the group
    have hnamed : Backtrack.openNamed state (name ++ '>' :: rest) = .ok (state', rest') := by
      cases name with
      | nil => exact hread
      | cons c name =>
        simp only [List.head?_cons, ne_eq, Option.some.injEq] at hfirst
        simpa [hfirst.1, hfirst.2] using hread
    obtain ⟨names, heq⟩ := openNamed hname hnamed
    obtain ⟨rfl, rfl⟩ := Prod.mk.inj heq
    exact ⟨names, hlater⟩

/-- What follows an opening parenthesis and a question mark is read as flags. -/
lemma flags (hmode : IsPlain state.mode) (f : Switches) {c : Char} (hc : c = ':' ∨ c = ')')
    (h : Parses state ('(' :: '?' :: (f.text ++ c :: rest)) parsed) :
    ∃ state' rest', afterFlags { state with mode := f.apply state.mode } state.mode c rest =
      .ok (state', rest') ∧ Parses state' rest' parsed := by
  obtain ⟨d, later, htext, hd⟩ := f.text_append hc rest
  have hcomment : NoComment ('(' :: '?' :: (f.text ++ c :: rest)) := by
    rw [htext]
    refine (Follows.of_opening ?_).comment
    rintro rfl
    exact absurd hd (by decide)
  have hskip : ∀ {rest}, state.skip ('?' :: rest) = .ok ('?' :: rest) :=
    hmode.skip_between (noComment_of_head (by decide))
  obtain ⟨state', rest', hread, hlater⟩ := h.cons hmode hcomment
  refine ⟨state', rest', ?_, hlater⟩
  simp only [Backtrack.readPart] at hread
  simp only [Backtrack.readGroup, if_neg (nesting_of_readGroup hread), hskip, bind_eq_ok,
    Except.ok.injEq] at hread
  obtain ⟨_, rfl, hread⟩ := hread
  -- whichever sign flags begin with, it begins no other kind of group
  have hflags : ∃ fuel, Backtrack.readFlags state.mode true fuel 0 state
      (f.text ++ c :: rest) = .ok (state', rest') := by
    rw [htext] at hread ⊢
    simp only [flagLetters, List.mem_cons, List.not_mem_nil, or_false] at hd
    rcases hd with rfl | rfl | rfl | rfl | rfl | rfl | rfl | rfl | rfl <;> exact ⟨_, hread⟩
  obtain ⟨fuel, hflags⟩ := hflags
  exact readFlags_switches hmode f hc hflags

/-- A group for the sake of flags is opened. -/
lemma openFlags (hmode : IsPlain state.mode) (f : Switches)
    (h : Parses state ((Opening.flags f).text ++ rest) parsed) :
    Parses (Backtrack.openGroup { state with mode := f.apply state.mode } (.flags state.mode))
      rest parsed := by
  simp only [Opening.text, List.cons_append, List.append_assoc, List.nil_append] at h
  obtain ⟨_, _, hread, hlater⟩ := h.flags hmode f (.inl rfl)
  obtain ⟨rfl, rfl⟩ := Prod.mk.inj (Except.ok.inj hread)
  exact hlater

/-- Flags are switched for what follows. -/
lemma switch (hmode : IsPlain state.mode) (f : Switches) (hrest : Follows rest)
    (h : Parses state ((Item.switch f).text ++ rest) parsed) :
    Parses { state with mode := f.apply state.mode } rest parsed := by
  simp only [Item.text, List.cons_append, List.append_assoc, List.nil_append] at h
  obtain ⟨_, _, hread, hlater⟩ := h.flags hmode f (.inr rfl)
  rw [afterFlags, if_pos rfl] at hread
  obtain ⟨-, heq⟩ := finish_rounds (by exact hmode.apply f) none (by simp) hrest hread
  obtain ⟨rfl, rfl⟩ := Prod.mk.inj heq
  exact hlater

lemma closeBranches_eq (hnumbered : state.hasNumbered = false) :
    Backtrack.closeBranches state = .ok state.current.close := by
  simp [Backtrack.closeBranches, hnumbered]

/-- A capture group is closed. -/
lemma closing_capture (hmode : IsPlain state.mode) (hnumbered : state.hasNumbered = false)
    {index : Nat} {outside : Backtrack.Branches} {groups : List Backtrack.OpenGroup}
    (hgroups : state.groups = ⟨.capture index, outside⟩ :: groups) (rounds : Option Rounds)
    (hbelow : ∀ r ∈ rounds, r.count.IsBelow (Nat.pow 2 32)) (hrest : Follows rest)
    (h : Parses state (')' :: (roundsText rounds ++ rest)) parsed) :
    Parses (pushTree { state with current := outside, groups }
      (treeRepeatedBy state.mode rounds (.group index state.current.close))) rest parsed := by
  obtain ⟨_, _, hread, hlater⟩ := h.cons hmode (noComment_of_head (by decide))
  simp only [Backtrack.readPart, Backtrack.closeGroup, closeBranches_eq hnumbered, hgroups,
    bind_eq_ok, Except.ok.injEq] at hread
  obtain ⟨_, rfl, hread⟩ := hread
  obtain ⟨-, heq⟩ := finish_rounds (by exact hmode) rounds hbelow hrest hread
  obtain ⟨rfl, rfl⟩ := Prod.mk.inj heq
  exact hlater

/-- A group for the sake of flags is closed. -/
lemma closing_flags (hmode : IsPlain state.mode) (hnumbered : state.hasNumbered = false)
    {outer : Mode} (houter : IsPlain outer)
    {outside : Backtrack.Branches} {groups : List Backtrack.OpenGroup}
    (hgroups : state.groups = ⟨.flags outer, outside⟩ :: groups) (rounds : Option Rounds)
    (hbelow : ∀ r ∈ rounds, r.count.IsBelow (Nat.pow 2 32)) (hrest : Follows rest)
    (h : Parses state (')' :: (roundsText rounds ++ rest)) parsed) :
    (rounds.isSome = true → state.current.close.isRepeatable = true) ∧
      Parses (pushTree { state with mode := outer, current := outside, groups }
        (treeRepeatedBy outer rounds state.current.close)) rest parsed := by
  obtain ⟨_, _, hread, hlater⟩ := h.cons hmode (noComment_of_head (by decide))
  simp only [Backtrack.readPart, Backtrack.closeGroup, closeBranches_eq hnumbered, hgroups,
    bind_eq_ok, Except.ok.injEq] at hread
  obtain ⟨_, rfl, hread⟩ := hread
  obtain ⟨hrepeatable, heq⟩ := finish_rounds (by exact houter) rounds hbelow hrest hread
  obtain ⟨rfl, rfl⟩ := Prod.mk.inj heq
  exact ⟨hrepeatable, hlater⟩

/-- A new branch is begun. -/
lemma bar (hmode : IsPlain state.mode) (h : Parses state ('|' :: rest) parsed) :
    Parses { state with current := state.current.next } rest parsed := by
  obtain ⟨_, _, hread, hlater⟩ := h.cons hmode (noComment_of_head (by decide))
  obtain ⟨rfl, rfl⟩ := Prod.mk.inj (Except.ok.inj hread)
  exact hlater

end Parses

end Shared

end TextExpr
