import TextExpr.Proofs.Shared.Reading

/-!
# Trees that are written out

A tree of the backtracking engine that is not hard is written out as a pattern of the linear engine.
`Denotes` says which expression a tree stands for, and `written_of_denotes` that this is what the
linear engine reads: the text of the tree is read as that expression wherever it is written.
-/

namespace TextExpr

namespace Shared

open Linear (Regex)
open Backtrack (Tree)

/-! ## The expression of a tree -/

/-- A text that begins with something else than a question mark. -/
def StartsPart (text : List Char) : Prop := ∃ c later, text = c :: later ∧ c ≠ '?'

/-- A text is a set of characters in the linear engine, wherever it stands. -/
structure WritesSet (source : List Char) (ignoreCase : Bool) (chars : CharSet) : Prop where
  /-- It is read as one part. -/
  part : ∀ first, ReadsPart false (ofCase ignoreCase) first source (.set chars) first
  /-- It begins like a part. -/
  start : StartsPart source

/-- The conditions that are written out. -/
def writtenConditions : List Assertion := [.textStart, .textEnd, .lineStart, .lineEnd]

mutual

/-- The tree stands for an expression, where `first` is the number of its first group and `next`
the one of the first group after it. -/
def Denotes (first : Nat) : Tree → Regex → Nat → Prop
  | .empty, e, next => e = .empty ∧ next = first
  | .any newline, e, next =>
    e = .set (if newline then CharSet.empty.complement else (CharSet.singleton '\n').complement) ∧
      next = first
  | .literal c ignoreCase, e, next => e = Linear.literalExpr (ofCase ignoreCase) c ∧ next = first
  | .assertion condition, e, next =>
    condition ∈ writtenConditions ∧ e = .look condition ∧ next = first
  | .chars source ignoreCase, e, next =>
    ∃ chars, WritesSet source ignoreCase chars ∧ e = .set chars ∧ next = first
  | .concat parts, e, next =>
    ∃ es, DenotesAll first parts es next ∧ (∀ part ∈ parts, part.isEmpty = false) ∧
      e = Regex.sequence es
  | .alt branches, e, next =>
    ∃ es, DenotesAll first branches es next ∧ branches ≠ [] ∧ e = Regex.choice es
  | .group _ body, e, next => ∃ inner, Denotes (first + 1) body inner next ∧ e = .group first inner
  | .rep least most greedy body, e, next =>
    ∃ inner, Denotes first body inner next ∧ body.isEmpty = false ∧
      e = inner.repeated least most greedy
  | _, _, _ => False

/-- The trees stand for expressions, one after the other. -/
def DenotesAll (first : Nat) : List Tree → List Regex → Nat → Prop
  | [], es, next => es = [] ∧ next = first
  | tree :: trees, es, next =>
    ∃ e mid later, Denotes first tree e mid ∧ DenotesAll mid trees later next ∧ es = e :: later

end

/-! ## Flags in front of a part -/

/-- One flag, switched on. -/
def oneFlag (c : Char) (hc : c ∈ ['i', 'm', 's', 'U', 'u']) : Switches :=
  ⟨[c], none, by simpa using hc, by simp⟩

/-- No flag. -/
def noFlag : Switches := ⟨[], none, by simp, by simp⟩

lemma isPlain_default : IsPlain {} := isPlain_ofCase false

variable {first next : Nat} {text : List Char} {e : Regex} {es : List Regex} {mode : Mode}

lemma ReadsPart.parts {isOpen : Bool} (h : ReadsPart isOpen mode first text e next) :
    ReadsParts mode first text [e] next := by
  have hcons := h.cons readsParts_nil (by simp)
  rwa [List.append_nil] at hcons

lemma ReadsParts.whole (h : ReadsParts mode first text es next) :
    ReadsWhole mode first text (Regex.sequence es) next :=
  h.branches.whole

lemma ReadsPart.whole {isOpen : Bool} (h : ReadsPart isOpen mode first text e next)
    (he : e.IsSequence) : ReadsWhole mode first text e next := by
  have hwhole := h.parts.whole
  rwa [he] at hwhole

/-- A part with a flag in front of it. -/
lemma ReadsPart.withFlag {c : Char} (hc : c ∈ ['i', 'm', 's', 'U', 'u'])
    (h : ReadsPart false ((oneFlag c hc).apply {}) first text e next) (he : e.IsSequence) :
    ReadsPart false {} first ('(' :: '?' :: c :: ':' :: text ++ [')']) e next :=
  (h.whole he).enclosed isPlain_default (oneFlag c hc)

/-- Parts in a group of their own. -/
lemma ReadsWhole.inGroup (h : ReadsWhole {} first text e next) :
    ReadsPart false {} first ("(?:".toList ++ text ++ [')']) e next :=
  ReadsWhole.enclosed isPlain_default noFlag h

/-! ## Single characters and conditions -/

lemma isSequence_literalExpr (mode : Mode) (c : Char) :
    (Linear.literalExpr mode c).IsSequence := by
  unfold Linear.literalExpr
  split
  · exact Regex.isSequence_of_parts rfl
  · split <;> exact Regex.isSequence_of_parts rfl

/-- A quoted character is an escaped one or one that stands for itself. -/
lemma readsPart_quoted (ignoreCase : Bool) (first : Nat) (c : Char) :
    ReadsPart false (ofCase ignoreCase) first (Tree.quoted c)
      (Linear.literalExpr (ofCase ignoreCase) c) first := by
  have hplain := isPlain_ofCase ignoreCase
  unfold Tree.quoted
  split
  · next hmem =>
    have hmark : isMark c = true := of_contains (by decide) hmem
    exact readsPart_atom hplain (.escaped (.mark c hmark)) rfl
  · next hmem =>
    have hsign : isSign c = false :=
      contains_eq_false (by decide) (Bool.eq_false_iff.mpr hmem)
    exact readsPart_atom hplain (.plain c hsign) rfl

lemma startsPart_quoted (c : Char) : StartsPart (Tree.quoted c) := by
  unfold Tree.quoted
  split
  · exact ⟨'\\', [c], rfl, by decide⟩
  · next hmem =>
    refine ⟨c, [], rfl, ?_⟩
    rintro rfl
    exact hmem (by decide)

lemma readsPart_any (newline : Bool) (first place : Nat) :
    ReadsPart false {} first (Tree.written place (.any newline))
      (.set (if newline then CharSet.empty.complement
        else (CharSet.singleton '\n').complement)) first := by
  cases newline with
  | false => exact readsPart_atom isPlain_default .dot rfl
  | true =>
    have hpart : ReadsPart false ((oneFlag 's' (by decide)).apply {}) first ['.']
        (.set CharSet.empty.complement) first :=
      readsPart_atom ⟨rfl, rfl, rfl⟩ .dot rfl
    exact hpart.withFlag _ (Regex.isSequence_of_parts rfl)

lemma readsPart_literal (c : Char) (ignoreCase : Bool) (first place : Nat) :
    ReadsPart false {} first (Tree.written place (.literal c ignoreCase))
      (Linear.literalExpr (ofCase ignoreCase) c) first := by
  cases ignoreCase with
  | false => exact readsPart_quoted false first c
  | true =>
    have hpart : ReadsPart false ((oneFlag 'i' (by decide)).apply {}) first (Tree.quoted c)
        (Linear.literalExpr (ofCase true) c) first := readsPart_quoted true first c
    exact hpart.withFlag _ (isSequence_literalExpr _ c)

lemma readsPart_chars {source : List Char} {ignoreCase : Bool} {chars : CharSet}
    (h : WritesSet source ignoreCase chars) (first place : Nat) :
    ReadsPart false {} first (Tree.written place (.chars source ignoreCase)) (.set chars)
      first := by
  cases ignoreCase with
  | false => exact h.part first
  | true => exact (h.part first).withFlag (by decide) (Regex.isSequence_of_parts rfl)

lemma readsPart_assertion {condition : Assertion} (h : condition ∈ writtenConditions)
    (first place : Nat) :
    ReadsPart false {} first (Tree.written place (.assertion condition)) (.look condition)
      first := by
  simp only [writtenConditions, List.mem_cons, List.not_mem_nil, or_false] at h
  rcases h with rfl | rfl | rfl | rfl
  · exact readsPart_atom isPlain_default .caret rfl
  · exact readsPart_atom isPlain_default .dollar rfl
  · have hpart : ReadsPart false ((oneFlag 'm' (by decide)).apply {}) first ['^']
        (.look .lineStart) first := readsPart_atom ⟨rfl, rfl, rfl⟩ .caret rfl
    exact hpart.withFlag _ (Regex.isSequence_of_parts rfl)
  · have hpart : ReadsPart false ((oneFlag 'm' (by decide)).apply {}) first ['$']
        (.look .lineEnd) first := readsPart_atom ⟨rfl, rfl, rfl⟩ .dollar rfl
    exact hpart.withFlag _ (Regex.isSequence_of_parts rfl)

/-! ## Repetitions -/

/-- A number as it is written. -/
def Digits.ofNat (n : Nat) : Digits :=
  ⟨Nat.toDigits 10 n, Nat.toDigits_ne_nil,
    fun _ => Nat.isDigit_of_mem_toDigits (by decide) (by decide)⟩

lemma Digits.value_ofNat (n : Nat) : (ofNat n).value = n :=
  Nat.ofDigitChars_toDigits (by decide) (by decide)

/-- How often a sign of a repetition says that a part is repeated. -/
def Count.of (least : Nat) (most : Option Nat) : Count :=
  match least, most with
  | 0, some 1 => .optional
  | 0, none => .star
  | 1, none => .plus
  | least, none => .atLeast (.ofNat least)
  | least, some most =>
    if least = most then .exactly (.ofNat least) else .between (.ofNat least) (.ofNat most)

lemma Count.least_of (least : Nat) (most : Option Nat) : (Count.of least most).least = least := by
  unfold Count.of
  split
  · rfl
  · rfl
  · rfl
  · exact Digits.value_ofNat _
  · split
    · exact Digits.value_ofNat _
    · exact Digits.value_ofNat _

lemma Count.most_of (least : Nat) (most : Option Nat) : (Count.of least most).most = most := by
  unfold Count.of
  split
  · rfl
  · rfl
  · rfl
  · rfl
  · split
    · next heq => rw [← heq, Count.most, Digits.value_ofNat]
    · rw [Count.most, Digits.value_ofNat]

/-- The sign of a repetition is one of the shared syntax. -/
lemma text_rounds (least : Nat) (most : Option Nat) (greedy : Bool) :
    (⟨Count.of least most, !greedy⟩ : Rounds).text = Tree.sign least most greedy := by
  have htext : (Count.of least most).text = Tree.sign least most true := by
    unfold Count.of Tree.sign
    split
    · rfl
    · rfl
    · rfl
    · simp [Count.text, Digits.ofNat]
    · split <;> simp_all [Count.text, Digits.ofNat]
  rw [Rounds.text, htext]
  cases greedy <;> simp [Tree.sign]

lemma ReadsPart.rep (h : ReadsPart false {} first text e next) (least : Nat) (most : Option Nat)
    (greedy : Bool) : ReadsPart true {} first (text ++ Tree.sign least most greedy)
      (e.repeated least most greedy) next := by
  have hrounds := h.rounds isPlain_default ⟨Count.of least most, !greedy⟩
  rw [text_rounds, repeatedBy, Count.least_of, Count.most_of] at hrounds
  simpa [Rounds.isGreedy] using hrounds

/-! ## Whole trees -/

lemma StartsPart.head? (h : StartsPart text) : text.head? ≠ some '?' := by
  obtain ⟨c, later, rfl, hc⟩ := h
  simpa using hc

lemma StartsPart.append (h : StartsPart text) (later : List Char) : StartsPart (text ++ later) := by
  obtain ⟨c, text, rfl, hc⟩ := h
  exact ⟨c, text ++ later, rfl, hc⟩

lemma head?_append {a b : List Char} (ha : a.head? ≠ some '?') (hb : b.head? ≠ some '?') :
    (a ++ b).head? ≠ some '?' := by
  cases a with
  | nil => exact hb
  | cons c a => exact ha

/-- The text of a tree is read as its expression, at every place. -/
structure Written (first : Nat) (tree : Tree) (e : Regex) (next : Nat) : Prop where
  /-- As a part, after which no question mark may follow if it is a repetition. -/
  part : tree.isEmpty = false → ∀ place, 2 ≤ place →
    ReadsPart (place == 2) {} first (tree.written place) e next
  /-- As a branch. -/
  branch : ∃ es, ReadsParts {} first (tree.written 1) es next ∧ e = Regex.sequence es
  /-- As a whole. -/
  whole : ReadsWhole {} first (tree.written 0) e next
  /-- The text of a part is not empty and begins with no question mark. -/
  start : tree.isEmpty = false → ∀ place, 2 ≤ place → StartsPart (tree.written place)
  /-- No text begins with a question mark. -/
  head : ∀ place, (tree.written place).head? ≠ some '?'
  /-- The expression is in its simplest form. -/
  isSequence : e.IsSequence

/-- The texts of trees are read as their expressions. -/
structure WrittenAll (first : Nat) (trees : List Tree) (es : List Regex) (next : Nat) : Prop where
  /-- As the parts of a branch, unless one of them is empty. -/
  parts : (∀ tree ∈ trees, tree.isEmpty = false) →
    ReadsParts {} first (Tree.writtenParts trees) es next
  /-- As branches. -/
  branches : trees ≠ [] → ReadsBranches {} first (Tree.writtenBranches trees) es next
  /-- The text of the parts begins with no question mark. -/
  head_parts : (Tree.writtenParts trees).head? ≠ some '?'
  /-- Neither does the text of the branches. -/
  head_branches : (Tree.writtenBranches trees).head? ≠ some '?'
  /-- The expressions are in their simplest form. -/
  isSequence : ∀ e ∈ es, e.IsSequence
  /-- There are as many expressions as trees. -/
  length : es.length = trees.length
  /-- Without trees there are no groups. -/
  next_eq : trees = [] → next = first

/-- A tree that is enclosed at no place but the last is read as one part at each of them. -/
lemma Written.of_part {tree : Tree}
    (h : ∀ place, ReadsPart (decide (place ≤ 2)) {} first (tree.written place) e next)
    (hstart : ∀ place, StartsPart (tree.written place)) (he : e.IsSequence) :
    Written first tree e next where
  part _ place hplace := by
    have heq : (place == 2) = decide (place ≤ 2) :=
      decide_eq_decide.mpr ⟨fun heq => Nat.le_of_eq heq, fun hle => Nat.le_antisymm hle hplace⟩
    rw [heq]
    exact h place
  branch := ⟨[e], (h 1).parts, he.symm⟩
  whole := (h 0).whole he
  start _ place _ := hstart place
  head place := (hstart place).head?
  isSequence := he

/-- A single character or condition is enclosed at no place. -/
lemma Written.of_leaf {tree : Tree}
    (h : ∀ place, ReadsPart false {} first (tree.written place) e next)
    (hstart : ∀ place, StartsPart (tree.written place)) (he : e.IsSequence) :
    Written first tree e next :=
  .of_part (fun place => (h place).mono) hstart he

lemma startsPart_enclosed (opening : String) (text : List Char)
    (hopening : StartsPart opening.toList) : StartsPart (Tree.enclosed true opening text) := by
  rw [Tree.enclosed, if_pos rfl, List.append_assoc]
  exact hopening.append _

lemma written_concat {trees : List Tree} (h : WrittenAll first trees es next)
    (hempty : ∀ tree ∈ trees, tree.isEmpty = false) :
    Written first (.concat trees) (Regex.sequence es) next := by
  have hparts := h.parts hempty
  have hstart : ∀ place, 2 ≤ place → StartsPart (Tree.written place (.concat trees)) := by
    intro place hplace
    rw [Tree.written, decide_eq_true (show 1 < place from hplace)]
    exact startsPart_enclosed _ _ ⟨'(', _, rfl, by decide⟩
  refine ⟨fun _ place hplace => ?_, ⟨es, hparts, rfl⟩, hparts.whole, fun _ => hstart,
    fun place => ?_, Regex.isSequence_sequence es⟩
  · rw [Tree.written, decide_eq_true (show 1 < place from hplace), Tree.enclosed, if_pos rfl]
    exact hparts.whole.inGroup.mono
  · by_cases hplace : 1 < place
    · exact (hstart place hplace).head?
    · rw [Tree.written, decide_eq_false hplace, Tree.enclosed, if_neg Bool.false_ne_true]
      exact h.head_parts

lemma written_alt {trees : List Tree} (h : WrittenAll first trees es next) (hne : trees ≠ []) :
    Written first (.alt trees) (Regex.choice es) next := by
  have hbranches := h.branches hne
  have hes : es ≠ [] := by
    rintro rfl
    exact hne (List.length_eq_zero_iff.mp h.length.symm)
  have hsequence := Regex.isSequence_choice hes h.isSequence
  have hpart : ∀ place, 0 < place →
      ReadsPart false {} first (Tree.written place (.alt trees)) (Regex.choice es) next := by
    intro place hplace
    rw [Tree.written, decide_eq_true hplace, Tree.enclosed, if_pos rfl]
    exact hbranches.whole.inGroup
  have hstart : ∀ place, 0 < place → StartsPart (Tree.written place (.alt trees)) := by
    intro place hplace
    rw [Tree.written, decide_eq_true hplace]
    exact startsPart_enclosed _ _ ⟨'(', _, rfl, by decide⟩
  refine ⟨fun _ place hplace => (hpart place (by omega)).mono,
    ⟨_, (hpart 1 (by decide)).parts, hsequence.symm⟩, hbranches.whole,
    fun _ place hplace => hstart place (by omega), fun place => ?_, hsequence⟩
  by_cases hplace : 0 < place
  · exact (hstart place hplace).head?
  · rw [Tree.written, decide_eq_false hplace, Tree.enclosed, if_neg Bool.false_ne_true]
    exact h.head_branches

lemma written_group {index : Nat} {tree : Tree} (h : Written (first + 1) tree e next) :
    Written first (.group index tree) (.group first e) next := by
  have hhead : (tree.written 0 ++ [')']).head? ≠ some '?' := head?_append (h.head 0) (by simp)
  refine .of_leaf (fun place => ?_) (fun place => ?_) (Regex.isSequence_of_parts rfl)
  · rw [Tree.written, Tree.enclosed, if_pos rfl]
    exact h.whole.group isPlain_default hhead
  · rw [Tree.written]
    exact startsPart_enclosed _ _ ⟨'(', _, rfl, by decide⟩

lemma written_rep {tree : Tree} (h : Written first tree e next) (hempty : tree.isEmpty = false)
    (least : Nat) (most : Option Nat) (greedy : Bool) :
    Written first (.rep least most greedy tree) (e.repeated least most greedy) next := by
  -- what is repeated is enclosed unless it is a single part
  have hrep := (h.part hempty 3 (by decide)).rep least most greedy
  have hsequence := Regex.isSequence_repeated h.isSequence least most greedy
  refine .of_part (fun place => ?_) (fun place => ?_) hsequence
  · by_cases hplace : place ≤ 2
    · rw [Tree.written, decide_eq_true hplace, decide_eq_false (Nat.not_lt.mpr hplace),
        Tree.enclosed, if_neg Bool.false_ne_true]
      exact hrep
    · rw [Tree.written, decide_eq_true (Nat.not_le.mp hplace), Tree.enclosed, if_pos rfl]
      exact (hrep.whole hsequence).inGroup.mono
  · rw [Tree.written]
    cases decide (2 < place) with
    | true => exact startsPart_enclosed _ _ ⟨'(', _, rfl, by decide⟩
    | false =>
      rw [Tree.enclosed, if_neg Bool.false_ne_true]
      exact (h.start hempty 3 (by decide)).append _

lemma written_empty : Written first .empty .empty first where
  part h := by simp [Tree.isEmpty] at h
  branch := ⟨[], readsParts_nil, rfl⟩
  whole := readsParts_nil.whole
  start h := by simp [Tree.isEmpty] at h
  head _ := by simp [Tree.written]
  isSequence := Regex.isSequence_empty

lemma writtenAll_nil : WrittenAll first [] [] first :=
  ⟨fun _ => readsParts_nil, fun h => absurd rfl h, by simp [Tree.writtenParts],
    by simp [Tree.writtenBranches], by simp, rfl, fun _ => rfl⟩

lemma writtenAll_cons {tree : Tree} {trees : List Tree} {mid : Nat}
    (h : Written first tree e mid) (hall : WrittenAll mid trees es next) :
    WrittenAll first (tree :: trees) (e :: es) next where
  parts hempty := by
    have hpart := h.part (hempty tree List.mem_cons_self) 2 (Nat.le_refl 2)
    exact hpart.cons (hall.parts fun t ht => hempty t (List.mem_cons_of_mem _ ht)) hall.head_parts
  branches _ := by
    obtain ⟨parts, hbranch, rfl⟩ := h.branch
    cases trees with
    | nil =>
      obtain rfl := List.length_eq_zero_iff.mp hall.length
      obtain rfl := hall.next_eq rfl
      exact hbranch.branches
    | cons tree' trees => exact hbranch.bar isPlain_default (hall.branches (by simp))
  head_parts := head?_append (h.head 2) hall.head_parts
  head_branches := by
    cases trees with
    | nil => exact h.head 1
    | cons tree' trees => exact head?_append (h.head 1) (by simp)
  isSequence := by
    rintro x (_ | ⟨_, hx⟩)
    · exact h.isSequence
    · exact hall.isSequence x hx
  length := by simp [hall.length]
  next_eq := by simp

mutual

/-- What a tree denotes is what its text is read as. -/
theorem written_of_denotes {first next : Nat} {e : Regex} : (tree : Tree) →
    Denotes first tree e next → Written first tree e next
  | .empty, h => by
    obtain ⟨rfl, rfl⟩ := h
    exact written_empty
  | .any newline, h => by
    obtain ⟨rfl, rfl⟩ := h
    refine .of_leaf (readsPart_any newline _) (fun place => ?_) (Regex.isSequence_of_parts rfl)
    cases newline <;> exact ⟨_, _, rfl, by decide⟩
  | .literal c ignoreCase, h => by
    obtain ⟨rfl, rfl⟩ := h
    refine .of_leaf (readsPart_literal c ignoreCase _) (fun place => ?_)
      (isSequence_literalExpr _ c)
    cases ignoreCase with
    | true => exact startsPart_enclosed _ _ ⟨'(', _, rfl, by decide⟩
    | false => exact startsPart_quoted c
  | .assertion condition, h => by
    obtain ⟨hmem, rfl, rfl⟩ := h
    refine .of_leaf (readsPart_assertion hmem _) (fun place => ?_) (Regex.isSequence_of_parts rfl)
    simp only [writtenConditions, List.mem_cons, List.not_mem_nil, or_false] at hmem
    rcases hmem with rfl | rfl | rfl | rfl <;> exact ⟨_, _, rfl, by decide⟩
  | .chars source ignoreCase, h => by
    obtain ⟨chars, hset, rfl, rfl⟩ := h
    refine .of_leaf (readsPart_chars hset _) (fun place => ?_) (Regex.isSequence_of_parts rfl)
    cases ignoreCase with
    | true => exact startsPart_enclosed _ _ ⟨'(', _, rfl, by decide⟩
    | false => exact hset.start
  | .concat parts, h => by
    obtain ⟨es, hall, hempty, rfl⟩ := h
    exact written_concat (writtenAll_of_denotesAll parts hall) hempty
  | .alt branches, h => by
    obtain ⟨es, hall, hne, rfl⟩ := h
    exact written_alt (writtenAll_of_denotesAll branches hall) hne
  | .group index body, h => by
    obtain ⟨inner, hbody, rfl⟩ := h
    exact written_group (written_of_denotes body hbody)
  | .rep least most greedy body, h => by
    obtain ⟨inner, hbody, hempty, rfl⟩ := h
    exact written_rep (written_of_denotes body hbody) hempty least most greedy

/-- What trees denote is what their texts are read as. -/
theorem writtenAll_of_denotesAll {first next : Nat} {es : List Regex} : (trees : List Tree) →
    DenotesAll first trees es next → WrittenAll first trees es next
  | [], h => by
    obtain ⟨rfl, rfl⟩ := h
    exact writtenAll_nil
  | tree :: trees, h => by
    obtain ⟨e, mid, later, htree, hall, rfl⟩ := h
    exact writtenAll_cons (written_of_denotes tree htree) (writtenAll_of_denotesAll trees hall)

end

/-- If the text of a tree is a pattern of the linear engine, it writes what the tree denotes. -/
theorem ofPattern_written {tree : Tree} {e' : Regex} (h : Denotes 0 tree e next)
    (hread : Regex.ofPattern (tree.written 0) = .ok e') : e' = e := by
  -- the whole text is what a group would hold, with nothing after it
  have hacc : Accepts {} (tree.written 0 ++ []) e' := by
    rw [List.append_nil]
    exact ⟨_, hread⟩
  obtain ⟨current, hclose, hacc⟩ :=
    (written_of_denotes tree h).whole {} rfl rfl (by simp) rfl hacc
  obtain ⟨-, part, hpart, rfl⟩ := hacc.nil (by exact isPlain_default)
  exact hclose part hpart

end Shared

end TextExpr
