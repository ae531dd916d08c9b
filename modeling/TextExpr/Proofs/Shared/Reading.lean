import TextExpr.Proofs.Shared.LinearPattern

/-!
# Texts and the expressions they are read as

What the linear engine makes of a text wherever the text stands: as a part of a branch
(`ReadsPart`), as parts of a branch (`ReadsParts`), as branches (`ReadsBranches`) and as all that a
group holds (`ReadsWhole`), with the number of the group that comes next. Enclosing a text,
repeating it and putting it next to others leads from one to the other.
-/

namespace TextExpr

namespace Linear.Regex

/-! ## Sequences and alternatives in their simplest form -/

lemma parts_of_mem {x e : Regex} (h : x ∈ e.parts) : x.parts = [x] := by
  induction e with
  | empty => simp [parts] at h
  | seq a b iha ihb =>
    rcases List.mem_append.mp h with h | h
    · exact iha h
    · exact ihb h
  | set | look | alt | rep | group =>
    obtain rfl := List.mem_singleton.mp h
    rfl

lemma parts_joined {es : List Regex} (h : ∀ x ∈ es, x.parts = [x]) : (joined es).parts = es := by
  induction es with
  | nil => rfl
  | cons e es ih =>
    have he := h e List.mem_cons_self
    have hes := ih fun x hx => h x (List.mem_cons_of_mem _ hx)
    cases es with
    | nil => exact he
    | cons e' es =>
      rw [joined, parts, he, hes]
      · rfl
      · simp

lemma parts_sequence (es : List Regex) : (sequence es).parts = es.flatMap parts := by
  refine parts_joined fun x hx => ?_
  obtain ⟨e, -, hx⟩ := List.mem_flatMap.mp hx
  exact parts_of_mem hx

/-- The expression is the sequence of its parts. -/
def IsSequence (e : Regex) : Prop := sequence [e] = e

lemma isSequence_iff {e : Regex} : e.IsSequence ↔ joined e.parts = e := by
  simp [IsSequence, sequence]

lemma isSequence_of_parts {e : Regex} (h : e.parts = [e]) : e.IsSequence := by
  rw [isSequence_iff, h]
  rfl

lemma isSequence_sequence (es : List Regex) : (sequence es).IsSequence := by
  rw [isSequence_iff, parts_sequence]
  rfl

lemma isSequence_empty : empty.IsSequence := rfl

lemma isSequence_repeated {e : Regex} (h : e.IsSequence) (least : Nat) (most : Option Nat)
    (greedy : Bool) : (e.repeated least most greedy).IsSequence := by
  simp only [repeated]
  split
  · exact isSequence_empty
  · exact h
  · exact isSequence_of_parts rfl

lemma branches_ne_nil (e : Regex) : e.branches ≠ [] := by
  induction e with
  | alt a b iha _ => simp [branches, iha]
  | _ => simp [branches]

lemma length_le_flatMap_branches (es : List Regex) :
    es.length ≤ (es.flatMap branches).length := by
  induction es with
  | nil => simp
  | cons e es ih =>
    have := List.length_pos_iff.mpr (branches_ne_nil e)
    simp only [List.length_cons, List.flatMap_cons, List.length_append]
    omega

lemma isSequence_alternatives {es : List Regex} (h : 2 ≤ es.length) :
    (alternatives es).IsSequence := by
  match es, h with
  | e :: e' :: es, _ => exact isSequence_of_parts rfl

lemma isSequence_oneOf {es : List Regex} (h : 2 ≤ es.length) : (oneOf es).IsSequence := by
  have halternatives := isSequence_alternatives (Nat.le_trans h (length_le_flatMap_branches es))
  simp only [oneOf]
  split
  · split
    · exact isSequence_of_parts rfl
    · exact halternatives
  · exact halternatives

lemma isSequence_choice {es : List Regex} (hne : es ≠ []) (h : ∀ e ∈ es, e.IsSequence) :
    (choice es).IsSequence := by
  match es, hne with
  | [e], _ => exact h e List.mem_cons_self
  | e :: e' :: es, _ =>
    simp only [choice]
    split
    · exact isSequence_oneOf (by simp)
    · exact isSequence_sequence _

end Linear.Regex

namespace Shared

open Linear (Regex)

/-! ## Texts -/

/-- Parts as their expressions, in the order in which they are read. -/
def exprs (parts : List Linear.Part) : List Regex := (parts.map Linear.Part.expr).reverse

/-- The text is read as one part with the expression `e`, in a mode and where `first` is the number
of the next group; after it, that number is `next`. If `isOpen`, no question mark may follow. -/
def ReadsPart (isOpen : Bool) (mode : Mode) (first : Nat) (text : List Char) (e : Regex)
    (next : Nat) : Prop :=
  ∀ (state : Linear.ReadState) ⦃rest : List Char⦄ ⦃whole : Regex⦄, state.mode = mode →
    state.groupCount = first → (isOpen = true → rest.head? ≠ some '?') →
    Accepts state (text ++ rest) whole →
      ∃ depth, Accepts ({ state with groupCount := next }.push { expr := e, depth }) rest whole

/-- The text is read as parts with the expressions `es`. -/
def ReadsParts (mode : Mode) (first : Nat) (text : List Char) (es : List Regex) (next : Nat) :
    Prop :=
  ∀ (state : Linear.ReadState) ⦃rest : List Char⦄ ⦃whole : Regex⦄, state.mode = mode →
    state.groupCount = first → rest.head? ≠ some '?' → Accepts state (text ++ rest) whole →
      ∃ parts, exprs parts = es ∧ Accepts { state with
        groupCount := next
        current := { state.current with parts := parts ++ state.current.parts } } rest whole

/-- The text is read as branches with the expressions `es`. -/
def ReadsBranches (mode : Mode) (first : Nat) (text : List Char) (es : List Regex) (next : Nat) :
    Prop :=
  ∀ (state : Linear.ReadState) ⦃rest : List Char⦄ ⦃whole : Regex⦄, state.mode = mode →
    state.groupCount = first → rest.head? ≠ some '?' → state.current.parts = [] →
    Accepts state (text ++ rest) whole →
      ∃ current, (∀ part, current.close = .ok part →
          part.expr = Regex.choice (exprs state.current.earlier ++ es)) ∧
        Accepts { state with groupCount := next, current } rest whole

/-- The text is read as the expression `e` if it is all that a group holds. -/
def ReadsWhole (mode : Mode) (first : Nat) (text : List Char) (e : Regex) (next : Nat) : Prop :=
  ∀ (state : Linear.ReadState) ⦃rest : List Char⦄ ⦃whole : Regex⦄, state.mode = mode →
    state.groupCount = first → rest.head? ≠ some '?' → state.current = {} →
    Accepts state (text ++ rest) whole →
      ∃ current, (∀ part, current.close = .ok part → part.expr = e) ∧
        Accepts { state with groupCount := next, current } rest whole

variable {mode : Mode} {first next : Nat} {text : List Char} {e : Regex} {es : List Regex}

/-! ### Parts -/

lemma ReadsPart.mono {isOpen : Bool} (h : ReadsPart false mode first text e next) :
    ReadsPart isOpen mode first text e next :=
  fun state _ _ hmode hfirst _ hacc => h state hmode hfirst (by simp) hacc

lemma readsPart_atom (hmode : IsPlain mode) (a : Atom) (ha : a.expr? mode = some e) :
    ReadsPart false mode first a.text e first := by
  rintro state rest whole rfl rfl - hacc
  obtain ⟨expr, depth, hexpr, hlater⟩ := hacc.atom hmode a
  obtain rfl := Option.some.inj (ha.symm.trans hexpr)
  exact ⟨depth, hlater⟩

lemma ReadsPart.rounds (hmode : IsPlain mode) (h : ReadsPart false mode first text e next)
    (r : Rounds) :
    ReadsPart true mode first (text ++ r.text) (repeatedBy mode (some r) e) next := by
  rintro state rest whole rfl hfirst hrest hacc
  rw [List.append_assoc] at hacc
  obtain ⟨depth, hacc⟩ := h state rfl hfirst (by simp) hacc
  obtain ⟨-, hlater⟩ := hacc.repeated (by exact hmode) (some r) (hrest rfl)
  exact hlater

/-- What a group without a number holds is read as one part. -/
lemma ReadsWhole.enclosed (hmode : IsPlain mode) (f : Switches)
    (h : ReadsWhole (f.apply mode) first text e next) :
    ReadsPart false mode first ((Opening.flags f).text ++ text ++ [')']) e next := by
  rintro state rest whole rfl hfirst - hacc
  have hinner := hmode.apply f
  simp only [Opening.text, List.cons_append, List.append_assoc, List.nil_append] at hacc
  have hopen := hacc.flags hmode f (.inl rfl)
  rw [if_neg (by decide)] at hopen
  obtain ⟨current, hclose, hopen⟩ := h (Linear.openGroup state none (f.apply state.mode)) rfl hfirst
    (by simp) rfl hopen
  -- the group that is closed is the one that was opened
  obtain ⟨group, groups, part, depth, hgroups, hpart, hlater⟩ := hopen.closing (by exact hinner)
  obtain ⟨rfl, rfl⟩ := List.cons.inj hgroups
  rw [hclose part hpart] at hlater
  exact ⟨depth, hlater⟩

/-- What a capture group holds is read as one part. -/
lemma ReadsWhole.group (hmode : IsPlain mode) (htext : (text ++ [')']).head? ≠ some '?')
    (h : ReadsWhole mode (first + 1) text e next) :
    ReadsPart false mode first ('(' :: text ++ [')']) (.group first e) next := by
  rintro state rest whole rfl rfl - hacc
  rw [List.append_assoc, List.cons_append] at hacc
  have hrest : (text ++ ([')'] ++ rest)).head? ≠ some '?' := by
    cases text with
    | nil => simp
    | cons c text => exact htext
  have hopen := hacc.capture hmode hrest
  obtain ⟨current, hclose, hopen⟩ := h (Linear.openCapture state) rfl rfl (by simp) rfl hopen
  obtain ⟨group, groups, part, depth, hgroups, hpart, hlater⟩ := hopen.closing (by exact hmode)
  obtain ⟨rfl, rfl⟩ := List.cons.inj hgroups
  rw [hclose part hpart] at hlater
  exact ⟨depth, hlater⟩

/-! ### Branches -/

lemma exprs_cons (part : Linear.Part) (parts : List Linear.Part) :
    exprs (part :: parts) = exprs parts ++ [part.expr] := by
  simp [exprs]

lemma readsParts_nil : ReadsParts mode first [] [] first := by
  rintro state rest whole - rfl - hacc
  exact ⟨[], rfl, hacc⟩

lemma ReadsPart.cons {isOpen : Bool} {mid : Nat} {later : List Char}
    (h : ReadsPart isOpen mode first text e mid) (hlater : ReadsParts mode mid later es next)
    (hhead : later.head? ≠ some '?') :
    ReadsParts mode first (text ++ later) (e :: es) next := by
  rintro state rest whole hmode hfirst hrest hacc
  rw [List.append_assoc] at hacc
  have hhead' : (later ++ rest).head? ≠ some '?' := by
    cases later with
    | nil => exact hrest
    | cons c later => exact hhead
  obtain ⟨depth, hacc⟩ := h state hmode hfirst (fun _ => hhead') hacc
  obtain ⟨parts, rfl, hacc⟩ := hlater _ (by exact hmode) rfl hrest hacc
  refine ⟨parts ++ [{ expr := e, depth }], by simp [exprs], ?_⟩
  rw [List.append_assoc, List.singleton_append]
  exact hacc

/-- A text that is read as parts of a branch is read as that branch. -/
lemma branch_expr {branches : Linear.Branches} {part : Linear.Part}
    (h : branches.branch = .ok part) : part.expr = Regex.sequence (exprs branches.parts) := by
  rw [Linear.Branches.branch, Linear.Part.join] at h
  rw [eq_of_checked h, exprs, List.map_reverse]

lemma close_expr {branches : Linear.Branches} {part : Linear.Part}
    (h : branches.close = .ok part) : part.expr =
      Regex.choice (exprs branches.earlier ++ [Regex.sequence (exprs branches.parts)]) := by
  rw [Linear.Branches.close] at h
  obtain ⟨branch, hbranch, h⟩ := bind_eq_ok.mp h
  rw [Linear.Part.join] at h
  rw [eq_of_checked h, ← branch_expr hbranch, List.map_reverse, ← exprs_cons, exprs]

/-- The last of several branches. -/
lemma ReadsParts.branches (h : ReadsParts mode first text es next) :
    ReadsBranches mode first text [Regex.sequence es] next := by
  rintro state rest whole hmode hfirst hrest hparts hacc
  obtain ⟨parts, rfl, hacc⟩ := h state hmode hfirst hrest hacc
  refine ⟨_, fun part hpart => ?_, hacc⟩
  rw [close_expr hpart, hparts, List.append_nil]

/-- A branch with others after it. -/
lemma ReadsParts.bar (hmode : IsPlain mode) {mid : Nat} {later : List Char} {later_es : List Regex}
    (h : ReadsParts mode first text es mid)
    (hlater : ReadsBranches mode mid later later_es next) :
    ReadsBranches mode first (text ++ '|' :: later) (Regex.sequence es :: later_es) next := by
  rintro state rest whole rfl hfirst hrest hparts hacc
  rw [List.append_assoc, List.cons_append] at hacc
  obtain ⟨parts, rfl, hacc⟩ := h state rfl hfirst (by simp) hacc
  obtain ⟨part, hpart, hacc⟩ := hacc.bar (by exact hmode)
  -- the branches after the bar are read where this one is the last of the earlier ones
  obtain ⟨current, hclose, hacc⟩ := hlater
    { state with groupCount := mid, current := ⟨[], part :: state.current.earlier⟩ }
    rfl rfl hrest rfl hacc
  refine ⟨current, fun whole hwhole => ?_, hacc⟩
  rw [hclose whole hwhole, exprs_cons, branch_expr hpart, hparts, List.append_nil,
    List.append_assoc, List.singleton_append]

lemma ReadsBranches.whole (h : ReadsBranches mode first text es next) :
    ReadsWhole mode first text (Regex.choice es) next := by
  rintro state rest whole hmode hfirst hrest hcurrent hacc
  obtain ⟨current, hclose, hacc⟩ := h state hmode hfirst hrest (by rw [hcurrent]) hacc
  refine ⟨current, fun part hpart => ?_, hacc⟩
  rw [hclose part hpart, hcurrent]
  rfl

end Shared

end TextExpr
