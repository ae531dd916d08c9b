import TextExpr.Proofs.Shared.BacktrackPattern
import TextExpr.Proofs.Shared.Written

/-!
# The two readers agree on the shared syntax

The two engines read a pattern of the shared syntax side by side. `Agrees` relates their states:
the trees of the one stand for the expressions of the other. Each item keeps it (`agrees_item`), so
the tree of a whole pattern stands for its expression (`denotes_of_agrees`).
-/

namespace TextExpr

namespace Shared

open Linear (Regex)
open Backtrack (Tree)

variable {first mid next : Nat} {mode : Mode} {e : Regex} {es : List Regex} {tree : Tree}
  {trees : List Tree}

/-! ## Parts -/

lemma DenotesAll.concat {first : Nat} : (trees : List Tree) → {es : List Regex} →
    DenotesAll first trees es mid → Denotes mid tree e next →
      DenotesAll first (trees ++ [tree]) (es ++ [e]) next
  | [], _, hall, htree => by
    obtain ⟨rfl, rfl⟩ := hall
    exact ⟨e, next, [], htree, ⟨rfl, rfl⟩, rfl⟩
  | _ :: trees, _, hall, htree => by
    obtain ⟨e', mid', later, htree', hall, rfl⟩ := hall
    exact ⟨e', mid', later ++ [e], htree', DenotesAll.concat trees hall htree, rfl⟩

lemma Denotes.repeatedBy (h : Denotes first tree e next) (rounds : Option Rounds)
    (hrepeatable : rounds.isSome = true → tree.isRepeatable = true) :
    Denotes first (treeRepeatedBy mode rounds tree) (repeatedBy mode rounds e) next := by
  cases rounds with
  | none => exact h
  | some r =>
    refine ⟨e, h, ?_, rfl⟩
    have := hrepeatable rfl
    cases tree <;> first | rfl | simp [Tree.isRepeatable] at this

/-- An escape for a set is kept as it is written. -/
lemma writesSet_escape (s : SetEscape) {ignoreCase : Bool} {chars : CharSet}
    (h : s.chars? ignoreCase = some chars) : WritesSet ('\\' :: s.text) ignoreCase chars where
  part _ := readsPart_atom (isPlain_ofCase ignoreCase) (.set s) (congrArg (Option.map _) h)
  start := ⟨'\\', s.text, rfl, by decide⟩

/-- A class is kept as one for the same characters. -/
lemma writesSet_class (b : CharClass) {ignoreCase : Bool} {chars : CharSet}
    (h : b.chars? ignoreCase = some chars) :
    WritesSet ('[' :: b.rewritten.text ++ [']']) ignoreCase chars where
  part _ := by
    refine readsPart_atom (isPlain_ofCase ignoreCase) (.charClass b.rewritten) ?_
    rw [Atom.expr?]
    exact congrArg (Option.map _) ((b.chars?_rewritten ignoreCase).trans h)
  start := ⟨'[', _, rfl, by decide⟩

/-- A character without another case is the same expression whether case is ignored or not. -/
lemma literalExpr_escape (escape : CharEscape)
    (hfits : mode.ignoreCase = true → escape.HasOneCase) {c : Char} (hc : escape.char? = some c) :
    Linear.literalExpr (ofCase mode.ignoreCase) c =
      Linear.literalExpr (ofCase (escape.isNumber && mode.ignoreCase)) c := by
  cases hcase : mode.ignoreCase with
  | false => rw [Bool.and_false]
  | true =>
    have hone := hfits hcase
    -- the two sides differ on escapes that are no numbers, which is why these have one case
    cases escape with
    | code | braced => rfl
    | mark c' h =>
      obtain rfl := Option.some.inj hc
      exact congrArg Regex.set hone
    | control letter c' h =>
      obtain rfl := Option.some.inj hc
      exact congrArg Regex.set hone

/-- The tree of a part stands for its expression. -/
lemma denotes_atom (a : Atom) (hfits : a.Fits mode) (he : a.expr? mode = some e)
    (htree : a.tree? mode = some tree) : Denotes first tree e first := by
  cases a with
  | plain c hc =>
    obtain rfl := Option.some.inj he
    obtain rfl := Option.some.inj htree
    exact ⟨rfl, rfl⟩
  | escaped escape =>
    obtain ⟨c, hc, rfl⟩ := Option.map_eq_some_iff.mp he
    rw [Atom.tree?, hc] at htree
    obtain rfl := Option.some.inj htree
    exact ⟨literalExpr_escape escape hfits hc, rfl⟩
  | set escape =>
    obtain ⟨chars, hset, rfl⟩ := Option.map_eq_some_iff.mp he
    obtain rfl := Option.some.inj htree
    exact ⟨chars, writesSet_escape escape hset, rfl, rfl⟩
  | charClass b =>
    obtain ⟨chars, hset, rfl⟩ := Option.map_eq_some_iff.mp he
    obtain rfl := Option.some.inj htree
    exact ⟨chars, writesSet_class b hset, rfl, rfl⟩
  | dot =>
    obtain rfl := Option.some.inj he
    obtain rfl := Option.some.inj htree
    exact ⟨rfl, rfl⟩
  | caret =>
    obtain rfl := Option.some.inj he
    obtain rfl := Option.some.inj htree
    refine ⟨?_, rfl, rfl⟩
    cases mode.multiline <;> decide
  | dollar =>
    obtain rfl := Option.some.inj he
    obtain rfl := Option.some.inj htree
    refine ⟨?_, rfl, rfl⟩
    cases mode.multiline <;> decide
  | textStart | textEnd =>
    obtain rfl := Option.some.inj he
    obtain rfl := Option.some.inj htree
    exact ⟨by decide, rfl, rfl⟩

/-! ## Branches -/

/-- What has been read of a group: the trees stand for the expressions, where `first` is the number
of the first group in it and `next` the number of the next one. Empty trees are left out. -/
structure BranchesDenote (first : Nat) (left : Linear.Branches) (right : Backtrack.Branches)
    (next : Nat) : Prop where
  /-- The branches before the last one, and the parts of that one. -/
  exists_mid : ∃ mid es, DenotesAll first right.earlier.reverse (exprs left.earlier) mid ∧
    DenotesAll mid right.parts.reverse es next ∧
    (exprs left.parts).flatMap Regex.parts = es.flatMap Regex.parts
  /-- No part is empty. -/
  nonempty : ∀ part ∈ right.parts, part.isEmpty = false

variable {left : Linear.Branches} {right : Backtrack.Branches}

namespace BranchesDenote

lemma empty : BranchesDenote first {} {} first :=
  ⟨⟨first, [], ⟨rfl, rfl⟩, ⟨rfl, rfl⟩, rfl⟩, by simp⟩

/-- Inline flags are a part of the one side only, which matches the empty text. -/
lemma pushEmpty (h : BranchesDenote first left right next) (part : Linear.Part)
    (hpart : part.expr = .empty) : BranchesDenote first (left.push part) right next := by
  obtain ⟨⟨mid, es, hearlier, hparts, heq⟩, hnonempty⟩ := h
  refine ⟨⟨mid, es, hearlier, hparts, ?_⟩, hnonempty⟩
  rw [← heq]
  simp [Linear.Branches.push, exprs_cons, hpart, Regex.parts]

lemma push (h : BranchesDenote first left right mid) (htree : Denotes mid tree e next)
    (depth : Nat) :
    BranchesDenote first (left.push { expr := e, depth }) (right.push tree) next := by
  cases hempty : tree.isEmpty with
  | true =>
    have hright : right.push tree = right := by simp [Backtrack.Branches.push, hempty]
    have hcase : tree = .empty := by cases tree <;> simp [Tree.isEmpty] at hempty ⊢
    subst hcase
    obtain ⟨rfl, rfl⟩ := htree
    rw [hright]
    exact h.pushEmpty _ rfl
  | false =>
    obtain ⟨⟨mid', es, hearlier, hparts, heq⟩, hnonempty⟩ := h
    have hright : right.push tree = { right with parts := tree :: right.parts } := by
      simp [Backtrack.Branches.push, hempty]
    rw [hright]
    refine ⟨⟨mid', es ++ [e], hearlier, ?_, ?_⟩, ?_⟩
    · rw [List.reverse_cons]
      exact hparts.concat _ htree
    · simp [Linear.Branches.push, exprs_cons, heq]
    · rintro part (_ | ⟨_, hmem⟩)
      · exact hempty
      · exact hnonempty part hmem

lemma branch (h : BranchesDenote first left right next) {part : Linear.Part}
    (hpart : left.branch = .ok part) :
    ∃ mid, DenotesAll first right.earlier.reverse (exprs left.earlier) mid ∧
      Denotes mid right.branch part.expr next := by
  obtain ⟨⟨mid, es, hearlier, hparts, heq⟩, hnonempty⟩ := h
  refine ⟨mid, hearlier, ?_⟩
  have hexpr : part.expr = Regex.sequence es := by
    rw [branch_expr hpart, Regex.sequence, heq, Regex.sequence]
  rw [hexpr, Backtrack.Branches.branch]
  split
  · next hright =>
    rw [hright] at hparts
    obtain ⟨rfl, rfl⟩ := hparts
    exact ⟨rfl, rfl⟩
  · next part hright =>
    rw [hright] at hparts
    obtain ⟨e, _, _, htree, ⟨rfl, rfl⟩, rfl⟩ := hparts
    rw [(written_of_denotes part htree).isSequence]
    exact htree
  · next parts =>
    refine ⟨es, hparts, fun part hmem => hnonempty part ?_, rfl⟩
    simpa using hmem

lemma bar (h : BranchesDenote first left right next) {part : Linear.Part}
    (hpart : left.branch = .ok part) :
    BranchesDenote first ⟨[], part :: left.earlier⟩ right.next next := by
  obtain ⟨mid, hearlier, hbranch⟩ := h.branch hpart
  refine ⟨⟨next, [], ?_, ⟨rfl, rfl⟩, rfl⟩, by simp [Backtrack.Branches.next]⟩
  rw [exprs_cons, Backtrack.Branches.next, List.reverse_cons]
  exact hearlier.concat _ hbranch

lemma close (h : BranchesDenote first left right next) {part : Linear.Part}
    (hpart : left.close = .ok part) : Denotes first right.close part.expr next := by
  obtain ⟨branch, hbranch, -⟩ := bind_eq_ok.mp hpart
  obtain ⟨mid, hearlier, htree⟩ := h.branch hbranch
  rw [close_expr hpart, ← branch_expr hbranch, Backtrack.Branches.close]
  split
  · next hright =>
    rw [hright] at hearlier
    obtain ⟨hleft, rfl⟩ := hearlier
    rw [hleft]
    exact htree
  · next hright =>
    refine ⟨_, ?_, by simp, rfl⟩
    rw [List.reverse_cons]
    exact hearlier.concat _ htree

end BranchesDenote

/-! ## Open groups -/

/-- The open groups around a place, from the innermost outwards: what has been read before each of
them denotes. `first` is the number of the first group in the innermost one. -/
inductive GroupsDenote : Nat → List Linear.OpenGroup → List Backtrack.OpenGroup →
    List (Bool × Mode) → Prop where
  /-- No group is open. -/
  | nil : GroupsDenote 0 [] [] []
  /-- A capture group. Only one side keeps the mode outside of it. -/
  | capture {outer : Mode} {first index : Nat} {left : Linear.Branches}
      {right : Backtrack.Branches} {lefts : List Linear.OpenGroup}
      {rights : List Backtrack.OpenGroup} {groups : List (Bool × Mode)}
      (hbranches : BranchesDenote first left right index)
      (hgroups : GroupsDenote first lefts rights groups) :
      GroupsDenote (index + 1) (⟨some index, outer, left⟩ :: lefts)
        (⟨.capture (index + 1), right⟩ :: rights) ((true, outer) :: groups)
  /-- A group for the sake of flags. -/
  | flags {outer : Mode} {first next : Nat} {left : Linear.Branches}
      {right : Backtrack.Branches} {lefts : List Linear.OpenGroup}
      {rights : List Backtrack.OpenGroup} {groups : List (Bool × Mode)}
      (hbranches : BranchesDenote first left right next) (houter : IsPlain outer)
      (hgroups : GroupsDenote first lefts rights groups) :
      GroupsDenote next (⟨none, outer, left⟩ :: lefts)
        (⟨.flags outer, right⟩ :: rights) ((false, outer) :: groups)

/-! ## States -/

/-- The readers have come to the same place, and what they have read denotes the same. -/
structure Agrees (left : Linear.ReadState) (right : Backtrack.ReadState)
    (groups : List (Bool × Mode)) : Prop where
  /-- The mode is one of the shared syntax. -/
  plain : IsPlain left.mode
  /-- It is the same. -/
  mode : right.mode = left.mode
  /-- As many groups have been opened. -/
  groupCount : right.groupCount = left.groupCount
  /-- There are no references by number. -/
  hasNumbered : right.hasNumbered = false
  /-- There are no references at all. -/
  references : right.references = []
  /-- What has been read denotes. -/
  denotes : ∃ first, GroupsDenote first left.groups right.groups groups ∧
    BranchesDenote first left.current right.current left.groupCount

namespace Agrees

variable {left : Linear.ReadState} {right : Backtrack.ReadState} {groups : List (Bool × Mode)}
  {rest : List Char} {whole : Regex} {parsed : Backtrack.Parsed}

lemma start (length : Nat) : Agrees {} { length } [] where
  plain := isPlain_default
  mode := rfl
  groupCount := rfl
  hasNumbered := rfl
  references := rfl
  denotes := ⟨0, .nil, .empty⟩

/-- One more part on both sides. -/
lemma push (h : Agrees left right groups) (htree : Denotes left.groupCount tree e left.groupCount)
    (depth : Nat) : Agrees (left.push { expr := e, depth }) (pushTree right tree) groups := by
  obtain ⟨first, hgroups, hbranches⟩ := h.denotes
  exact ⟨h.plain, h.mode, h.groupCount, h.hasNumbered, h.references,
    ⟨first, hgroups, hbranches.push htree depth⟩⟩

lemma atom (h : Agrees left right groups) (a : Atom) (rounds : Option Rounds)
    (hfits : a.Fits left.mode) (hrest : Follows rest)
    (hleft : Accepts left (a.text ++ (roundsText rounds ++ rest)) whole)
    (hright : Parses right (a.text ++ (roundsText rounds ++ rest)) parsed) :
    ∃ left' right', Agrees left' right' groups ∧ left'.mode = left.mode ∧
      Accepts left' rest whole ∧ Parses right' rest parsed := by
  -- that the counts are not too great is known from the one side and needed on the other
  obtain ⟨expr, depth, hexpr, hleft⟩ := hleft.atom h.plain a
  obtain ⟨hbelow, depth, hleft⟩ := hleft.repeated h.plain rounds hrest.ne_question
  obtain ⟨tree, htree, hrepeatable, hright⟩ :=
    hright.atom (h.mode ▸ h.plain) a rounds hbelow hrest
  rw [h.mode] at htree hright
  have hatom : Denotes left.groupCount tree expr left.groupCount :=
    denotes_atom a hfits hexpr htree
  exact ⟨_, _, h.push (hatom.repeatedBy rounds hrepeatable) depth, rfl, hleft, hright⟩

/-- A capture group is opened on both sides, whatever the names are. -/
lemma openCapture (h : Agrees left right groups) (lefts : List (List Char))
    (rights : List (List Char × Nat)) :
    Agrees (Linear.openCapture { left with names := lefts })
      (Backtrack.openCapture { right with names := rights }) ((true, left.mode) :: groups) := by
  obtain ⟨first, hgroups, hbranches⟩ := h.denotes
  refine ⟨h.plain, h.mode, congrArg (· + 1) h.groupCount, h.hasNumbered, h.references,
    left.groupCount + 1, ?_, .empty⟩
  have hcapture := @GroupsDenote.capture left.mode _ _ _ _ _ _ _ hbranches hgroups
  rw [← h.groupCount] at hcapture ⊢
  exact hcapture

/-- A group for the sake of flags is opened on both sides. -/
lemma openFlags (h : Agrees left right groups) (f : Switches) :
    Agrees (Linear.openGroup left none (f.apply left.mode))
      (Backtrack.openGroup { right with mode := f.apply right.mode } (.flags right.mode))
      ((false, left.mode) :: groups) := by
  obtain ⟨first, hgroups, hbranches⟩ := h.denotes
  rw [h.mode]
  exact ⟨h.plain.apply f, rfl, h.groupCount, h.hasNumbered, h.references,
    left.groupCount, .flags hbranches h.plain hgroups, .empty⟩

lemma opening (h : Agrees left right groups) (o : Opening) (hrest : Follows rest)
    (hleft : Accepts left (o.text ++ rest) whole)
    (hright : Parses right (o.text ++ rest) parsed) :
    ∃ left' right', Agrees left' right' ((o.isCapture, left.mode) :: groups) ∧
      left'.mode = o.inner left.mode ∧ Accepts left' rest whole ∧ Parses right' rest parsed := by
  have hplain : IsPlain right.mode := h.mode ▸ h.plain
  cases o with
  | capture =>
    exact ⟨_, _, h.openCapture left.names right.names, rfl,
      hleft.capture h.plain hrest.ne_question, hright.capture hplain hrest⟩
  | named long name hname hfirst =>
    obtain ⟨lefts, hleft⟩ := hleft.named h.plain hname hfirst
    obtain ⟨rights, hright⟩ := hright.named hplain hname hfirst
    exact ⟨_, _, h.openCapture lefts rights, rfl, hleft, hright⟩
  | flags f =>
    have hopen := hright.openFlags hplain f
    simp only [Opening.text, List.cons_append, List.append_assoc, List.nil_append] at hleft
    exact ⟨_, _, h.openFlags f, rfl, hleft.flags h.plain f (.inl rfl), hopen⟩

/-- The innermost group is closed on both sides, with the repetition that may follow it. -/
lemma closing (h : Agrees left right groups) (rounds : Option Rounds) {items : List Item}
    (hfits : Fits left.mode groups (.closing rounds :: items))
    (hleft : Accepts left (')' :: (roundsText rounds ++ text items)) whole)
    (hright : Parses right (')' :: (roundsText rounds ++ text items)) parsed) :
    ∃ later left' right', Agrees left' right' later ∧ Fits left'.mode later items ∧
      Accepts left' (text items) whole ∧ Parses right' (text items) parsed := by
  have hplain : IsPlain right.mode := h.mode ▸ h.plain
  have hrest := follows_text items
  obtain ⟨first, hgroups, hbranches⟩ := h.denotes
  obtain ⟨group, lefts, part, depth, heq, hpart, hleft⟩ := hleft.closing h.plain
  have hbody := hbranches.close hpart
  rw [heq] at hgroups
  cases hrights : right.groups with
  | nil =>
    rw [hrights] at hgroups
    cases hgroups
  | cons group' rights =>
    rw [hrights] at hgroups
    cases hgroups with
    | @capture outer _ index _ _ _ _ later houtside hgroups =>
      -- the one side returns to the mode outside of the group, the other keeps that in it
      obtain ⟨hmode, hfits⟩ := hfits
      obtain rfl : left.mode = outer := hmode rfl
      obtain ⟨hbelow, depth, hleft⟩ :=
        hleft.repeated (by exact h.plain) rounds hrest.ne_question
      have hclosed := hright.closing_capture hplain h.hasNumbered hrights rounds hbelow hrest
      rw [h.mode] at hclosed
      have htree : Denotes index (.group (index + 1) right.current.close)
          (.group index part.expr) left.groupCount := ⟨part.expr, hbody, rfl⟩
      refine ⟨later, _, _, ?_, ?_, hleft, hclosed⟩
      · exact ⟨h.plain, rfl, h.groupCount, h.hasNumbered, h.references, _, hgroups,
          houtside.push (htree.repeatedBy rounds (fun _ => rfl)) depth⟩
      · exact hfits
    | @flags outer _ _ _ _ _ _ later houtside houter hgroups =>
      obtain ⟨-, hfits⟩ := hfits
      obtain ⟨hbelow, depth, hleft⟩ :=
        hleft.repeated (by exact houter) rounds hrest.ne_question
      obtain ⟨hrepeatable, hclosed⟩ :=
        hright.closing_flags hplain h.hasNumbered houter hrights rounds hbelow hrest
      refine ⟨later, _, _, ?_, ?_, hleft, hclosed⟩
      · exact ⟨houter, rfl, h.groupCount, h.hasNumbered, h.references, _, hgroups,
          houtside.push (hbody.repeatedBy rounds hrepeatable) depth⟩
      · exact hfits

/-- Another branch is begun on both sides. -/
lemma bar (h : Agrees left right groups) (hleft : Accepts left ('|' :: rest) whole)
    (hright : Parses right ('|' :: rest) parsed) :
    ∃ left' right', Agrees left' right' groups ∧ left'.mode = left.mode ∧
      Accepts left' rest whole ∧ Parses right' rest parsed := by
  have hplain : IsPlain right.mode := h.mode ▸ h.plain
  obtain ⟨first, hgroups, hbranches⟩ := h.denotes
  obtain ⟨part, hpart, hleft⟩ := hleft.bar h.plain
  refine ⟨_, _, ?_, ?_, hleft, hright.bar hplain⟩
  · exact ⟨h.plain, h.mode, h.groupCount, h.hasNumbered, h.references, first, hgroups,
      hbranches.bar hpart⟩
  · rfl

/-- Flags are switched on both sides. -/
lemma switch (h : Agrees left right groups) (f : Switches) (hrest : Follows rest)
    (hleft : Accepts left ((Item.switch f).text ++ rest) whole)
    (hright : Parses right ((Item.switch f).text ++ rest) parsed) :
    ∃ left' right', Agrees left' right' groups ∧ left'.mode = f.apply left.mode ∧
      Accepts left' rest whole ∧ Parses right' rest parsed := by
  have hplain : IsPlain right.mode := h.mode ▸ h.plain
  obtain ⟨first, hgroups, hbranches⟩ := h.denotes
  have hswitched := hright.switch hplain f hrest
  rw [h.mode] at hswitched
  simp only [Item.text, List.cons_append, List.append_assoc, List.nil_append] at hleft
  have hflags := hleft.flags h.plain f (.inr rfl)
  rw [if_pos rfl] at hflags
  refine ⟨_, _, ?_, ?_, hflags, hswitched⟩
  · exact ⟨h.plain.apply f, rfl, h.groupCount, h.hasNumbered, h.references, first,
      hgroups, hbranches.pushEmpty _ rfl⟩
  · rfl

end Agrees

/-! ## Patterns -/

variable {left : Linear.ReadState} {right : Backtrack.ReadState} {groups : List (Bool × Mode)}
  {whole : Regex} {parsed : Backtrack.Parsed}

/-- Each item is read on both sides. -/
lemma agrees_item {item : Item} {items : List Item} (h : Agrees left right groups)
    (hfits : Fits left.mode groups (item :: items))
    (hleft : Accepts left (text (item :: items)) whole)
    (hright : Parses right (text (item :: items)) parsed) :
    ∃ left' right' groups', Agrees left' right' groups' ∧ Fits left'.mode groups' items ∧
      Accepts left' (text items) whole ∧ Parses right' (text items) parsed := by
  have hrest := follows_text items
  have htext : text (item :: items) = item.text ++ text items := List.flatMap_cons
  rw [htext] at hleft hright
  cases item with
  | atom part rounds =>
    rw [Item.text, List.append_assoc] at hleft hright
    obtain ⟨left', right', hagrees, hmode, hleft, hright⟩ :=
      h.atom part rounds hfits.1 hrest hleft hright
    exact ⟨left', right', groups, hagrees, hmode ▸ hfits.2, hleft, hright⟩
  | opening o =>
    obtain ⟨left', right', hagrees, hmode, hleft, hright⟩ := h.opening o hrest hleft hright
    exact ⟨left', right', _, hagrees, hmode ▸ hfits, hleft, hright⟩
  | closing rounds =>
    obtain ⟨later, left', right', hagrees, hfits, hleft, hright⟩ :=
      h.closing rounds hfits hleft hright
    exact ⟨left', right', later, hagrees, hfits, hleft, hright⟩
  | bar =>
    obtain ⟨left', right', hagrees, hmode, hleft, hright⟩ := h.bar hleft hright
    exact ⟨left', right', groups, hagrees, hmode ▸ hfits, hleft, hright⟩
  | switch f =>
    obtain ⟨left', right', hagrees, hmode, hleft, hright⟩ :=
      h.switch f hrest hleft hright
    exact ⟨left', right', groups, hagrees, hmode ▸ hfits, hleft, hright⟩

/-- If both sides read the rest of a pattern, the tree stands for the expression. -/
lemma denotes_of_agrees (items : List Item) (h : Agrees left right groups)
    (hfits : Fits left.mode groups items) (hleft : Accepts left (text items) whole)
    (hright : Parses right (text items) parsed) :
    parsed.references = [] ∧ ∃ next, Denotes 0 parsed.tree whole next := by
  -- the states that agree are carried along; at the end no group is open on either side
  induction items generalizing left right groups with
  | nil =>
    obtain ⟨hgroups, part, hpart, rfl⟩ := hleft.nil h.plain
    obtain ⟨hgroups', tree, htree, rfl⟩ := hright.nil
    rw [Parses.closeBranches_eq h.hasNumbered] at htree
    obtain rfl := Except.ok.inj htree
    obtain ⟨first, hall, hbranches⟩ := h.denotes
    rw [hgroups, hgroups'] at hall
    cases hall
    exact ⟨h.references, _, hbranches.close hpart⟩
  | cons item items ih =>
    obtain ⟨left', right', groups', hagrees, hfits, hleft, hright⟩ :=
      agrees_item h hfits hleft hright
    exact ih hagrees hfits hleft hright

end Shared

end TextExpr
