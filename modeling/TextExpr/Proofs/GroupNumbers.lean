import TextExpr.Proofs.TreePlan

/-!
# The numbers of groups

Groups are numbered as their parentheses are opened, so a group has a greater number than those
that are open around it. `ReadState.Numbered` says so of a pattern that has been read in part;
every reader keeps it, and a whole pattern ends with a numbered tree (`numbered_ofPattern`).
-/

namespace TextExpr

namespace Backtrack

/-! ## The state of reading -/

/-- The groups of all that has been read since a group was opened are numbered. -/
structure Branches.Numbered (least : Nat) (branches : Branches) : Prop where
  /-- The parts of the branch at the end. -/
  parts : ∀ part ∈ branches.parts, part.Numbered least
  /-- The branches before it. -/
  earlier : ∀ branch ∈ branches.earlier, branch.Numbered least

namespace Branches.Numbered

variable {least : Nat} {branches : Branches}

lemma empty : Branches.Numbered least {} := ⟨by simp, by simp⟩

lemma push (h : branches.Numbered least) {part : Tree} (hpart : part.Numbered least) :
    (branches.push part).Numbered least := by
  unfold Branches.push
  split
  · exact h
  · refine ⟨fun part' hmem => ?_, h.earlier⟩
    rcases List.mem_cons.mp hmem with rfl | hmem
    · exact hpart
    · exact h.parts part' hmem

lemma branch (h : branches.Numbered least) : branches.branch.Numbered least := by
  have hparts := h.parts
  unfold Branches.branch
  split
  · trivial
  · next part heq => exact hparts part (heq ▸ List.mem_singleton_self part)
  · refine Tree.numberedAll_iff.mpr fun part hmem => ?_
    exact hparts part (List.mem_reverse.mp hmem)

lemma next (h : branches.Numbered least) : branches.next.Numbered least := by
  refine ⟨fun part hmem => absurd hmem List.not_mem_nil, fun branch hmem => ?_⟩
  rcases List.mem_cons.mp hmem with rfl | hmem
  · exact h.branch
  · exact h.earlier branch hmem

lemma close (h : branches.Numbered least) : branches.close.Numbered least := by
  unfold Branches.close
  split
  · exact h.branch
  · refine Tree.numberedAll_iff.mpr fun branch hmem => ?_
    rcases List.mem_cons.mp (List.mem_reverse.mp hmem) with rfl | hmem
    · exact h.branch
    · exact h.earlier branch hmem

end Branches.Numbered

/-- The number of the innermost open capture group; 0 for the whole pattern. -/
def innermost : List OpenGroup → Nat
  | [] => 0
  | ⟨.capture index, _⟩ :: _ => index
  | _ :: groups => innermost groups

/-- What an open parenthesis has opened fits into a capture group. -/
def Opening.Numbered (least : Nat) : Opening → Prop
  | .capture index => least < index
  | .branches tree _ => tree.Numbered least
  | _ => True

/-- All that was read before and around the open groups is numbered. -/
def Stacked : List OpenGroup → Prop
  | [] => True
  | group :: groups =>
    group.opening.Numbered (innermost groups) ∧ group.outside.Numbered (innermost groups) ∧
      Stacked groups

/-- What has been read is numbered. -/
structure ReadState.Numbered (state : ReadState) : Prop where
  /-- What has been read since the innermost open group. -/
  current : state.current.Numbered (innermost state.groups)
  /-- What has been read before it. -/
  groups : Stacked state.groups
  /-- The open capture groups have been counted. -/
  count : innermost state.groups ≤ state.groupCount

namespace ReadState.Numbered

variable {state : ReadState}

lemma push (h : state.Numbered) {part : Tree} (hpart : part.Numbered (innermost state.groups)) :
    { state with current := state.current.push part }.Numbered :=
  ⟨h.current.push hpart, h.groups, h.count⟩

lemma openGroup (h : state.Numbered) {opening : Opening}
    (hopening : opening.Numbered (innermost state.groups))
    (hcapture : ∀ index, opening ≠ .capture index) :
    (openGroup state opening).Numbered := by
  have hinner : innermost (⟨opening, state.current⟩ :: state.groups) = innermost state.groups := by
    cases opening with
    | capture index => exact absurd rfl (hcapture index)
    | _ => rfl
  refine ⟨.empty, ⟨hopening, h.current, h.groups⟩, ?_⟩
  rw [Backtrack.openGroup, hinner]
  exact h.count

lemma openCapture (h : state.Numbered) : (openCapture state).Numbered where
  current := .empty
  groups := ⟨show innermost state.groups < state.groupCount + 1 from Nat.lt_succ_of_le h.count,
    h.current, h.groups⟩
  count := Nat.le_refl _

end ReadState.Numbered

/-- The states agree on the groups and on what has been read. -/
structure ReadState.Alike (state state' : ReadState) : Prop where
  /-- As many groups have been opened. -/
  groupCount : state'.groupCount = state.groupCount
  /-- As much has been read since the innermost open group. -/
  current : state'.current = state.current
  /-- The open groups are the same. -/
  groups : state'.groups = state.groups

lemma ReadState.Alike.numbered {state state' : ReadState} (h : state.Alike state')
    (hstate : state.Numbered) : state'.Numbered := by
  refine ⟨?_, ?_, ?_⟩
  · rw [h.current, h.groups]
    exact hstate.current
  · rw [h.groups]
    exact hstate.groups
  · rw [h.groups, h.groupCount]
    exact hstate.count

/-! ## Readers -/

variable {state state' : ReadState} {rest rest' : List Char}

/-- A group is opened that is none to capture. -/
lemma numbered_opened {opening : Opening}
    (h : (pure (openGroup state opening, rest) : Step) = .ok (state', rest'))
    (hstate : state.Numbered) (hopening : opening.Numbered (innermost state.groups))
    (hcapture : ∀ index, opening ≠ .capture index) : state'.Numbered := by
  obtain ⟨rfl, -⟩ := Prod.mk.inj (pure_eq_ok.mp h)
  exact hstate.openGroup hopening hcapture

/-- A part that has been read is added, perhaps as a repetition. -/
theorem numbered_finish {part : Tree} (h : finish state part rest = .ok (state', rest'))
    (hstate : state.Numbered) (hpart : part.Numbered (innermost state.groups)) :
    state'.Numbered := by
  unfold finish at h
  simp only [bind_eq_ok] at h
  obtain ⟨left, -, h⟩ := h
  split at h
  · obtain ⟨rfl, -⟩ := Prod.mk.inj (pure_eq_ok.mp h)
    exact hstate.push hpart
  · next least most left' hrounds =>
    split at h
    · exact (throw_bind_eq_ok.mp h).elim
    · simp only [bind_eq_ok, pure_eq_ok] at h
      obtain ⟨_, -, h⟩ := h
      obtain ⟨rfl, -⟩ := Prod.mk.inj h
      refine hstate.push ?_
      split <;> exact hpart

lemma alike_refer {group : Nat} (h : refer state group = .ok state') : state.Alike state' := by
  unfold refer at h
  split at h
  · simp at h
  · obtain rfl := Except.ok.inj h
    exact ⟨rfl, rfl, rfl⟩

lemma alike_readNumbered {group : Nat}
    (h : readNumbered state rest = .ok ((state', group), rest')) : state.Alike state' := by
  unfold readNumbered at h
  split at h
  · simp at h
  · split at h
    · exact (throw_bind_eq_ok.mp h).elim
    · simp only [bind_eq_ok, pure_eq_ok] at h
      obtain ⟨after, hrefer, h⟩ := h
      obtain ⟨rfl, -⟩ := Prod.mk.inj (Prod.mk.inj h).1
      obtain ⟨h₁, h₂, h₃⟩ := alike_refer hrefer
      exact ⟨h₁, h₂, h₃⟩

lemma alike_readNamed {relative : Bool} {closing : Char} {group : Nat}
    (h : readNamed state relative closing rest = .ok ((state', group), rest')) :
    state.Alike state' := by
  unfold readNamed at h
  split at h
  · split at h
    · split at h
      · simp only [bind_eq_ok, pure_eq_ok] at h
        obtain ⟨after, hrefer, h⟩ := h
        obtain ⟨rfl, -⟩ := Prod.mk.inj (Prod.mk.inj h).1
        exact alike_refer hrefer
      · simp at h
    · simp at h
  · split at h
    · simp at h
    · dsimp only at h
      split at h
      · simp at h
      · simp only [bind_eq_ok, pure_eq_ok] at h
        obtain ⟨after, hrefer, h⟩ := h
        obtain ⟨rfl, -⟩ := Prod.mk.inj (Prod.mk.inj h).1
        exact alike_refer hrefer

lemma alike_readEnclosed {group : Nat}
    (h : readEnclosed state rest = .ok ((state', group), rest')) : state.Alike state' := by
  unfold readEnclosed at h
  split at h
  · exact alike_readNamed h
  · exact alike_readNamed h
  · simp at h

/-- A character or a set of characters has no groups. -/
lemma numbered_readCharEscape {mode : Mode} {c : Char} {tree : Tree} {least : Nat}
    (h : readCharEscape mode c rest = .ok (tree, rest')) : tree.Numbered least := by
  unfold readCharEscape at h
  split at h
  · obtain ⟨rfl, -⟩ := Prod.mk.inj (Except.ok.inj h)
    trivial
  · split at h
    · obtain ⟨rfl, -⟩ := Prod.mk.inj (Except.ok.inj h)
      trivial
    · split at h
      · obtain ⟨rfl, -⟩ := Prod.mk.inj (Except.ok.inj h)
        trivial
      · split at h
        · simp only [bind_eq_ok, pure_eq_ok] at h
          obtain ⟨_, -, h⟩ := h
          obtain ⟨rfl, -⟩ := Prod.mk.inj h
          trivial
        · split at h
          · simp only [bind_eq_ok, pure_eq_ok] at h
            obtain ⟨_, -, h⟩ := h
            obtain ⟨rfl, -⟩ := Prod.mk.inj h
            trivial
          · split at h
            · obtain ⟨rfl, -⟩ := Prod.mk.inj (Except.ok.inj h)
              trivial
            · split at h
              · simp at h
              · obtain ⟨rfl, -⟩ := Prod.mk.inj (Except.ok.inj h)
                trivial

lemma numbered_readClass {mode : Mode} {tree : Tree} {least : Nat}
    (h : readClass mode rest = .ok (tree, rest')) : tree.Numbered least := by
  unfold readClass at h
  simp only [bind_eq_ok, pure_eq_ok] at h
  obtain ⟨⟨source, left⟩, -, h⟩ := h
  obtain ⟨rfl, -⟩ := Prod.mk.inj h
  trivial

lemma readBoundary_alike {condition : Assertion} {tree : Tree} {least : Nat}
    (h : readBoundary state condition rest = .ok ((state', tree), rest')) :
    state.Alike state' ∧ tree.Numbered least := by
  unfold readBoundary at h
  split at h
  · simp at h
  · obtain ⟨rfl, rfl⟩ := Prod.mk.inj (Prod.mk.inj (Except.ok.inj h)).1
    exact ⟨⟨rfl, rfl, rfl⟩, trivial⟩

/-- What follows a backslash has no groups. -/
lemma readEscape_alike {tree : Tree} {least : Nat}
    (h : readEscape state rest = .ok ((state', tree), rest')) :
    state.Alike state' ∧ tree.Numbered least := by
  -- most escapes leave the state as it is
  have hsame : ∀ {part : Tree} {left : List Char},
      (Except.ok ((state, part), left) : Except PatternError _) = .ok ((state', tree), rest') →
      part.Numbered least → state.Alike state' ∧ tree.Numbered least := by
    intro part left h hpart
    obtain ⟨rfl, rfl⟩ := Prod.mk.inj (Prod.mk.inj (Except.ok.inj h)).1
    exact ⟨⟨rfl, rfl, rfl⟩, hpart⟩
  unfold readEscape at h
  split at h
  · simp at h
  · split at h
    · simp only [bind_eq_ok, pure_eq_ok] at h
      obtain ⟨⟨⟨after, group⟩, left⟩, hread, h⟩ := h
      obtain ⟨rfl, rfl⟩ := Prod.mk.inj (Prod.mk.inj h).1
      exact ⟨alike_readNumbered hread, trivial⟩
    · split at h
      · simp only [bind_eq_ok, pure_eq_ok] at h
        obtain ⟨⟨⟨after, group⟩, left⟩, hread, h⟩ := h
        obtain ⟨rfl, rfl⟩ := Prod.mk.inj (Prod.mk.inj h).1
        exact ⟨alike_readEnclosed hread, trivial⟩
      · exact hsame h trivial
      · exact hsame h trivial
      · exact readBoundary_alike h
      · exact readBoundary_alike h
      · exact hsame h trivial
      · exact hsame h trivial
      · exact hsame h trivial
      · exact hsame h trivial
      · simp only [bind_eq_ok, pure_eq_ok] at h
        obtain ⟨⟨part, left⟩, hread, h⟩ := h
        obtain ⟨rfl, rfl⟩ := Prod.mk.inj (Prod.mk.inj h).1
        exact ⟨⟨rfl, rfl, rfl⟩, numbered_readCharEscape hread⟩

/-! ## Groups -/

theorem numbered_openNamed (h : openNamed state rest = .ok (state', rest'))
    (hstate : state.Numbered) : state'.Numbered := by
  unfold openNamed at h
  split at h
  · simp at h
  · next name left _ =>
    obtain ⟨rfl, -⟩ := Prod.mk.inj (Except.ok.inj h)
    have hnamed : { state with names := (name, state.groupCount + 1) :: state.names }.Numbered :=
      ⟨hstate.current, hstate.groups, hstate.count⟩
    exact hnamed.openCapture

theorem numbered_readFlags {outside : Mode} {on : Bool} {fuel count : Nat}
    (h : readFlags outside on fuel count state rest = .ok (state', rest'))
    (hstate : state.Numbered) : state'.Numbered := by
  induction fuel generalizing on count state rest with
  | zero => simp [readFlags] at h
  | succ fuel ih =>
    rw [readFlags] at h
    simp only [bind_eq_ok] at h
    obtain ⟨left, -, h⟩ := h
    split at h
    · exact (throw_eq_ok.mp h).elim
    · split at h
      · -- `)`: the flags are for what follows
        split at h
        · exact (throw_bind_eq_ok.mp h).elim
        · exact numbered_finish h hstate trivial
      · split at h
        · -- `:`: they are for a group
          split at h
          · exact (throw_bind_eq_ok.mp h).elim
          · exact numbered_opened h hstate trivial (by simp)
        · split at h
          · -- `-`
            split at h
            · exact (throw_bind_eq_ok.mp h).elim
            · exact ih h hstate
          · split at h
            · -- `u`
              split at h
              · exact (throw_bind_eq_ok.mp h).elim
              · exact ih h hstate
            · -- a flag, which only changes the mode
              split at h
              · exact (throw_eq_ok.mp h).elim
              · exact ih h ⟨hstate.current, hstate.groups, hstate.count⟩

/-- A reference in parentheses opens the branches of a conditional. -/
lemma numbered_openBranches {found : Except PatternError ((ReadState × Nat) × List Char)}
    (halike : ∀ after group left, found = .ok ((after, group), left) → state.Alike after)
    (h : (do
      let ((after, group), left) ← found
      match ← after.skip left with
      | ')' :: rest => return (openGroup after (.branches (.backref group) rest.length), rest)
      | _ => throw PatternError.unclosedGroup) = .ok (state', rest'))
    (hstate : state.Numbered) : state'.Numbered := by
  simp only [bind_eq_ok] at h
  obtain ⟨⟨⟨after, group⟩, left⟩, hfound, left', -, h⟩ := h
  split at h
  · exact numbered_opened h ((halike after group left hfound).numbered hstate) trivial (by simp)
  · exact (throw_eq_ok.mp h).elim

theorem numbered_readCondition (h : readCondition state rest = .ok (state', rest'))
    (hstate : state.Numbered) : state'.Numbered := by
  unfold readCondition at h
  split at h
  · simp at h
  · exact numbered_openBranches (fun _ _ _ hread => alike_readEnclosed hread) h hstate
  · exact numbered_openBranches (fun _ _ _ hread => alike_readEnclosed hread) h hstate
  · split at h
    · exact numbered_openBranches (fun _ _ _ hread => alike_readNumbered hread) h hstate
    · exact numbered_opened h hstate trivial (by simp)

theorem numbered_readGroup (h : readGroup state rest = .ok (state', rest'))
    (hstate : state.Numbered) : state'.Numbered := by
  unfold readGroup at h
  split at h
  · exact (throw_bind_eq_ok.mp h).elim
  · simp only [bind_eq_ok] at h
    obtain ⟨left, -, h⟩ := h
    split at h
    -- the look-arounds
    · exact numbered_opened h hstate trivial (by simp)
    · exact numbered_opened h hstate trivial (by simp)
    · exact numbered_opened h hstate trivial (by simp)
    · exact numbered_opened h hstate trivial (by simp)
    -- names
    · exact numbered_openNamed h hstate
    · exact numbered_openNamed h hstate
    · simp only [bind_eq_ok] at h
      obtain ⟨⟨⟨after, group⟩, left⟩, hread, h⟩ := h
      exact numbered_finish h ((alike_readNamed hread).numbered hstate) trivial
    -- atomic groups, conditionals, flags and plain groups
    · exact numbered_opened h hstate trivial (by simp)
    · exact numbered_readCondition h hstate
    · exact numbered_readFlags h hstate
    · obtain ⟨rfl, -⟩ := Prod.mk.inj (pure_eq_ok.mp h)
      exact hstate.openCapture

lemma numbered_asCondition {condition : Tree} {least : Nat} (h : condition.Numbered least) :
    (asCondition condition).Numbered least := by
  unfold asCondition
  split
  · trivial
  · exact h

lemma numbered_conditional {condition branches : Tree} {least : Nat}
    (hcondition : condition.Numbered least) (hbranches : branches.Numbered least) :
    (conditional condition branches).Numbered least := by
  unfold conditional
  split
  next yes no heq =>
    have hparts : yes.Numbered least ∧ no.Numbered least := by
      split at heq
      · obtain ⟨rfl, rfl⟩ := Prod.mk.inj heq
        exact ⟨hbranches.1, hbranches.2.1⟩
      · obtain ⟨rfl, rfl⟩ := Prod.mk.inj heq
        exact ⟨hbranches.1, hbranches.2⟩
      · obtain ⟨rfl, rfl⟩ := Prod.mk.inj heq
        exact ⟨hbranches, trivial⟩
    split
    · exact hcondition
    · exact ⟨hcondition, hparts⟩

lemma numbered_closeBranches {tree : Tree} (h : closeBranches state = .ok tree)
    (hstate : state.Numbered) : tree.Numbered (innermost state.groups) := by
  unfold closeBranches at h
  split at h
  · simp at h
  · obtain rfl := Except.ok.inj h
    exact hstate.current.close

theorem numbered_closeGroup (h : closeGroup state rest = .ok (state', rest'))
    (hstate : state.Numbered) : state'.Numbered := by
  unfold closeGroup at h
  simp only [bind_eq_ok] at h
  obtain ⟨body, hbody, h⟩ := h
  have hbody := numbered_closeBranches hbody hstate
  have hstacked := hstate.groups
  have hcount := hstate.count
  split at h
  · exact (throw_eq_ok.mp h).elim
  · next group groups heq =>
    obtain ⟨opening, outside⟩ := group
    rw [heq] at hbody hstacked hcount
    obtain ⟨hopening, houtside, hgroups⟩ := hstacked
    -- the group that is closed had a greater number than those around it
    have hle : innermost groups ≤ state.groupCount := by
      cases opening with
      | capture index => exact Nat.le_trans (Nat.le_of_lt hopening) hcount
      | _ => exact hcount
    have houter : { state with current := outside, groups }.Numbered := ⟨houtside, hgroups, hle⟩
    cases opening with
    | capture index => exact numbered_finish h houter ⟨hopening, hbody⟩
    | flags mode => exact numbered_finish h ⟨houtside, hgroups, hle⟩ hbody
    | atomic => exact numbered_finish h houter hbody
    | look behind negated => exact numbered_finish h houter hbody
    | condition =>
      exact numbered_opened h houter hbody (by simp)
    | branches condition length =>
      dsimp only at h
      split at h
      · split at h
        · exact numbered_finish h houter trivial
        · exact (throw_eq_ok.mp h).elim
      · exact numbered_finish h houter
          (numbered_conditional (numbered_asCondition hopening) hbody)

/-! ## Patterns -/

theorem numbered_readPart {c : Char} (h : readPart state c rest = .ok (state', rest'))
    (hstate : state.Numbered) : state'.Numbered := by
  unfold readPart at h
  split at h
  · exact numbered_finish h hstate trivial
  · exact numbered_finish h hstate trivial
  · exact numbered_finish h hstate trivial
  · exact numbered_readGroup h hstate
  · exact numbered_closeGroup h hstate
  · obtain ⟨rfl, -⟩ := Prod.mk.inj (Except.ok.inj h)
    exact ⟨hstate.current.next, hstate.groups, hstate.count⟩
  · simp at h
  · simp at h
  · simp at h
  · simp only [bind_eq_ok] at h
    obtain ⟨⟨tree, left⟩, hread, h⟩ := h
    exact numbered_finish h hstate (numbered_readClass hread)
  · simp only [bind_eq_ok] at h
    obtain ⟨⟨⟨after, tree⟩, left⟩, hread, h⟩ := h
    obtain ⟨halike, htree⟩ := readEscape_alike hread
    exact numbered_finish h (halike.numbered hstate) htree
  · exact numbered_finish h hstate trivial

theorem numbered_readPattern {fuel : Nat} {parsed : Parsed}
    (h : readPattern fuel state rest = .ok parsed) (hstate : state.Numbered) :
    parsed.tree.Numbered 0 ∧ 0 < parsed.groupCount := by
  induction fuel generalizing state rest with
  | zero => simp [readPattern] at h
  | succ fuel ih =>
    rw [readPattern] at h
    simp only [bind_eq_ok] at h
    obtain ⟨left, -, h⟩ := h
    split at h
    · split at h
      · exact (throw_bind_eq_ok.mp h).elim
      · next hgroups =>
        simp only [bind_eq_ok, pure_eq_ok] at h
        obtain ⟨tree, htree, rfl⟩ := h
        have hempty : state.groups = [] := by simpa using hgroups
        have htree := numbered_closeBranches htree hstate
        rw [hempty] at htree
        exact ⟨htree, Nat.succ_pos _⟩
    · simp only [bind_eq_ok] at h
      obtain ⟨⟨after, left⟩, hread, h⟩ := h
      exact ih h (numbered_readPart hread hstate)

/-- The groups of a pattern are numbered. -/
theorem numbered_ofPattern {pattern : String} {parsed : Parsed}
    (h : Parsed.ofPattern pattern = .ok parsed) :
    parsed.tree.Numbered 0 ∧ 0 < parsed.groupCount :=
  numbered_readPattern h ⟨.empty, trivial, Nat.zero_le _⟩

end Backtrack

end TextExpr
