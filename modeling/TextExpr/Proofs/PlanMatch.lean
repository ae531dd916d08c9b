import TextExpr.Backtrack.Machine
import TextExpr.Proofs.LinearSearch

/-!
# What a plan comes to

`Plan.Matches` relates a position and registers before a plan to those after it. It follows the
plan and knows nothing of frames, choices and limits; rounds may be repeated as often as one likes,
and what a condition asks for is left out. Whatever the machine finds is a match in this sense:
`run_matches` follows from `step_reaches`, which says that a step does not come to anything that
one of the choices before it did not come to.
-/

namespace TextExpr

namespace Backtrack

/-! ## Registers -/

namespace Registers

/-- The registers after the groups of an automaton have been set. -/
def setGroups (r : Registers) (groups : List Nat) (spans : Captures) : Registers :=
  groups.zipIdx.foldl (fun r (group, i) => r.setGroup group (spans[i]?).join) r

variable {r : Registers} {g group : Nat}

lemma start?_openGroup_of_ne (h : g ≠ group) (start : Option Nat) :
    (r.openGroup group start).start? g = r.start? g := by
  simp only [start?, openGroup]
  rw [Array.getElem?_setIfInBounds_ne (Ne.symm h)]

lemma start?_openGroup_self (h : g < r.opened.size) (start : Option Nat) :
    (r.openGroup g start).start? g = start := by
  simp only [start?, openGroup]
  rw [Array.getElem?_setIfInBounds_self_of_lt h, Option.join_some]

lemma stop?_closeGroup_of_ne (h : g ≠ group) (stop : Option Nat) :
    (r.closeGroup group stop).stop? g = r.stop? g := by
  simp only [stop?, closeGroup]
  rw [Array.getElem?_setIfInBounds_ne (Ne.symm h)]

lemma stop?_closeGroup_self (h : g < r.closed.size) (stop : Option Nat) :
    (r.closeGroup g stop).stop? g = stop := by
  simp only [stop?, closeGroup]
  rw [Array.getElem?_setIfInBounds_self_of_lt h, Option.join_some]

@[simp] lemma stop?_openGroup (start : Option Nat) :
    (r.openGroup group start).stop? g = r.stop? g := rfl

@[simp] lemma start?_closeGroup (stop : Option Nat) :
    (r.closeGroup group stop).start? g = r.start? g := rfl

lemma lt_size_of_start? {start : Nat} (h : r.start? g = some start) : g < r.opened.size := by
  rcases Nat.lt_or_ge g r.opened.size with hlt | hge
  · exact hlt
  · rw [start?, Array.getElem?_eq_none hge] at h
    simp at h

lemma lt_size_of_stop? {stop : Nat} (h : r.stop? g = some stop) : g < r.closed.size := by
  rcases Nat.lt_or_ge g r.closed.size with hlt | hge
  · exact hlt
  · rw [stop?, Array.getElem?_eq_none hge] at h
    simp at h

/-- A start that is found after a group was opened is the one that was noted. -/
lemma eq_of_start?_openGroup {start : Option Nat} {s : Nat}
    (h : (r.openGroup g start).start? g = some s) : start = some s := by
  have hlt := lt_size_of_start? h
  rw [openGroup, Array.size_setIfInBounds] at hlt
  rw [start?_openGroup_self hlt] at h
  exact h

/-- An end that is found after a group was closed is the one that was noted. -/
lemma eq_of_stop?_closeGroup {stop : Option Nat} {s : Nat}
    (h : (r.closeGroup g stop).stop? g = some s) : stop = some s := by
  have hlt := lt_size_of_stop? h
  rw [closeGroup, Array.size_setIfInBounds] at hlt
  rw [stop?_closeGroup_self hlt] at h
  exact h

/-- What is kept whenever one of the groups of an automaton is set is kept when all are. -/
lemma setGroups_induction {P : Registers → Prop} {groups : List Nat} {spans : Captures}
    (hset : ∀ r group span, group ∈ groups → (∀ s, span = some s → some s ∈ spans) → P r →
      P (r.setGroup group span))
    (h : P r) : P (r.setGroups groups spans) := by
  -- the fold over any entries whose groups are among these
  suffices hfold : ∀ (entries : List (Nat × Nat)) (r : Registers),
      (∀ entry ∈ entries, entry.1 ∈ groups) → P r →
      P (entries.foldl (fun r (group, i) => r.setGroup group (spans[i]?).join) r) by
    refine hfold _ r (fun entry hentry => ?_) h
    obtain ⟨group, i⟩ := entry
    exact (List.mem_zipIdx' hentry).2 ▸ List.getElem_mem _
  intro entries
  induction entries with
  | nil => exact fun _ _ h => h
  | cons entry entries ih =>
    intro r hmem h
    rw [List.foldl_cons]
    refine ih _ (fun e he => hmem e (List.mem_cons_of_mem _ he)) ?_
    refine hset r _ _ (hmem entry List.mem_cons_self) (fun s hs => ?_) h
    exact List.mem_of_getElem? (Option.join_eq_some_iff.mp hs)

end Registers

/-! ## Matches -/

/-- The plan only asks whether to go on. -/
def Plan.isTest : Plan → Bool
  | .empty | .assertion _ | .refuse _ | .taken _ | .searchStart => true
  | _ => false

/-- The plan takes characters and does nothing else. -/
def Plan.isText : Plan → Bool
  | .text _ | .any _ | .chars _ | .backref _ => true
  | _ => false

/-- A plan comes from a position and registers to others. -/
inductive Plan.Matches : Plan → Cursor → Registers → Cursor → Registers → Prop
  /-- Nothing is moved. -/
  | test {plan here r} : plan.isTest = true → Matches plan here r here r
  /-- Characters are taken. -/
  | text {plan here there r} : plan.isText = true → there.text = here.text →
      here.offset ≤ there.offset → Matches plan here r there r
  /-- An automaton matches in place. -/
  | linear {program groups here there r found} : program.search true here = some found →
      here.seek? found.whole.stop = some there →
      Matches (.linear program groups) here r there (r.setGroups groups found.groups)
  /-- One plan after the other. -/
  | seq {a b here mid there r r' r''} : Matches a here r mid r' → Matches b mid r' there r'' →
      Matches (.seq a b) here r there r''
  /-- The first of two plans. -/
  | first {a b here there r r'} : Matches a here r there r' → Matches (.either a b) here r there r'
  /-- The second of two plans. -/
  | second {a b here there r r'} : Matches b here r there r' → Matches (.either a b) here r there r'
  /-- A group is opened and closed. -/
  | group {index body here there r r'} :
      Matches body here (r.openGroup index (some here.offset)) there r' →
      Matches (.group index body) here r there (r'.closeGroup index (some there.offset))
  /-- No round. -/
  | done {greedy body here r} : Matches (.star greedy body) here r here r
  /-- A round and others after it. -/
  | more {greedy body here mid there r r' r''} : Matches body here r mid r' →
      Matches (.star greedy body) mid r' there r'' → Matches (.star greedy body) here r there r''
  /-- Counted rounds are rounds. -/
  | rounds {least most greedy body here there r r'} : Matches (.star greedy body) here r there r' →
      Matches (.rounds least most greedy body) here r there r'
  /-- Guarded rounds are rounds. -/
  | guarded {least greedy body here there r r'} : Matches (.star greedy body) here r there r' →
      Matches (.guarded least greedy body) here r there r'
  /-- A step back. -/
  | back {count here there r} : there.text = here.text → Matches (.back count) here r there r
  /-- The registers are kept, but not the position. -/
  | check {body here there r r'} : Matches body here r there r' →
      Matches (.check body) here r here r'
  /-- One match of the body is one of its matches. -/
  | atomic {body here there r r'} : Matches body here r there r' →
      Matches (.atomic body) here r there r'
  /-- The match is said to start here. -/
  | matchStart {here r} : Matches .matchStart here r here (r.openGroup 0 (some here.offset))
  /-- The condition and what follows it. -/
  | yes {condition yes no here mid there r r' r''} : Matches condition here r mid r' →
      Matches yes mid r' there r'' → Matches (.conditional condition yes no) here r there r''
  /-- What is done instead of the condition. -/
  | no {condition yes no here there r r'} : Matches no here r there r' →
      Matches (.conditional condition yes no) here r there r'

/-- What is left to do comes from a position and registers to the last registers. -/
def Completes : List Frame → Cursor → Registers → Registers → Prop
  | [], _, r, last => r = last
  | .run plan :: frames, here, r, last =>
    ∃ there r', plan.Matches here r there r' ∧ Completes frames there r' last
  | .closeGroup group :: frames, here, r, last =>
    Completes frames here (r.closeGroup group (some here.offset)) last
  | .restore back :: frames, _, r, last => Completes frames back r last
  | .commit :: frames, here, r, last => Completes frames here r last
  | .reject _ :: _, _, _, _ => False
  | .rounds _ _ greedy body _ :: frames, here, r, last =>
    ∃ there r', (Plan.star greedy body).Matches here r there r' ∧ Completes frames there r' last
  | .guarded _ greedy body _ _ :: frames, here, r, last =>
    ∃ there r', (Plan.star greedy body).Matches here r there r' ∧ Completes frames there r' last

/-! ## Steps -/

/-- One of the choices comes to the registers. -/
def Later (choices : List Choice) (last : Registers) : Prop :=
  ∃ choice ∈ choices, Completes choice.frames choice.here choice.registers last

/-- What is left to do or one of the choices comes to the registers. -/
def Config.Reaches (c : Config) (last : Registers) : Prop :=
  Completes c.frames c.here c.registers last ∨ Later c.choices last

/-- The outcome is the registers, or the search goes on and comes to them. -/
def Outcome.Reaches : Outcome → Registers → Prop
  | .running c, last => c.Reaches last
  | .ended found, last => found = some last
  | .exhausted, _ => False

namespace Config

variable {c : Config} {frames taken other : List Frame} {last : Registers}

lemma reaches_fail (h : c.fail.Reaches last) : Later c.choices last := by
  unfold fail at h
  split at h
  · simp [Outcome.Reaches] at h
  · next choice choices hchoices =>
    split at h
    · exact h.elim
    · rw [hchoices]
      rcases h with h | ⟨later, hmem, h⟩
      · exact ⟨choice, List.mem_cons_self, h⟩
      · exact ⟨later, List.mem_cons_of_mem _ hmem, h⟩

lemma reaches_proceedAt {here : Option Cursor} (h : (c.proceedAt frames here).Reaches last) :
    (∃ there, here = some there ∧ Completes frames there c.registers last) ∨
      Later c.choices last := by
  cases here with
  | none => exact Or.inr (reaches_fail h)
  | some there => exact h.imp_left fun h => ⟨there, rfl, h⟩

lemma reaches_choose (h : (c.choose taken other).Reaches last) :
    Completes taken c.here c.registers last ∨ Completes other c.here c.registers last ∨
      Later c.choices last := by
  unfold choose at h
  split at h
  · exact h.elim
  · rcases h with h | ⟨choice, hmem, h⟩
    · exact Or.inl h
    · rcases List.mem_cons.mp hmem with rfl | hmem
      · exact Or.inr (Or.inl h)
      · exact Or.inr (Or.inr ⟨choice, hmem, h⟩)

lemma reaches_prefer {greedy : Bool} (h : (c.prefer greedy taken other).Reaches last) :
    Completes taken c.here c.registers last ∨ Completes other c.here c.registers last ∨
      Later c.choices last := by
  unfold prefer at h
  split at h
  · exact reaches_choose h
  · rcases reaches_choose h with h | h | h
    · exact Or.inr (Or.inl h)
    · exact Or.inl h
    · exact Or.inr (Or.inr h)

lemma later_of_cut {height : Nat} (h : Later (c.cut height).choices last) :
    Later c.choices last := by
  obtain ⟨choice, hmem, h⟩ := h
  exact ⟨choice, List.mem_of_mem_drop hmem, h⟩

end Config

lemma text_after? {text : List Char} {here there : Cursor} (h : after? text here = some there) :
    there.text = here.text ∧ here.offset ≤ there.offset := by
  induction text generalizing here with
  | nil =>
    obtain rfl := Option.some.inj h
    exact ⟨rfl, Nat.le_refl _⟩
  | cons c text ih =>
    rw [after?] at h
    split at h
    · obtain ⟨next, hnext, hthere⟩ := Option.bind_eq_some_iff.mp h
      have hlt := Cursor.offset_lt_of_next? hnext
      obtain ⟨htext, hle⟩ := ih hthere
      exact ⟨htext.trans (Cursor.text_next? hnext), by omega⟩
    · simp at h

lemma text_afterChar? {condition : Char → Bool} {here there : Cursor}
    (h : afterChar? condition here = some there) :
    there.text = here.text ∧ here.offset ≤ there.offset := by
  unfold afterChar? at h
  split at h
  · exact ⟨Cursor.text_next? h, Nat.le_of_lt (Cursor.offset_lt_of_next? h)⟩
  · simp at h

lemma text_afterGroup? {r : Registers} {group : Nat} {here there : Cursor}
    (h : afterGroup? r group here = some there) :
    there.text = here.text ∧ here.offset ≤ there.offset := by
  obtain ⟨span, -, h⟩ := Option.bind_eq_some_iff.mp h
  obtain ⟨first, -, h⟩ := Option.bind_eq_some_iff.mp h
  obtain ⟨text, -, h⟩ := Option.bind_eq_some_iff.mp h
  exact text_after? h

lemma text_back? {count : Nat} {here there : Cursor} (h : back? count here = some there) :
    there.text = here.text := by
  induction count generalizing here with
  | zero =>
    obtain rfl := Option.some.inj h
    rfl
  | succ count ih =>
    obtain ⟨prev, hprev, hthere⟩ := Option.bind_eq_some_iff.mp h
    exact (ih hthere).trans (Cursor.text_prev? hprev)

/-- What comes after the plan completes what is left to do, if the plan matches. -/
lemma completes_of_matches {plan : Plan} {frames : List Frame} {here there : Cursor}
    {r r' last : Registers} (hplan : plan.Matches here r there r')
    (h : Completes frames there r' last) : Completes (.run plan :: frames) here r last :=
  ⟨there, r', hplan, h⟩

/-- A plan that takes characters matches them, wherever that leads forward. -/
lemma reaches_text {plan : Plan} {c : Config} {frames : List Frame} {last : Registers}
    {target : Option Cursor} (hplan : plan.isText = true)
    (htarget : ∀ there, target = some there →
      there.text = c.here.text ∧ c.here.offset ≤ there.offset)
    (h : (c.proceedAt frames target).Reaches last) :
    Completes (.run plan :: frames) c.here c.registers last ∨ Later c.choices last := by
  rcases Config.reaches_proceedAt h with ⟨there, hthere, h⟩ | h
  · obtain ⟨ht, hle⟩ := htarget there hthere
    exact Or.inl (completes_of_matches (.text hplan ht hle) h)
  · exact Or.inr h

/-- A plan that asks whether to go on matches nothing, if it goes on. -/
lemma reaches_test {plan : Plan} {c : Config} {frames : List Frame} {last : Registers}
    {P : Prop} [Decidable P] (hplan : plan.isTest = true)
    (h : (if P then c.proceed frames else c.fail).Reaches last) :
    Completes (.run plan :: frames) c.here c.registers last ∨ Later c.choices last := by
  split at h
  · exact h.imp_left (completes_of_matches (.test hplan))
  · exact Or.inr (Config.reaches_fail h)

/-- Carrying out a plan comes to nothing else than its matches do. -/
lemma carryOut_reaches {origin : Nat} {c : Config} {frames : List Frame} {plan : Plan}
    {last : Registers} (h : (carryOut origin c frames plan).Reaches last) :
    Completes (.run plan :: frames) c.here c.registers last ∨ Later c.choices last := by
  cases plan with
  | empty => exact h.imp_left (completes_of_matches (.test rfl))
  | text chars => exact reaches_text rfl (fun _ hthere => text_after? hthere) h
  | any newline => exact reaches_text rfl (fun _ hthere => text_afterChar? hthere) h
  | chars set => exact reaches_text rfl (fun _ hthere => text_afterChar? hthere) h
  | assertion condition => exact reaches_test rfl h
  | linear program groups =>
    rw [carryOut] at h
    split at h
    · exact Or.inr (Config.reaches_fail h)
    · next found hfound =>
      rcases Config.reaches_proceedAt h with ⟨there, hthere, h⟩ | h
      · exact Or.inl (completes_of_matches (.linear hfound hthere) h)
      · exact Or.inr h
  | seq a b =>
    refine h.imp_left ?_
    rintro ⟨mid, r, ha, there, r', hb, h⟩
    exact completes_of_matches (.seq ha hb) h
  | either a b =>
    rcases Config.reaches_choose h with ⟨there, r, ha, h⟩ | ⟨there, r, hb, h⟩ | h
    · exact Or.inl (completes_of_matches (.first ha) h)
    · exact Or.inl (completes_of_matches (.second hb) h)
    · exact Or.inr h
  | group index body =>
    refine h.imp_left ?_
    rintro ⟨there, r, hbody, h⟩
    exact completes_of_matches (.group hbody) h
  | star greedy body =>
    rcases Config.reaches_prefer h with ⟨mid, r, hbody, there, r', hstar, h⟩ | h | h
    · exact Or.inl (completes_of_matches (.more hbody hstar) h)
    · exact Or.inl (completes_of_matches .done h)
    · exact Or.inr h
  | rounds least most greedy body =>
    refine h.imp_left ?_
    rintro ⟨there, r, hstar, h⟩
    exact completes_of_matches (.rounds hstar) h
  | guarded least greedy body =>
    refine h.imp_left ?_
    rintro ⟨there, r, hstar, h⟩
    exact completes_of_matches (.guarded hstar) h
  | back count =>
    rcases Config.reaches_proceedAt h with ⟨there, hthere, h⟩ | h
    · exact Or.inl (completes_of_matches (.back (text_back? hthere)) h)
    · exact Or.inr h
  | check body =>
    refine h.imp_left ?_
    rintro ⟨there, r, hbody, h⟩
    exact completes_of_matches (.check hbody) h
  | refuse body =>
    rcases Config.reaches_choose h with ⟨there, r, -, h⟩ | h | h
    · -- once the body has matched, only giving up is left to do
      exact h.elim
    · exact Or.inl (completes_of_matches (.test rfl) h)
    · exact Or.inr h
  | backref group => exact reaches_text rfl (fun _ hthere => text_afterGroup? hthere) h
  | taken group => exact reaches_test rfl h
  | atomic body =>
    refine h.imp_left ?_
    rintro ⟨there, r, hbody, h⟩
    exact completes_of_matches (.atomic hbody) h
  | matchStart => exact h.imp_left (completes_of_matches .matchStart)
  | searchStart => exact reaches_test rfl h
  | conditional condition yes no =>
    rcases Config.reaches_choose h with ⟨mid, r, hcond, there, r', hyes, h⟩ | ⟨there, r, hno, h⟩ | h
    · exact Or.inl (completes_of_matches (.yes hcond hyes) h)
    · exact Or.inl (completes_of_matches (.no hno) h)
    · exact Or.inr h

/-- A further round comes to nothing else than rounds do. -/
lemma completes_round {greedy : Bool} {body : Plan} {frames : List Frame} {here : Cursor}
    {r last : Registers}
    (h : ∃ mid r', body.Matches here r mid r' ∧
      ∃ there r'', (Plan.star greedy body).Matches mid r' there r'' ∧
        Completes frames there r'' last) :
    ∃ there r', (Plan.star greedy body).Matches here r there r' ∧
      Completes frames there r' last := by
  obtain ⟨mid, r', hbody, there, r'', hstar, h⟩ := h
  exact ⟨there, r'', .more hbody hstar, h⟩

/-- A step comes to nothing that could not be come to before it. -/
theorem step_reaches {origin : Nat} {c : Config} {last : Registers}
    (h : (c.step origin).Reaches last) : c.Reaches last := by
  unfold Config.Reaches
  unfold Config.step at h
  split at h
  · -- nothing is left to do
    next hframes =>
    rw [hframes]
    exact Or.inl (Option.some.inj h)
  · next plan frames hframes =>
    rw [hframes]
    exact carryOut_reaches h
  · -- a group is closed
    next group frames hframes =>
    rw [hframes]
    exact h
  · -- the position is restored
    next back frames hframes =>
    rw [hframes]
    exact h
  · -- choices are given up, which takes nothing away from what is left to do
    next frames hframes =>
    rw [hframes]
    split at h
    · exact h
    · exact h.imp_right Config.later_of_cut
  · -- what must not match has matched
    exact Or.inr (Config.later_of_cut (Config.reaches_fail h))
  · next least most greedy body count frames hframes =>
    rw [hframes]
    split at h
    · exact h.imp_left fun h => ⟨_, _, .done, h⟩
    · -- another round, and where it may be left out, either
      split at h
      · exact h.imp_left completes_round
      · rcases Config.reaches_prefer h with h | h | h
        · exact Or.inl (completes_round h)
        · exact Or.inl ⟨_, _, .done, h⟩
        · exact Or.inr h
  · next least greedy body count start frames hframes =>
    rw [hframes]
    split at h
    · -- the round before was empty
      exact Or.inr (Config.reaches_fail h)
    · split at h
      · exact h.imp_left completes_round
      · rcases Config.reaches_prefer h with h | h | h
        · exact Or.inl (completes_round h)
        · exact Or.inl ⟨_, _, .done, h⟩
        · exact Or.inr h

/-- What a run ends with could be come to from its start. -/
theorem run_reaches {origin fuel : Nat} {c : Config} {last : Registers}
    (h : run origin fuel c = .ok (some last)) : c.Reaches last := by
  induction fuel generalizing c with
  | zero => simp [run] at h
  | succ fuel ih =>
    rw [run] at h
    have hreaches : (c.step origin).Reaches last := by
      split at h
      · next c' hstep =>
        rw [hstep]
        exact ih h
      · next found hstep =>
        rw [hstep]
        exact Except.ok.inj h
      · simp at h
    exact step_reaches hreaches

/-- What a search finds is a match of its plan. -/
theorem Program.matches_of_search {p : Program} {here : Cursor} {captures : Captures}
    (h : p.search here = .ok (some captures)) :
    ∃ there r, p.plan.Matches here (.initial p.groupCount) there r ∧ captures = r.captures := by
  cases hrun : run here.offset stepLimit
      { frames := [.run p.plan], here, registers := .initial p.groupCount, marks := [] } with
  | error failure => simp [search, hrun, Except.map] at h
  | ok found =>
    simp only [search, hrun, Except.map, Except.ok.injEq] at h
    obtain ⟨last, rfl, rfl⟩ := Option.map_eq_some_iff.mp h
    rcases run_reaches hrun with ⟨there, r, hplan, rfl⟩ | ⟨choice, hmem, -⟩
    · exact ⟨there, _, hplan, rfl⟩
    · simp at hmem

end Backtrack

end TextExpr
