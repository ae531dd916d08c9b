import TextExpr.Backtrack.Engine
import TextExpr.Proofs.PlanMatch

/-!
# In which order plans write registers

Three properties of plans, each with what it says about the matches of a plan:

* `Plan.Forward`: outside of conditions there is no step back, so a match ends where it starts or
  later (`Matches.offset_le`);
* `Plan.Numbered`: a group has a greater number than the groups around it and does not step back,
  so nothing else writes a group that is open (`Matches.frame`) and a group that was closed ends
  where it starts or later (`Matches.ordered`);
* `Plan.KeepsStart`: the match is not said to start where steps back may lead to, so it is not
  said to start before the search did (`Matches.startFrom`).

`Program.search_wellFormed` puts them together.
-/

namespace TextExpr

namespace Backtrack

/-! ## Plans -/

namespace Plan

/-- There is no step back, except in conditions. -/
def Forward : Plan → Prop
  | back _ => False
  | seq a b | either a b => a.Forward ∧ b.Forward
  | group _ body | star _ body | rounds _ _ _ body | guarded _ _ body | atomic body => body.Forward
  | conditional condition yes no => condition.Forward ∧ yes.Forward ∧ no.Forward
  | _ => True

/-- The numbers of the groups are greater than `least`, and those inside of a group are greater
than its own. No group steps back. -/
def Numbered (least : Nat) : Plan → Prop
  | linear _ groups => ∀ g ∈ groups, least < g
  | seq a b | either a b => a.Numbered least ∧ b.Numbered least
  | group index body => least < index ∧ body.Forward ∧ body.Numbered index
  | star _ body | rounds _ _ _ body | guarded _ _ body | check body | atomic body =>
    body.Numbered least
  | conditional condition yes no =>
    condition.Numbered least ∧ yes.Numbered least ∧ no.Numbered least
  | _ => True

/-- The match is only said to start at positions that are known to be `inFront`, which means that
no step back has led to them. -/
def KeepsStart (inFront : Bool) : Plan → Prop
  | matchStart => inFront = true
  | back _ => inFront = false
  | seq a b | either a b => a.KeepsStart inFront ∧ b.KeepsStart inFront
  | group _ body | star _ body | rounds _ _ _ body | guarded _ _ body | atomic body =>
    body.KeepsStart inFront
  | check body => body.KeepsStart inFront ∨ body.KeepsStart false
  | conditional condition yes no =>
    condition.KeepsStart inFront ∧ yes.KeepsStart inFront ∧ no.KeepsStart inFront
  | _ => True

lemma KeepsStart.forward {plan : Plan} (h : plan.KeepsStart true) : plan.Forward := by
  induction plan with
  | back count => exact absurd h (by simp [KeepsStart])
  | seq a b iha ihb => exact ⟨iha h.1, ihb h.2⟩
  | either a b iha ihb => exact ⟨iha h.1, ihb h.2⟩
  | group index body ih => exact ih h
  | star greedy body ih => exact ih h
  | rounds least most greedy body ih => exact ih h
  | guarded least greedy body ih => exact ih h
  | atomic body ih => exact ih h
  | conditional condition yes no ihc ihy ihn => exact ⟨ihc h.1, ihy h.2.1, ihn h.2.2⟩
  | _ => trivial

end Plan

/-! ## Registers -/

namespace Registers

/-- There are registers for each group, and all that is noted in them are boundaries. -/
structure Fits (text : List Char) (count : Nat) (r : Registers) : Prop where
  /-- There is a start for each group. -/
  opened_size : r.opened.size = count
  /-- There is an end for each group. -/
  closed_size : r.closed.size = count
  /-- Groups start at boundaries. -/
  opened : ∀ g start, r.start? g = some start → IsBoundary text start
  /-- Groups end at boundaries. -/
  closed : ∀ g stop, r.stop? g = some stop → IsBoundary text stop

/-- If a group has a start and an end, they are in order. -/
def Ordered (r : Registers) (g : Nat) : Prop :=
  ∀ start stop, r.start? g = some start → r.stop? g = some stop → start ≤ stop

/-- The registers of a group are the same. -/
def SameAt (g : Nat) (r r' : Registers) : Prop :=
  r'.start? g = r.start? g ∧ r'.stop? g = r.stop? g

lemma SameAt.trans {g : Nat} {r r' r'' : Registers} (h : r.SameAt g r') (h' : r'.SameAt g r'') :
    r.SameAt g r'' := ⟨h'.1.trans h.1, h'.2.trans h.2⟩

/-- The match is said to start at `least` or after it. -/
def StartFrom (least : Nat) (r : Registers) : Prop :=
  ∃ start, r.start? 0 = some start ∧ least ≤ start

variable {text : List Char} {count : Nat} {r : Registers}

lemma Fits.openGroup (h : r.Fits text count) (group : Nat) {start : Option Nat}
    (hb : ∀ s ∈ start, IsBoundary text s) : (r.openGroup group start).Fits text count where
  opened_size := by rw [Registers.openGroup, Array.size_setIfInBounds, h.opened_size]
  closed_size := h.closed_size
  opened g s hs := by
    by_cases hg : g = group
    · subst hg
      exact hb s (eq_of_start?_openGroup hs)
    · rw [start?_openGroup_of_ne hg] at hs
      exact h.opened g s hs
  closed := h.closed

lemma Fits.closeGroup (h : r.Fits text count) (group : Nat) {stop : Option Nat}
    (hb : ∀ s ∈ stop, IsBoundary text s) : (r.closeGroup group stop).Fits text count where
  opened_size := h.opened_size
  closed_size := by rw [Registers.closeGroup, Array.size_setIfInBounds, h.closed_size]
  opened := h.opened
  closed g s hs := by
    by_cases hg : g = group
    · subst hg
      exact hb s (eq_of_stop?_closeGroup hs)
    · rw [stop?_closeGroup_of_ne hg] at hs
      exact h.closed g s hs

lemma Fits.setGroup (h : r.Fits text count) (group : Nat) {span : Option Span}
    (hspan : ∀ s, span = some s → s.In text) : (r.setGroup group span).Fits text count := by
  refine (h.openGroup group fun s hs => ?_).closeGroup group fun s hs => ?_
  · obtain ⟨covered, hcovered, rfl⟩ := Option.map_eq_some_iff.mp hs
    exact (hspan covered hcovered).2.1
  · obtain ⟨covered, hcovered, rfl⟩ := Option.map_eq_some_iff.mp hs
    exact (hspan covered hcovered).2.2

lemma fits_initial (text : List Char) (count : Nat) : (initial count).Fits text count where
  opened_size := Array.size_replicate
  closed_size := Array.size_replicate
  opened g start h := by
    obtain ⟨-, heq⟩ := Array.mem_replicate.mp (Array.mem_of_getElem? (Option.join_eq_some_iff.mp h))
    simp at heq
  closed g stop h := by
    obtain ⟨-, heq⟩ := Array.mem_replicate.mp (Array.mem_of_getElem? (Option.join_eq_some_iff.mp h))
    simp at heq

lemma setGroup_of_ne {g group : Nat} (h : g ≠ group) (span : Option Span) :
    r.SameAt g (r.setGroup group span) := by
  rw [SameAt, setGroup, start?_closeGroup, start?_openGroup_of_ne h, stop?_closeGroup_of_ne h,
    stop?_openGroup]
  exact ⟨rfl, rfl⟩

lemma Ordered.setGroup {g : Nat} (h : r.Ordered g) (group : Nat) {span : Option Span}
    (hspan : ∀ s, span = some s → s.start ≤ s.stop) : (r.setGroup group span).Ordered g := by
  intro start stop hstart hstop
  by_cases hg : g = group
  · subst hg
    rw [Registers.setGroup, start?_closeGroup] at hstart
    obtain ⟨covered, hcovered, rfl⟩ := Option.map_eq_some_iff.mp (eq_of_start?_openGroup hstart)
    obtain ⟨covered', hcovered', rfl⟩ := Option.map_eq_some_iff.mp (eq_of_stop?_closeGroup hstop)
    rw [hcovered] at hcovered'
    obtain rfl := Option.some.inj hcovered'
    exact hspan covered hcovered
  · obtain ⟨h₁, h₂⟩ := setGroup_of_ne (r := r) hg span
    rw [h₁] at hstart
    rw [h₂] at hstop
    exact h start stop hstart hstop

end Registers

/-! ## Matches -/

namespace Plan.Matches

variable {text : List Char} {count least : Nat} {plan : Plan} {here there : Cursor}
  {r r' : Registers}

/-- What an automaton finds lies in the text. -/
lemma span_in_of_linear {program : Linear.Program} {found : Captures}
    (h : program.search true here = some found) {span : Span} (hspan : some span ∈ found.groups) :
    span.In here.text :=
  (program.search_wellFormed h).spans span (List.mem_of_mem_drop hspan)

/-- A match stays in the text, and what it notes are boundaries. -/
theorem fits (h : plan.Matches here r there r') (ht : here.text = text)
    (hr : r.Fits text count) : there.text = text ∧ r'.Fits text count := by
  induction h with
  | test _ => exact ⟨ht, hr⟩
  | text _ hthere _ => exact ⟨hthere.trans ht, hr⟩
  | linear hfound hseek =>
    refine ⟨(Cursor.seek?_eq_some_iff.mp hseek).1.trans ht, ?_⟩
    refine Registers.setGroups_induction (fun r group span _ hspan hr => ?_) hr
    exact hr.setGroup group fun s hs => ht ▸ span_in_of_linear hfound (hspan s hs)
  | seq _ _ iha ihb =>
    obtain ⟨hmid, hr⟩ := iha ht hr
    exact ihb hmid hr
  | first _ ih => exact ih ht hr
  | second _ ih => exact ih ht hr
  | @group index _ here there _ _ _ ih =>
    have hopen : ∀ s ∈ some here.offset, IsBoundary text s := by
      intro s hs
      obtain rfl := Option.some.inj hs
      exact ht ▸ here.isBoundary_offset
    obtain ⟨hthere, hr⟩ := ih ht (hr.openGroup index hopen)
    refine ⟨hthere, hr.closeGroup index fun s hs => ?_⟩
    obtain rfl := Option.some.inj hs
    exact hthere ▸ there.isBoundary_offset
  | done => exact ⟨ht, hr⟩
  | more _ _ ihbody ihmore =>
    obtain ⟨hmid, hr⟩ := ihbody ht hr
    exact ihmore hmid hr
  | rounds _ ih => exact ih ht hr
  | guarded _ ih => exact ih ht hr
  | back hthere => exact ⟨hthere.trans ht, hr⟩
  | check _ ih => exact ⟨ht, (ih ht hr).2⟩
  | atomic _ ih => exact ih ht hr
  | @matchStart here _ =>
    refine ⟨ht, hr.openGroup 0 fun s hs => ?_⟩
    obtain rfl := Option.some.inj hs
    exact ht ▸ here.isBoundary_offset
  | yes _ _ ihcond ihyes =>
    obtain ⟨hmid, hr⟩ := ihcond ht hr
    exact ihyes hmid hr
  | no _ ih => exact ih ht hr

/-- A plan without steps back only goes forward. -/
theorem offset_le (h : plan.Matches here r there r') (hplan : plan.Forward) :
    here.offset ≤ there.offset := by
  induction h with
  | test _ => exact Nat.le_refl _
  | text _ _ hle => exact hle
  | linear hfound hseek =>
    obtain ⟨_, _, hhead, hleast, hle, -⟩ := (Linear.Program.search_wellFormed _ hfound).within
    obtain ⟨-, hoffset⟩ := Cursor.seek?_eq_some_iff.mp hseek
    rw [Captures.whole_of_head? hhead] at hoffset
    exact hoffset ▸ Nat.le_trans hleast hle
  | seq _ _ iha ihb => exact Nat.le_trans (iha hplan.1) (ihb hplan.2)
  | first _ ih => exact ih hplan.1
  | second _ ih => exact ih hplan.2
  | group _ ih => exact ih hplan
  | done => exact Nat.le_refl _
  | more _ _ ihbody ihmore => exact Nat.le_trans (ihbody hplan) (ihmore hplan)
  | rounds _ ih => exact ih hplan
  | guarded _ ih => exact ih hplan
  | back _ => exact hplan.elim
  | check _ _ => exact Nat.le_refl _
  | atomic _ ih => exact ih hplan
  | matchStart => exact Nat.le_refl _
  | yes _ _ ihcond ihyes => exact Nat.le_trans (ihcond hplan.1) (ihyes hplan.2.1)
  | no _ ih => exact ih hplan.2.2

/-- Groups with other numbers than those of a plan are left as they are. -/
theorem frame (h : plan.Matches here r there r') (hplan : plan.Numbered least) {g : Nat}
    (hpos : 0 < g) (hg : g ≤ least) : r.SameAt g r' := by
  induction h generalizing least with
  | @linear _ _ _ _ r _ _ _ =>
    refine Registers.setGroups_induction (P := r.SameAt g) (fun r group span hgroup _ hr => ?_)
      ⟨rfl, rfl⟩
    have hlt : least < group := hplan group hgroup
    exact hr.trans (Registers.setGroup_of_ne (by omega) span)
  | seq _ _ iha ihb => exact (iha hplan.1 hg).trans (ihb hplan.2 hg)
  | first _ ih => exact ih hplan.1 hg
  | second _ ih => exact ih hplan.2 hg
  | @group index _ _ _ _ _ _ ih =>
    obtain ⟨hlt, -, hbody⟩ := hplan
    have hne : g ≠ index := by omega
    obtain ⟨hstart, hstop⟩ := ih hbody (by omega)
    rw [Registers.start?_openGroup_of_ne hne] at hstart
    refine ⟨hstart, ?_⟩
    rw [Registers.stop?_closeGroup_of_ne hne]
    exact hstop
  | more _ _ ihbody ihmore => exact (ihbody hplan hg).trans (ihmore hplan hg)
  | rounds _ ih => exact ih hplan hg
  | guarded _ ih => exact ih hplan hg
  | check _ ih => exact ih hplan hg
  | atomic _ ih => exact ih hplan hg
  | matchStart => exact ⟨Registers.start?_openGroup_of_ne (by omega) _, rfl⟩
  | yes _ _ ihcond ihyes => exact (ihcond hplan.1 hg).trans (ihyes hplan.2.1 hg)
  | no _ ih => exact ih hplan.2.2 hg
  | _ => exact ⟨rfl, rfl⟩

/-- The groups of a plan stay in order, if they are before. -/
theorem ordered (h : plan.Matches here r there r') (hplan : plan.Numbered least)
    (hr : ∀ g, least < g → r.Ordered g) : ∀ g, least < g → r'.Ordered g := by
  induction h generalizing least with
  | linear hfound _ =>
    intro g hg
    refine Registers.setGroups_induction (P := fun r => r.Ordered g)
      (fun r group span _ hspan hr => hr.setGroup group fun s hs => ?_) (hr g hg)
    exact (span_in_of_linear hfound (hspan s hs)).1
  | seq _ _ iha ihb => exact ihb hplan.2 (iha hplan.1 hr)
  | first _ ih => exact ih hplan.1 hr
  | second _ ih => exact ih hplan.2 hr
  | @group index _ _ _ r _ hbody ih =>
    obtain ⟨hlt, hforward, hnumbered⟩ := hplan
    intro g hg start stop hstart hstop
    rw [Registers.start?_closeGroup] at hstart
    rcases Nat.lt_trichotomy g index with hlt' | rfl | hlt'
    · -- a group around this one, which is left as it is
      have hne : g ≠ index := by omega
      obtain ⟨hs, he⟩ := hbody.frame hnumbered (g := g) (by omega) (by omega)
      rw [hs, Registers.start?_openGroup_of_ne hne] at hstart
      rw [Registers.stop?_closeGroup_of_ne hne, he] at hstop
      exact hr g hg start stop hstart hstop
    · -- the group itself, which nothing inside of it writes
      obtain ⟨hs, -⟩ := hbody.frame hnumbered (g := g) (by omega) (Nat.le_refl _)
      rw [hs] at hstart
      obtain rfl := Option.some.inj (Registers.eq_of_start?_openGroup hstart)
      obtain rfl := Option.some.inj (Registers.eq_of_stop?_closeGroup hstop)
      exact hbody.offset_le hforward
    · -- a group that may stand inside
      have hne : g ≠ index := by omega
      rw [Registers.stop?_closeGroup_of_ne hne] at hstop
      refine ih hnumbered (fun k hk start stop hs he => ?_) g hlt' start stop hstart hstop
      rw [Registers.start?_openGroup_of_ne (by omega)] at hs
      exact hr k (by omega) start stop hs he
  | more _ _ ihbody ihmore => exact ihmore hplan (ihbody hplan hr)
  | rounds _ ih => exact ih hplan hr
  | guarded _ ih => exact ih hplan hr
  | check _ ih => exact ih hplan hr
  | atomic _ ih => exact ih hplan hr
  | matchStart =>
    intro g hg start stop hstart hstop
    rw [Registers.start?_openGroup_of_ne (by omega)] at hstart
    exact hr g hg start stop hstart hstop
  | yes _ _ ihcond ihyes => exact ihyes hplan.2.1 (ihcond hplan.1 hr)
  | no _ ih => exact ih hplan.2.2 hr
  | _ => exact hr

end Plan.Matches

/-- Carried out at a position, the plan does not say that the match starts before `origin`: any
start will do, or the plan keeps the start and the position is in front if it has to be. -/
def Plan.StartsFrom (origin : Nat) (here : Cursor) (plan : Plan) : Prop :=
  origin = 0 ∨ ∃ inFront, plan.KeepsStart inFront ∧ (inFront = true → origin ≤ here.offset)

namespace Plan.StartsFrom

variable {origin : Nat} {here there : Cursor} {plan a : Plan} {r r' : Registers}

lemma part (h : plan.StartsFrom origin here)
    (hpart : ∀ inFront, plan.KeepsStart inFront → a.KeepsStart inFront) :
    a.StartsFrom origin here :=
  h.imp_right fun ⟨inFront, hkeeps, hle⟩ => ⟨inFront, hpart inFront hkeeps, hle⟩

/-- Positions in front stay in front under a part that keeps the start. -/
lemma later (h : plan.StartsFrom origin here) (ha : a.Matches here r there r')
    (hpart : ∀ inFront, plan.KeepsStart inFront → a.KeepsStart inFront) :
    plan.StartsFrom origin there := by
  refine h.imp_right fun ⟨inFront, hkeeps, hle⟩ => ⟨inFront, hkeeps, fun hfront => ?_⟩
  have hforward := hpart inFront hkeeps
  rw [hfront] at hforward
  exact Nat.le_trans (hle hfront) (ha.offset_le hforward.forward)

end Plan.StartsFrom

/-- After a plan that does not say otherwise, the match is still said to start at `origin` or after
it. -/
theorem Plan.Matches.startFrom {origin least : Nat} {plan : Plan} {here there : Cursor}
    {r r' : Registers} (h : plan.Matches here r there r') (hplan : plan.Numbered least)
    (hstart : plan.StartsFrom origin here) (hr : r.StartFrom origin) : r'.StartFrom origin := by
  induction h generalizing least with
  | linear _ _ =>
    refine Registers.setGroups_induction (fun r group span hgroup _ hr => ?_) hr
    obtain ⟨start, hs, hle⟩ := hr
    have hlt : least < group := hplan group hgroup
    exact ⟨start, (Registers.setGroup_of_ne (by omega) span).1.trans hs, hle⟩
  | seq ha _ iha ihb =>
    have hmid := iha hplan.1 (hstart.part fun _ h => h.1) hr
    exact ihb hplan.2 ((hstart.later ha fun _ h => h.1).part fun _ h => h.2) hmid
  | first _ ih => exact ih hplan.1 (hstart.part fun _ h => h.1) hr
  | second _ ih => exact ih hplan.2 (hstart.part fun _ h => h.2) hr
  | @group index _ _ _ _ _ _ ih =>
    obtain ⟨hlt, -, hbody⟩ := hplan
    obtain ⟨start, hs, hle⟩ := hr
    refine ih hbody hstart ⟨start, ?_, hle⟩
    rw [Registers.start?_openGroup_of_ne (by omega)]
    exact hs
  | more hbody _ ihbody ihmore =>
    have hmid := ihbody hplan (hstart.part fun _ h => h) hr
    exact ihmore hplan (hstart.later hbody fun _ h => h) hmid
  | rounds _ ih => exact ih hplan hstart hr
  | guarded _ ih => exact ih hplan hstart hr
  | check _ ih =>
    -- a body that says nothing of the start may step back
    refine ih hplan (hstart.imp_right fun ⟨inFront, hkeeps, hle⟩ => ?_) hr
    rcases hkeeps with hkeeps | hkeeps
    · exact ⟨inFront, hkeeps, hle⟩
    · exact ⟨false, hkeeps, fun h => absurd h (by simp)⟩
  | atomic _ ih => exact ih hplan hstart hr
  | matchStart =>
    -- the start is moved here, and here is in front
    obtain ⟨start, hs, -⟩ := hr
    have hself := Registers.start?_openGroup_self (Registers.lt_size_of_start? hs)
    refine ⟨_, hself _, ?_⟩
    rcases hstart with rfl | ⟨inFront, hkeeps, hle⟩
    · exact Nat.zero_le _
    · exact hle hkeeps
  | yes hcond _ ihcond ihyes =>
    have hmid := ihcond hplan.1 (hstart.part fun _ h => h.1) hr
    exact ihyes hplan.2.1 ((hstart.later hcond fun _ h => h.1).part fun _ h => h.2.1) hmid
  | no _ ih => exact ih hplan.2.2 (hstart.part fun _ h => h.2.2) hr
  | _ => exact hr

/-! ## Searches -/

namespace Registers

variable {text : List Char} {count least : Nat} {r : Registers}

lemma span?_eq_some {g : Nat} {span : Span} :
    r.span? g = some span ↔ r.start? g = some span.start ∧ r.stop? g = some span.stop := by
  obtain ⟨start, stop⟩ := span
  cases hs : r.start? g <;> cases he : r.stop? g <;> simp [span?, hs, he]

lemma captures_eq (hsize : r.opened.size = count + 1) {start stop : Nat}
    (hstart : r.start? 0 = some start) (hstop : r.stop? 0 = some stop) :
    r.captures = some ⟨min start stop, stop⟩ ::
      (List.range count).map fun i => r.span? (i + 1) := by
  have hwhole : r.span? 0 = some ⟨start, stop⟩ := span?_eq_some.mpr ⟨hstart, hstop⟩
  simp only [captures, hsize, List.range_succ_eq_map, List.map_cons, hwhole, List.map_map]
  rfl

/-- Registers whose groups are in order come to a well-formed match. -/
lemma captures_wellFormed (hr : r.Fits text (count + 1)) (hord : ∀ g, 0 < g → r.Ordered g)
    (hstart : r.StartFrom least) {stop : Nat} (hstop : r.stop? 0 = some stop)
    (hle : least ≤ stop) : r.captures.WellFormed text least (count + 1) := by
  obtain ⟨start, hs, hleast⟩ := hstart
  have hsb := hr.opened 0 start hs
  have heb := hr.closed 0 stop hstop
  -- a start that `\K` has moved past the end is taken back to it
  have hmin : IsBoundary text (min start stop) := by
    rcases Nat.le_total start stop with h | h
    · rwa [Nat.min_eq_left h]
    · rwa [Nat.min_eq_right h]
  rw [captures_eq hr.opened_size hs hstop]
  refine ⟨by simp, ⟨_, _, rfl, by omega, by omega, hmin, heb⟩, fun span hspan => ?_⟩
  rcases List.mem_cons.mp hspan with heq | hspan
  · obtain rfl := Option.some.inj heq
    exact ⟨Nat.min_le_right _ _, hmin, heb⟩
  · obtain ⟨i, -, hi⟩ := List.mem_map.mp hspan
    obtain ⟨hi₁, hi₂⟩ := span?_eq_some.mp hi
    exact ⟨hord (i + 1) (by omega) _ _ hi₁ hi₂, hr.opened _ _ hi₁, hr.closed _ _ hi₂⟩

lemma ordered_initial (count g : Nat) : (initial count).Ordered g := by
  intro start stop hstart
  obtain ⟨-, heq⟩ :=
    Array.mem_replicate.mp (Array.mem_of_getElem? (Option.join_eq_some_iff.mp hstart))
  simp at heq

end Registers

/-- The plan of a whole pattern: characters are passed over and then the pattern is matched as
group 0. -/
def Plan.whole (plan : Plan) : Plan := .seq (.star false (.any true)) (.group 0 plan)

/-- A search for a plan whose groups are numbered finds well-formed matches that end at or after
the position of the search. If the plan keeps the start they start there or later too. -/
theorem Program.search_wellFormed {plan : Plan} (hforward : plan.Forward)
    (hnumbered : plan.Numbered 0) {count : Nat} {here : Cursor} {captures : Captures}
    (h : Program.search ⟨plan.whole, count + 1⟩ here = .ok (some captures)) {least : Nat}
    (hleast : least ≤ here.offset) (hkeeps : least = 0 ∨ plan.KeepsStart true) :
    captures.WellFormed here.text least (count + 1) ∧
      here.offset ≤ captures.whole.stop := by
  obtain ⟨there, last, hwhole, rfl⟩ := Program.matches_of_search h
  have hfits := (hwhole.fits rfl (Registers.fits_initial here.text (count + 1))).2
  cases hwhole with
  | test htest => simp [Plan.whole, Plan.isTest] at htest
  | text htext _ _ => simp [Plan.whole, Plan.isText] at htext
  | @seq _ _ _ mid _ _ r _ hskip hgroup =>
    cases hgroup with
    | test htest => simp [Plan.isTest] at htest
    | text htext _ _ => simp [Plan.isText] at htext
    | @group _ _ _ _ _ r' hbody =>
      have hmid := hskip.offset_le trivial
      have hend := hbody.offset_le hforward
      obtain ⟨-, hskipped⟩ := hskip.fits rfl (Registers.fits_initial here.text (count + 1))
      -- the whole match is opened at `mid`, and the plan may say otherwise
      have hstart : (r'.closeGroup 0 (some there.offset)).StartFrom least := by
        refine hbody.startFrom hnumbered (hkeeps.imp_right fun hkeeps => ?_) ?_
        · exact ⟨true, hkeeps, fun _ => Nat.le_trans hleast hmid⟩
        · refine ⟨mid.offset, Registers.start?_openGroup_self ?_ _, Nat.le_trans hleast hmid⟩
          rw [hskipped.opened_size]
          exact Nat.succ_pos count
      have hstop : (r'.closeGroup 0 (some there.offset)).stop? 0 = some there.offset := by
        refine Registers.stop?_closeGroup_self ?_ _
        have hsize := hfits.closed_size
        rw [Registers.closeGroup, Array.size_setIfInBounds] at hsize
        rw [hsize]
        exact Nat.succ_pos count
      -- opening and closing the whole match leaves the groups inside of it alone
      have hord : ∀ g, 0 < g → (r'.closeGroup 0 (some there.offset)).Ordered g := by
        intro g hg start stop hs he
        rw [Registers.stop?_closeGroup_of_ne (by omega)] at he
        refine hbody.ordered hnumbered (fun k hk start stop hs he => ?_) g hg start stop hs he
        rw [Registers.start?_openGroup_of_ne (by omega)] at hs
        exact hskip.ordered (show Plan.Numbered 0 _ from trivial)
          (fun g _ => Registers.ordered_initial (count + 1) g) k hk start stop hs he
      refine ⟨Registers.captures_wellFormed hfits hord hstart hstop (by omega), ?_⟩
      obtain ⟨start, hs, -⟩ := hstart
      rw [Registers.captures_eq hfits.opened_size hs hstop]
      exact Nat.le_trans hmid hend

end Backtrack

end TextExpr
