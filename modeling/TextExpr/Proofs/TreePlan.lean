import TextExpr.Proofs.PlanOrder
import TextExpr.Proofs.Result

/-!
# Plans of trees

What `PlanOrder` asks of a plan is read off the tree it was made for: its groups are numbered as
those of the tree are, and it keeps the start of the match if the tree has no `\K` in a look-behind.
-/

namespace TextExpr

namespace Backtrack

/-! ## Trees -/

namespace Tree

mutual

/-- The numbers of the groups are greater than `least`, and those inside of a group are greater
than its own. -/
def Numbered (least : Nat) : Tree → Prop
  | concat parts => NumberedAll least parts
  | alt branches => NumberedAll least branches
  | group index body => least < index ∧ Numbered index body
  | rep _ _ _ body | look _ _ body | atomic body => Numbered least body
  | conditional condition yes no =>
    Numbered least condition ∧ Numbered least yes ∧ Numbered least no
  | _ => True

/-- The groups of all parts are numbered. -/
def NumberedAll (least : Nat) : List Tree → Prop
  | [] => True
  | part :: parts => Numbered least part ∧ NumberedAll least parts

end

mutual

/-- The match is only said to start where no look-behind has led: if `inFront`, there is no `\K`
in a look-behind, and otherwise there is none at all. A look-around that must not match says
nothing. -/
def keepsStart (inFront : Bool) : Tree → Bool
  | matchStart => inFront
  | look _ true _ => true
  | look behind false body => keepsStart (inFront && !behind) body
  | concat parts => keepsStartAll inFront parts
  | alt branches => keepsStartAll inFront branches
  | group _ body => keepsStart inFront body
  | rep _ _ _ body => keepsStart inFront body
  | atomic body => keepsStart inFront body
  | conditional condition yes no =>
    keepsStart inFront condition && keepsStart inFront yes && keepsStart inFront no
  | _ => true

/-- All parts keep the start. -/
def keepsStartAll (inFront : Bool) : List Tree → Bool
  | [] => true
  | part :: parts => keepsStart inFront part && keepsStartAll inFront parts

end

lemma keepsStartAll_cons {inFront : Bool} {part : Tree} {parts : List Tree} :
    keepsStartAll inFront (part :: parts) = true ↔
      keepsStart inFront part = true ∧ keepsStartAll inFront parts = true := by
  rw [keepsStartAll, Bool.and_eq_true]

lemma numberedAll_iff {least : Nat} {parts : List Tree} :
    NumberedAll least parts ↔ ∀ part ∈ parts, Numbered least part := by
  induction parts with
  | nil => simp [NumberedAll]
  | cons part parts ih => simp [NumberedAll, ih]

lemma NumberedAll.of_subset {least : Nat} {parts parts' : List Tree}
    (h : NumberedAll least parts) (hsub : parts' ⊆ parts) : NumberedAll least parts' :=
  numberedAll_iff.mpr fun part hpart => numberedAll_iff.mp h part (hsub hpart)

mutual

/-- The groups of a tree have the numbers they are said to have. -/
theorem Numbered.lt_of_mem {least g : Nat} :
    (tree : Tree) → tree.Numbered least → g ∈ tree.groups → least < g
  | concat parts, h, hg => NumberedAll.lt_of_mem parts h hg
  | alt branches, h, hg => NumberedAll.lt_of_mem branches h hg
  | group index body, h, hg => by
    rcases List.mem_cons.mp hg with rfl | hg
    · exact h.1
    · exact Nat.lt_trans h.1 (Numbered.lt_of_mem body h.2 hg)
  | rep _ _ _ body, h, hg => Numbered.lt_of_mem body h hg
  | look _ _ body, h, hg => Numbered.lt_of_mem body h hg
  | atomic body, h, hg => Numbered.lt_of_mem body h hg
  | conditional condition yes no, h, hg => by
    rcases List.mem_append.mp hg with hg | hg
    · rcases List.mem_append.mp hg with hg | hg
      · exact Numbered.lt_of_mem condition h.1 hg
      · exact Numbered.lt_of_mem yes h.2.1 hg
    · exact Numbered.lt_of_mem no h.2.2 hg
  | empty, _, hg | any _, _, hg | literal .., _, hg | assertion _, _, hg | chars .., _, hg
  | backref _, _, hg | taken _, _, hg | matchStart, _, hg | searchStart, _, hg =>
    absurd hg List.not_mem_nil

theorem NumberedAll.lt_of_mem {least g : Nat} :
    (parts : List Tree) → NumberedAll least parts → g ∈ groupsOfAll parts → least < g
  | [], _, hg => absurd hg List.not_mem_nil
  | part :: parts, h, hg => by
    rcases List.mem_append.mp hg with hg | hg
    · exact Numbered.lt_of_mem part h.1 hg
    · exact NumberedAll.lt_of_mem parts h.2 hg

end

end Tree

/-! ## Plans -/

/-- The plan does not step back, numbers its groups and keeps the start whenever what it was made
for keeps it. -/
structure Plan.Suits (least : Nat) (keeps : Bool → Prop) (plan : Plan) : Prop where
  /-- There is no step back, except in conditions. -/
  forward : plan.Forward
  /-- The groups are numbered. -/
  numbered : plan.Numbered least
  /-- The plan keeps the start. -/
  keepsStart : ∀ inFront, keeps inFront → plan.KeepsStart inFront

namespace Plan.Suits

variable {least : Nat} {keeps keeps' : Bool → Prop} {a b : Plan}

lemma mono (h : a.Suits least keeps) (hle : ∀ inFront, keeps' inFront → keeps inFront) :
    a.Suits least keeps' :=
  ⟨h.forward, h.numbered, fun inFront hkeeps => h.keepsStart inFront (hle inFront hkeeps)⟩

lemma empty : Plan.empty.Suits least keeps := ⟨trivial, trivial, fun _ _ => trivial⟩

lemma refuse (body : Plan) : (Plan.refuse body).Suits least keeps :=
  ⟨trivial, trivial, fun _ _ => trivial⟩

lemma seq (ha : a.Suits least keeps) (hb : b.Suits least keeps) :
    (Plan.seq a b).Suits least keeps :=
  ⟨⟨ha.forward, hb.forward⟩, ⟨ha.numbered, hb.numbered⟩,
    fun _ h => ⟨ha.keepsStart _ h, hb.keepsStart _ h⟩⟩

lemma either (ha : a.Suits least keeps) (hb : b.Suits least keeps) :
    (Plan.either a b).Suits least keeps :=
  ⟨⟨ha.forward, hb.forward⟩, ⟨ha.numbered, hb.numbered⟩,
    fun _ h => ⟨ha.keepsStart _ h, hb.keepsStart _ h⟩⟩

lemma sequence {plans : List Plan} (h : ∀ plan ∈ plans, plan.Suits least keeps) :
    (Plan.sequence plans).Suits least keeps := by
  induction plans with
  | nil => exact empty
  | cons plan plans ih =>
    have hplan := h plan List.mem_cons_self
    have hrest := ih fun p hp => h p (List.mem_cons_of_mem _ hp)
    cases plans with
    | nil => exact hplan
    | cons next plans => exact hplan.seq hrest

lemma firstOf {plans : List Plan} (h : ∀ plan ∈ plans, plan.Suits least keeps) :
    (Plan.firstOf plans).Suits least keeps := by
  induction plans with
  | nil => exact empty
  | cons plan plans ih =>
    have hplan := h plan List.mem_cons_self
    have hrest := ih fun p hp => h p (List.mem_cons_of_mem _ hp)
    cases plans with
    | nil => exact hplan
    | cons next plans => exact hplan.either hrest

/-- What precedes or follows a position suits it, if what precedes it may be said to start
nothing. -/
lemma check_of_aroundPlan {behind : Bool} {shape : Tree.Shape} {body plan : Plan}
    (h : Tree.aroundPlan behind shape body = .ok plan) (hbody : body.Suits least keeps)
    (hkeeps : ∀ inFront, keeps' inFront → keeps (inFront && !behind)) :
    (Plan.check plan).Suits least keeps' := by
  unfold Tree.aroundPlan at h
  cases behind with
  | false =>
    obtain rfl := pure_eq_ok.mp h
    refine ⟨trivial, hbody.numbered, fun inFront hin => Or.inl (hbody.keepsStart _ ?_)⟩
    simpa using hkeeps inFront hin
  | true =>
    simp only [Bool.not_true, if_false, Bool.false_eq_true] at h
    split at h
    · -- the step back leads to positions that are not in front
      obtain rfl := pure_eq_ok.mp h
      refine ⟨trivial, ⟨trivial, hbody.numbered⟩, fun inFront hin => Or.inr ⟨rfl, ?_⟩⟩
      exact hbody.keepsStart _ (by simpa using hkeeps inFront hin)
    · exact (throw_eq_ok.mp h).elim

lemma repeatPlan {least₁ : Nat} {most : Option Nat} {greedy : Bool} {shape : Tree.Shape}
    {plan : Plan} (h : plan.Suits least keeps) :
    (Tree.repeatPlan least₁ most greedy shape plan).Suits least keeps := by
  have hstar : (Plan.star greedy plan).Suits least keeps := ⟨h.forward, h.numbered, h.keepsStart⟩
  unfold Tree.repeatPlan
  split
  · split
    · exact h.either empty
    · exact empty.either h
  · split
    · exact ⟨h.forward, h.numbered, h.keepsStart⟩
    · split
      · exact hstar
      · split
        · exact h.seq hstar
        · exact ⟨h.forward, h.numbered, h.keepsStart⟩
  · exact ⟨h.forward, h.numbered, h.keepsStart⟩

lemma ofPattern {pattern : List Char} {groups : List Nat} {plan : Plan}
    (h : Plan.ofPattern pattern groups = .ok plan) (hgroups : ∀ g ∈ groups, least < g) :
    plan.Suits least keeps := by
  unfold Plan.ofPattern at h
  split at h
  · simp at h
  · split at h
    · simp at h
    · split at h
      all_goals obtain rfl := Except.ok.inj h
      · exact empty
      · exact ⟨trivial, trivial, fun _ _ => trivial⟩
      · exact ⟨trivial, trivial, fun _ _ => trivial⟩
      · exact ⟨trivial, hgroups, fun _ _ => trivial⟩

lemma easyPlan {parts : List Tree} {plan : Plan} (h : Tree.easyPlan parts = .ok plan)
    (hparts : Tree.NumberedAll least parts) : plan.Suits least keeps := by
  unfold Tree.easyPlan at h
  split at h
  · obtain rfl := Except.ok.inj h
    exact empty
  · split at h
    · obtain rfl := Except.ok.inj h
      exact ⟨trivial, trivial, fun _ _ => trivial⟩
    · exact ofPattern h fun g hg => Tree.NumberedAll.lt_of_mem _ hparts hg

end Plan.Suits

namespace Tree

variable {references : List Nat}

lemma plan_look {isHard behind negated : Bool} {body : Tree}
    (hbody : ∀ branches, body ≠ .alt branches) :
    (look behind negated body).plan references isHard = (do
      let inner ← body.plan references false
      let around ← aroundPlan behind (body.shape references) inner
      return if negated then .refuse around else .check around) := by
  rw [plan]
  exact hbody

lemma suits_look {least : Nat} {behind negated : Bool} {shape : Shape} {body : Tree}
    {inner around : Plan} (h : aroundPlan behind shape inner = .ok around)
    (hinner : inner.Suits least (fun inFront => body.keepsStart inFront = true)) :
    (if negated = true then Plan.refuse around else .check around).Suits least
      (fun inFront => (look behind negated body).keepsStart inFront = true) := by
  cases negated with
  | true => exact .refuse around
  | false => exact .check_of_aroundPlan h hinner fun inFront hkeeps => hkeeps

mutual

/-- The plan of a tree suits it. -/
theorem plan_suits {least : Nat} (isHard : Bool) (tree : Tree) {plan : Plan}
    (hnum : tree.Numbered least) (h : tree.plan references isHard = .ok plan) :
    plan.Suits least (fun inFront => tree.keepsStart inFront = true) := by
  match tree with
  | .empty | .any _ | .assertion _ | .backref _ | .taken _ | .searchStart =>
    rw [Tree.plan, pure_eq_ok] at h
    subst h
    exact ⟨trivial, trivial, fun _ _ => trivial⟩
  | .matchStart =>
    rw [Tree.plan, pure_eq_ok] at h
    subst h
    exact ⟨trivial, trivial, fun _ h => h⟩
  | .literal c ignoreCase =>
    rw [Tree.plan] at h
    exact .easyPlan h ⟨trivial, trivial⟩
  | .chars source ignoreCase =>
    rw [Tree.plan] at h
    exact .easyPlan h ⟨trivial, trivial⟩
  | .concat parts =>
    rw [Tree.plan] at h
    split at h
    · exact .easyPlan h ⟨hnum, trivial⟩
    · -- easy parts at both ends are taken together
      simp only [bind_eq_ok, pure_eq_ok] at h
      obtain ⟨first, hfirst, plans, hplans, last, hlast, rfl⟩ := h
      refine .seq (.easyPlan hfirst (.of_subset hnum (List.take_subset _ _))) ?_
      refine .seq (.sequence (planParts_suits _ _ parts hnum hplans)) ?_
      exact .easyPlan hlast (.of_subset hnum (List.drop_subset _ _))
  | .alt branches =>
    rw [Tree.plan] at h
    split at h
    · exact .easyPlan h ⟨hnum, trivial⟩
    · simp only [bind_eq_ok, pure_eq_ok] at h
      obtain ⟨plans, hplans, rfl⟩ := h
      exact .firstOf (planBranches_suits isHard branches hnum hplans)
  | .group index body =>
    rw [Tree.plan] at h
    split at h
    · exact .easyPlan h ⟨hnum, trivial⟩
    · simp only [bind_eq_ok, pure_eq_ok] at h
      obtain ⟨inner, hinner, rfl⟩ := h
      have hbody := plan_suits isHard body hnum.2 hinner
      exact ⟨hbody.forward, ⟨hnum.1, hbody.forward, hbody.numbered⟩, hbody.keepsStart⟩
  | .rep least₁ most greedy body =>
    rw [Tree.plan] at h
    split at h
    · exact .easyPlan h ⟨hnum, trivial⟩
    · simp only [bind_eq_ok, pure_eq_ok] at h
      obtain ⟨inner, hinner, rfl⟩ := h
      exact (plan_suits _ body hnum hinner).repeatPlan
  | .look behind negated body =>
    by_cases hsplit : ∃ branches, body = .alt branches
    · obtain ⟨branches, rfl⟩ := hsplit
      rw [Tree.plan] at h
      split at h
      · -- branches of several lengths get a condition each
        next hbehind =>
        simp only [bind_eq_ok, pure_eq_ok] at h
        obtain ⟨plans, hplans, rfl⟩ := h
        have hchecks := planAround_suits branches hnum hplans
        cases negated with
        | true =>
          refine .sequence fun plan hplan => ?_
          obtain ⟨body, -, rfl⟩ := List.mem_map.mp hplan
          exact .refuse body
        | false =>
          refine .firstOf fun plan hplan => ?_
          obtain ⟨body, hbody, rfl⟩ := List.mem_map.mp hplan
          refine (hchecks body hbody).mono fun inFront hkeeps => ?_
          rw [Bool.and_eq_true] at hbehind
          simpa [keepsStart, hbehind.1] using hkeeps
      · simp only [bind_eq_ok, pure_eq_ok] at h
        obtain ⟨inner, hinner, around, haround, rfl⟩ := h
        exact suits_look haround (plan_suits false (.alt branches) hnum hinner)
    · rw [plan_look (fun branches hb => hsplit ⟨branches, hb⟩)] at h
      simp only [bind_eq_ok, pure_eq_ok] at h
      obtain ⟨inner, hinner, around, haround, rfl⟩ := h
      exact suits_look haround (plan_suits false body hnum hinner)
  | .atomic body =>
    rw [Tree.plan] at h
    simp only [bind_eq_ok, pure_eq_ok] at h
    obtain ⟨inner, hinner, rfl⟩ := h
    have hbody := plan_suits false body hnum hinner
    exact ⟨hbody.forward, hbody.numbered, hbody.keepsStart⟩
  | .conditional condition yes no =>
    rw [Tree.plan] at h
    simp only [bind_eq_ok, pure_eq_ok] at h
    obtain ⟨c, hc, y, hy, n, hn, rfl⟩ := h
    have hcond := plan_suits isHard condition hnum.1 hc
    have hyes := plan_suits isHard yes hnum.2.1 hy
    have hno := plan_suits isHard no hnum.2.2 hn
    refine ⟨⟨hcond.forward, hyes.forward, hno.forward⟩,
      ⟨hcond.numbered, hyes.numbered, hno.numbered⟩, fun inFront hkeeps => ?_⟩
    simp only [keepsStart, Bool.and_eq_true] at hkeeps
    exact ⟨hcond.keepsStart _ hkeeps.1.1, hyes.keepsStart _ hkeeps.1.2, hno.keepsStart _ hkeeps.2⟩
termination_by sizeOf tree

/-- The plans of parts suit them. -/
theorem planParts_suits {least : Nat} (skip count : Nat) (parts : List Tree) {plans : List Plan}
    (hnum : NumberedAll least parts) (h : planParts references skip count parts = .ok plans) :
    ∀ plan ∈ plans, plan.Suits least (fun inFront => keepsStartAll inFront parts = true) := by
  match parts with
  | [] =>
    rw [planParts, pure_eq_ok] at h
    subst h
    exact fun plan hplan => absurd hplan List.not_mem_nil
  | part :: parts =>
    have hrest : ∀ {skip count : Nat} {plans : List Plan},
        planParts references skip count parts = .ok plans → ∀ plan ∈ plans, plan.Suits least
          (fun inFront => keepsStartAll inFront (part :: parts) = true) := by
      intro skip count plans hplans plan hplan
      exact (planParts_suits skip count parts hnum.2 hplans plan hplan).mono fun _ hkeeps =>
        (keepsStartAll_cons.mp hkeeps).2
    match skip, count with
    | skip + 1, count =>
      rw [planParts] at h
      exact hrest h
    | 0, 0 =>
      rw [planParts, pure_eq_ok] at h
      subst h
      exact fun plan hplan => absurd hplan List.not_mem_nil
    | 0, count + 1 =>
      rw [planParts] at h
      simp only [bind_eq_ok, pure_eq_ok] at h
      obtain ⟨first, hfirst, plans, hplans, rfl⟩ := h
      intro plan hplan
      rcases List.mem_cons.mp hplan with rfl | hplan
      · exact (plan_suits true part hnum.1 hfirst).mono fun _ hkeeps =>
          (keepsStartAll_cons.mp hkeeps).1
      · exact hrest hplans plan hplan
termination_by sizeOf parts

/-- The plans of branches suit them. -/
theorem planBranches_suits {least : Nat} (isHard : Bool) (branches : List Tree)
    {plans : List Plan} (hnum : NumberedAll least branches)
    (h : planBranches references isHard branches = .ok plans) :
    ∀ plan ∈ plans, plan.Suits least (fun inFront => keepsStartAll inFront branches = true) := by
  match branches with
  | [] =>
    rw [planBranches, pure_eq_ok] at h
    subst h
    exact fun plan hplan => absurd hplan List.not_mem_nil
  | branch :: branches =>
    rw [planBranches] at h
    simp only [bind_eq_ok, pure_eq_ok] at h
    obtain ⟨first, hfirst, plans, hplans, rfl⟩ := h
    intro plan hplan
    rcases List.mem_cons.mp hplan with rfl | hplan
    · exact (plan_suits isHard branch hnum.1 hfirst).mono fun _ hkeeps =>
        (keepsStartAll_cons.mp hkeeps).1
    · exact (planBranches_suits isHard branches hnum.2 hplans plan hplan).mono fun _ hkeeps =>
        (keepsStartAll_cons.mp hkeeps).2
termination_by sizeOf branches

/-- The conditions made of branches that precede a position suit them. -/
theorem planAround_suits {least : Nat} (branches : List Tree) {plans : List Plan}
    (hnum : NumberedAll least branches) (h : planAround references branches = .ok plans) :
    ∀ plan ∈ plans, (Plan.check plan).Suits least
      (fun _ => keepsStartAll false branches = true) := by
  match branches with
  | [] =>
    rw [planAround, pure_eq_ok] at h
    subst h
    exact fun plan hplan => absurd hplan List.not_mem_nil
  | branch :: branches =>
    rw [planAround] at h
    simp only [bind_eq_ok, pure_eq_ok] at h
    obtain ⟨inner, hinner, first, hfirst, plans, hplans, rfl⟩ := h
    intro plan hplan
    rcases List.mem_cons.mp hplan with rfl | hplan
    · refine .check_of_aroundPlan hfirst (plan_suits false branch hnum.1 hinner) fun _ hkeeps => ?_
      simpa using (keepsStartAll_cons.mp hkeeps).1
    · exact (planAround_suits branches hnum.2 hplans plan hplan).mono fun _ hkeeps =>
        (keepsStartAll_cons.mp hkeeps).2
termination_by sizeOf branches

end

end Tree

end Backtrack

end TextExpr
