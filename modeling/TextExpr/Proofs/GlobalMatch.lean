import Mathlib.Data.List.Sort
import TextExpr.Proofs.SearchLoop

/-!
# Global matching

A global pattern whose matcher finds leftmost matches takes the leftmost matches that do not
overlap. `Covering` says so of the ranges of the matches, without mention of a search;
`allMatches_covering` says that the search collects such ranges and that there are no others.
-/

namespace TextExpr

/-- Ranges that are matches in place, follow one another without overlap and leave out no match but
those that start strictly inside of one of them. -/
structure Covering {text : List Char} (m : Anchored text) (ranges : List Span) : Prop where
  /-- Each range is the whole of the match that starts with it. -/
  isMatch : ∀ r ∈ ranges, ∃ captures, m.at? r.start = some captures ∧
    captures.head? = some (some r)
  /-- The ranges start one after the other and do not overlap. -/
  isChain : ranges.IsChain fun r r' => r.start < r'.start ∧ r.stop ≤ r'.start
  /-- Each match starts with a range or strictly inside of one. -/
  complete : ∀ start captures, m.at? start = some captures →
    ∃ r ∈ ranges, r.start = start ∨ r.start < start ∧ start < r.stop

/-! ## Uniqueness -/

/-- To start later and not to overlap. -/
private def Follows (r r' : Span) : Prop := r.start < r'.start ∧ r.stop ≤ r'.start

private instance : Trans Follows Follows Follows where
  trans h h' := ⟨Nat.lt_trans h.1 h'.1, Nat.le_of_lt (Nat.lt_of_le_of_lt h.2 h'.1)⟩

private instance : Std.Antisymm Follows where
  antisymm _ _ h h' := absurd h.1 (Nat.lt_asymm h'.1)

private instance : Std.Irrefl Follows where
  irrefl _ h := Nat.lt_irrefl _ h.1

namespace Covering

variable {text : List Char} {m : Anchored text} {ranges ranges' : List Span}

private lemma pairwise (h : Covering m ranges) : ranges.Pairwise Follows :=
  List.isChain_iff_pairwise.mp h.isChain

/-- Two ranges that start at the same offset are one. -/
lemma eq_of_start_eq (h : Covering m ranges) (h' : Covering m ranges') {r r' : Span}
    (hr : r ∈ ranges) (hr' : r' ∈ ranges') (hstart : r.start = r'.start) : r = r' := by
  obtain ⟨captures, hm, hhead⟩ := h.isMatch r hr
  obtain ⟨captures', hm', hhead'⟩ := h'.isMatch r' hr'
  rw [hstart, hm'] at hm
  obtain rfl := Option.some.inj hm
  rw [hhead] at hhead'
  simpa using hhead'

/-- No range starts strictly inside of another. -/
lemma not_inside (h : Covering m ranges) :
    ∀ r ∈ ranges, ∀ r' ∈ ranges, ¬(r.start < r'.start ∧ r'.start < r.stop) := by
  refine List.Pairwise.forall_of_forall_of_flip ?_ ?_ ?_
  · rintro r - ⟨hlt, -⟩
    omega
  · refine h.pairwise.imp fun hfollows hinside => ?_
    have hstop := hfollows.2
    omega
  · refine h.pairwise.imp fun hfollows hinside => ?_
    have hstart := hfollows.1
    omega

/-- Of two lists of such ranges one holds no range that the other does not. -/
lemma mem_of_mem (h : Covering m ranges) (h' : Covering m ranges') {r : Span}
    (hr : r ∈ ranges) : r ∈ ranges' := by
  -- by induction on the start: a range of `ranges'` around `r` would start earlier
  induction hn : r.start using Nat.strong_induction_on generalizing r ranges ranges' with
  | _ n ih =>
    obtain ⟨captures, hm, -⟩ := h.isMatch r hr
    obtain ⟨r', hr', hstart | ⟨hlt, hstop⟩⟩ := h'.complete r.start captures hm
    · rw [eq_of_start_eq h h' hr hr' hstart.symm]
      exact hr'
    · -- `r'` starts before `r`, so it is a range of `ranges` too and overlaps `r`
      have hr'mem : r' ∈ ranges := ih r'.start (by omega) h' h hr' rfl
      exact absurd ⟨hlt, hstop⟩ (h.not_inside r' hr'mem r hr)

/-- There is one such list. -/
theorem unique (h : Covering m ranges) (h' : Covering m ranges') : ranges = ranges' :=
  h.pairwise.eq_of_mem_iff h'.pairwise fun _ => ⟨h.mem_of_mem h', h'.mem_of_mem h⟩

end Covering

/-! ## The search -/

namespace Pattern

variable {p : Pattern} {text : List Char} {m : Anchored text}

/-- A run of a global pattern that is not sticky finds, from its position on, matches in place and
leaves out none but those inside of what it finds. -/
theorem Run.covers (hm : p.matcher.FindsLeftmost m) (hg : p.flags.isGlobal = true)
    (hs : p.flags.sticky = false) {position : Option Cursor}
    {result : Except EvalError (List Captures)} (hrun : p.Run position result)
    (ht : ∀ c ∈ position, c.text = text) :
    ∃ found, result = .ok found ∧
      (∀ captures ∈ found, m.at? captures.whole.start = some captures) ∧
      ∀ start captures, offsetOf text position ≤ start → m.at? start = some captures →
        ∃ c ∈ found, c.whole.start = start ∨ c.whole.start < start ∧ start < c.whole.stop := by
  induction hrun with
  | past =>
    -- no match starts past the end
    refine ⟨[], rfl, by simp, fun start captures hle hat => ?_⟩
    have hb := (m.sound hat).1.le
    simp only [offsetOf] at hle
    omega
  | @failed position e h =>
    exact absurd (searchAt_eq_error.mp h) (hm.find_ne_error (ht _ rfl) e)
  | @nothing position h =>
    refine ⟨[], rfl, by simp, fun start captures hle hat => ?_⟩
    obtain ⟨found, hfound, hfirst⟩ := hm position (ht _ rfl)
    cases found with
    | none =>
      rw [hfirst start hle] at hat
      exact absurd hat (by simp)
    | some captures =>
      have hsome := searchAt_eq_some.mpr ⟨hfound, by simp [hs]⟩
      rw [h] at hsome
      exact absurd hsome (by simp)
  | @single position captures h hng =>
    rw [hg] at hng
    exact absurd hng (by simp)
  | @more position next captures result h _ hnext _ ih =>
    have hfind := (searchAt_eq_some.mp h).1
    have hwithin := hm.wellBehaved _ _ (ht _ rfl) hfind
    obtain ⟨htext, hoffset⟩ := offset_of_positionAfter (ht _ rfl) hnext
    obtain ⟨later, rfl, hlater, hcover⟩ := ih htext
    obtain ⟨first, hle, hat, hleast⟩ := hm.isFirst (ht _ rfl) hfind
    have hwhole : captures.whole.start = first := Anchored.whole_start hat
    refine ⟨captures :: later, rfl, ?_, ?_⟩
    · intro c hc
      rcases List.mem_cons.mp hc with rfl | hc
      · rw [hwhole, hat]
      · exact hlater c hc
    · intro start captures' hstart hat'
      rcases Nat.lt_trichotomy start first with hlt | rfl | hgt
      · -- the search has passed over `start`, so nothing matches there
        rw [hleast start hstart hlt] at hat'
        exact absurd hat' (by simp)
      · exact ⟨captures, List.mem_cons_self, Or.inl hwhole⟩
      · by_cases hinside : start < captures.whole.stop
        · exact ⟨captures, List.mem_cons_self, Or.inr ⟨by omega, hinside⟩⟩
        · -- past the match: the rest of the run covers it
          have hresume : captures.resume text ≤ start :=
            hwithin.resume_le (m.sound hat').1 (by omega) (by omega)
          obtain ⟨c, hc, hcover⟩ := hcover start captures' (by omega) hat'
          exact ⟨c, List.mem_cons_of_mem _ hc, hcover⟩

/-! ## The texts of the matches -/

/-- The value of a span between two cursors is the text between them. -/
lemma spanValue_offset {c first last : Cursor} (hfirst : first.text = c.text)
    (hlast : last.text = c.text) (hle : first.offset ≤ last.offset) :
    spanValue c (some ⟨first.offset, last.offset⟩) =
      .ok (.str (between c.text first.offset last.offset)) := by
  rw [spanValue, Cursor.slice?_offset hfirst hlast hle]
  rfl

/-- What a group stands for: the text that it covers, or null if it takes no part. -/
def groupValue (text : List Char) : Option Span → Json
  | none => .null
  | some span => .str (span.textIn text)

/-- What lies in the text can be cut out of it, from any position. -/
lemma spanValue_of_in {c : Cursor} (ht : c.text = text) {group : Option Span}
    (h : ∀ span, group = some span → span.In text) :
    spanValue c group = .ok (groupValue text group) := by
  subst ht
  cases group with
  | none => rfl
  | some span =>
    obtain ⟨start, stop⟩ := span
    obtain ⟨hle, hstart, hstop⟩ := h _ rfl
    obtain ⟨first, hfirst, rfl⟩ := Cursor.exists_of_isBoundary hstart
    obtain ⟨last, hlast, rfl⟩ := Cursor.exists_of_isBoundary hstop
    exact spanValue_offset hfirst hlast hle

lemma mapM_spanValue {c : Cursor} (ht : c.text = text) {groups : Captures}
    (h : ∀ span, some span ∈ groups → span.In text) :
    groups.mapM (spanValue c) = .ok (groups.map (groupValue text)) := by
  induction groups with
  | nil => rfl
  | cons group groups ih =>
    have hfirst := spanValue_of_in ht fun span hspan => h span (hspan ▸ List.mem_cons_self)
    have hrest := ih fun span hspan => h span (List.mem_cons_of_mem _ hspan)
    rw [List.mapM_cons, hfirst, hrest]
    rfl

/-- So can the groups of what a search finds. -/
lemma mapM_groups {matcher : Matcher} (h : matcher.FindsWithin text) {position c : Cursor}
    {captures : Captures} (ht : position.text = text)
    (hfind : matcher.find position = .ok (some captures)) (hc : c.text = text) :
    captures.groups.mapM (spanValue c) = .ok (captures.groups.map (groupValue text)) :=
  mapM_spanValue hc fun span hspan =>
    (h position captures ht hfind).2 span (List.mem_of_mem_drop hspan)

/-- The texts of chained matches can be cut out one after the other. -/
theorem wholeTexts_of_chained {least : Nat} {found : List Captures}
    (h : Chained text least found) {position : Cursor} (ht : position.text = text) :
    wholeTexts position found = .ok (found.map fun c => .str (c.whole.textIn text)) := by
  induction found generalizing least position with
  | nil => rfl
  | cons captures later ih =>
    obtain ⟨first, last, hfirst, hlast, hwhole, -, hle⟩ := h.1.exists_cursors
    have hrest := ih h.2 hfirst
    have hvalue := spanValue_offset (c := first) rfl (hlast.trans hfirst.symm) hle
    simp only [wholeTexts, hwhole, Cursor.seek?_offset (hfirst.trans ht.symm), orMalformed,
      bind, Except.bind, hvalue, hrest]
    rw [List.map_cons, Span.textIn, hwhole, hfirst]
    rfl

/-- A global pattern gives the texts of all matches. -/
lemma matchIn_of_allMatches {text : String} {found : List Captures}
    (hfound : p.allMatches text.toList = .ok found) (h : Chained text.toList 0 found)
    (hg : p.flags.isGlobal = true) :
    p.matchIn text = .ok (found.map fun c => .str (c.whole.textIn text.toList)) := by
  rw [matchIn, hfound]
  simp only [bind, Except.bind, hg, if_true]
  exact wholeTexts_of_chained h (Cursor.text_start _)

/-- A global pattern finds exactly the leftmost matches that do not overlap, and `matchIn` gives
their texts. -/
theorem allMatches_covering (p : Pattern) (text : String) (m : Anchored text.toList)
    (hm : p.matcher.FindsLeftmost m) (hg : p.flags.isGlobal = true)
    (hs : p.flags.sticky = false) :
    ∃ found, p.allMatches text.toList = .ok found ∧
      (∀ captures ∈ found, m.at? captures.whole.start = some captures) ∧
      Covering m (found.map Captures.whole) ∧
      (∀ ranges, Covering m ranges → ranges = found.map Captures.whole) ∧
      p.matchIn text = .ok (found.map fun c => .str (c.whole.textIn text.toList)) := by
  have hrun := allMatches_run hm.wellBehaved
  have hstart : ∀ c ∈ some (Cursor.start text.toList), c.text = text.toList := by simp
  obtain ⟨found, hfound, hat, hcomplete⟩ := hrun.covers hm hg hs hstart
  have hchained := chained_of_allMatches hm.wellBehaved hfound
  have hcovering : Covering m (found.map Captures.whole) := by
    refine ⟨?_, ?_, ?_⟩
    · intro r hr
      obtain ⟨captures, hc, rfl⟩ := List.mem_map.mp hr
      refine ⟨captures, hat captures hc, ?_⟩
      obtain ⟨-, stop, hhead, -⟩ := m.sound (hat captures hc)
      rw [hhead, Captures.whole_of_head? hhead]
    · rw [List.isChain_map]
      exact hchained.isChain
    · intro start captures hstart
      obtain ⟨c, hc, hcover⟩ := hcomplete start captures (Nat.zero_le _) hstart
      exact ⟨c.whole, List.mem_map_of_mem hc, hcover⟩
  exact ⟨found, hfound, hat, hcovering, fun ranges h => h.unique hcovering,
    matchIn_of_allMatches hfound hchained hg⟩

/-- The plain text `aa` in `baaaã`, where it matches at two places that overlap. -/
theorem allMatches_covering_aa :
    let p : Pattern := ⟨"literal", "aa", { isGlobal := true }, PlainText.matcher ['a', 'a']⟩
    let m := PlainText.anchored ['a', 'a'] "baaaã".toList
    p.matcher.FindsLeftmost m ∧ p.flags.isGlobal = true ∧ p.flags.sticky = false ∧
    ∃ found, p.allMatches "baaaã".toList = .ok found ∧
      (∀ captures ∈ found, m.at? captures.whole.start = some captures) ∧
      Covering m (found.map Captures.whole) ∧
      (∀ ranges, Covering m ranges → ranges = found.map Captures.whole) ∧
      p.matchIn "baaaã" = .ok (found.map fun c => .str (c.whole.textIn "baaaã".toList)) :=
  ⟨PlainText.findsLeftmost _ _, rfl, rfl,
    allMatches_covering _ _ _ (PlainText.findsLeftmost _ _) rfl rfl⟩

end Pattern

end TextExpr
