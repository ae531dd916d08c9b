import TextExpr.Proofs.LinearSearch
import TextExpr.Proofs.LoopSafety
import TextExpr.Proofs.Result

/-!
# Fragments and separators

Splitting a text takes some of the matches in it as separators and gives out what lies between
them.

* `split_eq_interleave` says which matches these are and that nothing is lost: fragments and
  separators in turn make up the text;
* `split_matchIn_agree` says that, where no match is empty and there are no groups, these are all
  the matches, so that splitting, matching and replacing tell the same of a text.
-/

namespace TextExpr

namespace Pattern

/-! ## Fragments between separators -/

/-- Where the next separator after an offset is sought: at the offset, or one character further if
an empty match stands at the offset. -/
def SoughtFrom (m : Matcher) (text : List Char) (last : Nat) (position : Cursor) : Prop :=
  position.text = text ∧ (position.offset = last ∨ position.offset = nextOffset text last ∧
    ∃ (here : Cursor) (captures : Captures), here.text = text ∧ here.offset = last ∧
      m.find here = .ok (some captures) ∧ captures.whole = ⟨last, last⟩)

/-- A match of a text separates what comes after an offset. -/
structure IsSeparator (m : Matcher) (text : List Char) (last : Nat) (captures : Captures) :
    Prop where
  /-- It is what the search for the next separator finds. -/
  found : ∃ position, SoughtFrom m text last position ∧ m.find position = .ok (some captures)
  /-- It lies in the text. -/
  whole_in : captures.whole.In text
  /-- It starts at the offset or after it. -/
  le_start : last ≤ captures.whole.start
  /-- It starts before the end of the text. -/
  start_lt : captures.whole.start < byteLength text
  /-- It ends after the offset. -/
  lt_stop : last < captures.whole.stop

/-- The search for a separator after an offset finds none: it would start at the end of the text, or
it finds nothing, or a match at the end of the text. -/
def NoSeparator (m : Matcher) (text : List Char) (last : Nat) : Prop :=
  ∃ position, SoughtFrom m text last position ∧ (position.offset = byteLength text ∨
    m.find position = .ok none ∨ ∃ captures, m.find position = .ok (some captures) ∧
      captures.whole.start = byteLength text)

/-- All separators of a text from an offset on, one after the other. -/
def Separating (m : Matcher) (text : List Char) : (last : Nat) → List Captures → Prop
  | last, [] => NoSeparator m text last
  | last, captures :: later =>
    IsSeparator m text last captures ∧ Separating m text captures.whole.stop later

/-- What lies between separators from an offset on, and behind the last one. -/
def fragments (text : List Char) : (last : Nat) → List Captures → List String
  | last, [] => [between text last (byteLength text)]
  | last, captures :: later =>
    between text last captures.whole.start :: fragments text captures.whole.stop later

/-- The texts of separators. -/
def separatorTexts (text : List Char) (separators : List Captures) : List String :=
  separators.map fun captures => captures.whole.textIn text

/-- Fragments with lists of values between them, one after each fragment but the last. -/
def interleave : List String → List (List Json) → List Json
  | fragment :: fragments, values :: later => .str fragment :: values ++ interleave fragments later
  | fragments, _ => fragments.map .str

/-- Texts with other texts between them, one after each text but the last. -/
def weave : List String → List String → List String
  | fragment :: fragments, separator :: separators =>
    fragment :: separator :: weave fragments separators
  | fragments, _ => fragments

section

variable {m : Matcher} {text : List Char} {last : Nat} {position : Cursor} {captures : Captures}
  {separators : List Captures}

/-- A search starts nowhere before the offset after which a separator is sought. -/
lemma SoughtFrom.le (h : SoughtFrom m text last position) : last ≤ position.offset := by
  have hnext := lt_nextOffset text last
  obtain ⟨-, heq | ⟨heq, -⟩⟩ := h <;> omega

/-- What the search for a separator finds is one unless it stands at the end of the text or ends at
the offset. -/
lemma isSeparator_of_find (h : m.WellBehaved text) (hsought : SoughtFrom m text last position)
    (hfind : m.find position = .ok (some captures))
    (hlt : captures.whole.start < byteLength text) (hstop : captures.whole.stop ≠ last) :
    IsSeparator m text last captures := by
  obtain ⟨hstart, hwhole⟩ := (h position captures hsought.1 hfind).whole_in
  have hle := hsought.le
  have hlen := hwhole.1
  exact ⟨⟨position, hsought, hfind⟩, hwhole, by omega, hlt, by omega⟩

/-- Behind an empty match at the offset the search for a separator is made once more. -/
lemma SoughtFrom.next {next : Cursor} (h : m.WellBehaved text)
    (hsought : SoughtFrom m text last position) (hfind : m.find position = .ok (some captures))
    (hstop : captures.whole.stop = last) (ht : next.text = text)
    (hnext : next.offset = nextOffset text captures.whole.start) :
    SoughtFrom m text last next := by
  obtain ⟨hstart, hlen, -⟩ := (h position captures hsought.1 hfind).whole_in
  have hle := hsought.le
  -- the match starts and ends at the offset, so this was the first search
  have hfirst : position.offset = last := by omega
  have hwhole : captures.whole.start = last := by omega
  refine ⟨ht, Or.inr ⟨by rw [hnext, hwhole], position, captures, hsought.1, hfirst, hfind, ?_⟩⟩
  calc captures.whole = ⟨captures.whole.start, captures.whole.stop⟩ := rfl
    _ = ⟨last, last⟩ := by rw [hwhole, hstop]

lemma length_fragments : (fragments text last separators).length = separators.length + 1 := by
  induction separators generalizing last with
  | nil => rfl
  | cons captures later ih => rw [fragments, List.length_cons, ih, List.length_cons]

/-- Nothing is lost between separators. -/
theorem join_weave (hl : IsBoundary text last) (h : Separating m text last separators) :
    String.join (weave (fragments text last separators) (separatorTexts text separators)) =
      between text last (byteLength text) := by
  induction separators generalizing last with
  | nil => simp [fragments, separatorTexts, weave, String.join]
  | cons captures later ih =>
    obtain ⟨hseparator, hlater⟩ := h
    obtain ⟨hle, hstart, hstop⟩ := hseparator.whole_in
    have hrest := ih hstop hlater
    have hend := isBoundary_byteLength text
    rw [separatorTexts] at hrest ⊢
    rw [fragments, List.map_cons, weave, join_cons, join_cons, hrest, Span.textIn,
      between_append_between hstart hstop hend hle hstop.le,
      between_append_between hl hstart hend hseparator.le_start hstart.le]

/-- A fragment is empty only in front of a separator that is not. -/
lemma separator_ne_empty (hl : IsBoundary text last) (h : Separating m text last separators) :
    ∀ pair ∈ (fragments text last separators).zip (separatorTexts text separators),
      pair.1 = "" → pair.2 ≠ "" := by
  induction separators generalizing last with
  | nil => simp [separatorTexts]
  | cons captures later ih =>
    obtain ⟨hseparator, hlater⟩ := h
    obtain ⟨hle, hstart, hstop⟩ := hseparator.whole_in
    intro pair hpair
    simp only [fragments, separatorTexts, List.map_cons, List.zip_cons_cons,
      List.mem_cons] at hpair
    rcases hpair with rfl | hpair
    · intro hfragment hempty
      have heq := eq_of_between_eq_empty hl hstart hseparator.le_start hfragment
      have heq' := eq_of_between_eq_empty hstart hstop hle hempty
      have hlt := hseparator.lt_stop
      omega
    · exact ih hstop hlater pair hpair

/-- The last fragment is empty only behind a separator that ends the text and is not empty. -/
lemma last_separator (hl : IsBoundary text last) (hlt : last < byteLength text)
    (h : Separating m text last separators)
    (hempty : (fragments text last separators).getLast? = some "") :
    ∃ captures, separators.getLast? = some captures ∧ captures.whole.stop = byteLength text ∧
      captures.whole.textIn text ≠ "" := by
  induction separators generalizing last with
  | nil =>
    have hrest : between text last (byteLength text) = "" := by simpa [fragments] using hempty
    have heq := eq_of_between_eq_empty hl (isBoundary_byteLength text) hl.le hrest
    omega
  | cons captures later ih =>
    obtain ⟨hseparator, hlater⟩ := h
    obtain ⟨hle, hstart, hstop⟩ := hseparator.whole_in
    cases later with
    | nil =>
      have hrest : between text captures.whole.stop (byteLength text) = "" := by
        simpa [fragments] using hempty
      have hend := eq_of_between_eq_empty hstop (isBoundary_byteLength text) hstop.le hrest
      refine ⟨captures, rfl, hend, fun hnone => ?_⟩
      have heq := eq_of_between_eq_empty hstart hstop hle hnone
      have hlt := hseparator.start_lt
      omega
    | cons next later =>
      -- the next separator starts before the end of the text
      have hnext := Nat.lt_of_le_of_lt hlater.1.le_start hlater.1.start_lt
      exact ih hstop hnext hlater hempty

end

/-! ## Splitting -/

variable {p : Pattern} {text : List Char}

/-- What a round gives out goes in front of what the next rounds give out. -/
lemma map_append_eq_ok {result : Except EvalError (List Json)} {given values : List Json}
    (h : result.map (given ++ ·) = .ok values) : ∃ later, result = .ok later ∧
      values = given ++ later := by
  cases result with
  | error e => simp [Except.map] at h
  | ok later => exact ⟨later, rfl, (Except.ok.inj h).symm⟩

/-- The rounds of splitting take separators and give out what is between them. -/
theorem interleave_of_fragmentsFrom (h : p.matcher.FindsWithin text) {fuel : Nat}
    {last position : Cursor} {values : List Json} (hl : last.text = text)
    (hsought : SoughtFrom p.matcher text last.offset position)
    (hvalues : p.fragmentsFrom fuel last position = .ok values) :
    ∃ separators, Separating p.matcher text last.offset separators ∧
      values = interleave (fragments text last.offset separators)
        (separators.map fun captures => captures.groups.map (groupValue text)) := by
  induction fuel generalizing last position values with
  | zero => simp [fragmentsFrom] at hvalues
  | succ fuel ih =>
    rw [fragmentsFrom_succ] at hvalues
    obtain ⟨hround, hnone⟩ | ⟨e, hround, -⟩ |
      ⟨captures, next, hround, hfind, -, hstop, hnext, hoffset⟩ |
      ⟨captures, next, hround, hfind, hlt, hstop, hnext, hoffset⟩ :=
      splitRound_cases h hl hsought.1 hsought.le
    · rw [hround] at hvalues
      obtain rfl := Except.ok.inj hvalues
      exact ⟨[], ⟨position, hsought, hnone⟩, by rw [last.remaining_eq, hl]; rfl⟩
    · simp [hround, Except.bind] at hvalues
    · rw [hround] at hvalues
      obtain ⟨later, hlater, rfl⟩ := map_append_eq_ok hvalues
      exact ih hl (hsought.next h.wellBehaved hfind hstop hnext hoffset) hlater
    · rw [hround] at hvalues
      obtain ⟨later, hlater, rfl⟩ := map_append_eq_ok hvalues
      obtain ⟨separators, hseparating, rfl⟩ := ih hnext ⟨hnext, Or.inl rfl⟩ hlater
      have hseparator := isSeparator_of_find h.wellBehaved hsought hfind hlt hstop
      rw [hoffset] at hseparating ⊢
      exact ⟨captures :: separators, ⟨hseparator, hseparating⟩, rfl⟩

/-- When a text that is not empty has been split, nothing of it is lost: the values are what lies
between all separators, with the groups of each separator at its place. Fragments and separators in
turn make up the text. A fragment is empty only in front of a separator that is not empty, and the
last one only behind a separator that is not empty and ends the text. -/
theorem split_eq_interleave (p : Pattern) (text : String)
    (h : p.matcher.FindsWithin text.toList) (hne : text ≠ "") {values : List Json}
    (hsplit : p.split text = .ok values) :
    ∃ separators, Separating p.matcher text.toList 0 separators ∧
      values = interleave (fragments text.toList 0 separators)
        (separators.map fun captures => captures.groups.map (groupValue text.toList)) ∧
      String.join (weave (fragments text.toList 0 separators)
        (separatorTexts text.toList separators)) = text ∧
      (∀ pair ∈ (fragments text.toList 0 separators).zip (separatorTexts text.toList separators),
        pair.1 = "" → pair.2 ≠ "") ∧
      ((fragments text.toList 0 separators).getLast? = some "" →
        ∃ captures, separators.getLast? = some captures ∧
          captures.whole.stop = byteLength text.toList ∧
          captures.whole.textIn text.toList ≠ "") := by
  have hpos : 0 < byteLength text.toList := by
    refine Nat.pos_of_ne_zero fun hzero => hne ?_
    exact String.toList_eq_nil_iff.mp (byteLength_eq_zero.mp hzero)
  have hzero := isBoundary_zero text.toList
  rw [split_of_ne_empty p hne] at hsplit
  obtain ⟨separators, hseparating, hvalues⟩ := interleave_of_fragmentsFrom h
    (Cursor.text_start text.toList) ⟨Cursor.text_start text.toList, Or.inl rfl⟩ hsplit
  have hjoin := join_weave hzero hseparating
  rw [between_zero_byteLength, String.ofList_toList] at hjoin
  exact ⟨separators, hseparating, hvalues, hjoin, separator_ne_empty hzero hseparating,
    last_separator hzero hpos hseparating⟩

/-- A hyphen in front, two behind. -/
theorem split_eq_interleave_hyphens :
    let p : Pattern := ⟨"literal", "-", {}, PlainText.matcher ['-']⟩
    let values : List Json := [.str "", .null, .str "ã", .null, .str "", .null, .str ""]
    p.matcher.FindsWithin "-ã--".toList ∧ "-ã--" ≠ "" ∧ p.split "-ã--" = .ok values ∧
      ∃ separators, Separating p.matcher "-ã--".toList 0 separators ∧
        values = interleave (fragments "-ã--".toList 0 separators)
          (separators.map fun captures => captures.groups.map (groupValue "-ã--".toList)) ∧
        String.join (weave (fragments "-ã--".toList 0 separators)
          (separatorTexts "-ã--".toList separators)) = "-ã--" := by
  intro p values
  have hfinds : p.matcher.FindsWithin "-ã--".toList :=
    (PlainText.findsLeftmost ['-'] _).findsWithin (PlainText.groupsWithin ['-'] _)
  have hsplit : p.split "-ã--" = .ok values := by rfl
  obtain ⟨separators, hseparating, hvalues, hjoin, -, -⟩ :=
    split_eq_interleave p "-ã--" hfinds (by decide) hsplit
  exact ⟨hfinds, by decide, hsplit, separators, hseparating, hvalues, hjoin⟩

/-! ## Separators that are not empty -/

/-- Searches of a text do not fail, and what they find is not empty and has no groups. -/
structure FindsNonempty (m : Matcher) (text : List Char) : Prop where
  /-- What is found lies in the text from the position of the search on. -/
  wellBehaved : m.WellBehaved text
  /-- No search fails. -/
  total : ∀ position : Cursor, position.text = text → ∃ found, m.find position = .ok found
  /-- There is no entry but the one for the whole match. -/
  noGroups : ∀ (position : Cursor) (captures : Captures), position.text = text →
    m.find position = .ok (some captures) → captures.groups = []
  /-- No match is empty. -/
  nonempty : ∀ (position : Cursor) (captures : Captures), position.text = text →
    m.find position = .ok (some captures) → captures.whole.start < captures.whole.stop

lemma FindsNonempty.findsWithin {m : Matcher} (h : FindsNonempty m text) : m.FindsWithin text := by
  intro position captures ht hfind
  have hwithin := h.wellBehaved position captures ht hfind
  have hnone := h.noGroups position captures ht hfind
  exact ⟨hwithin, fun _ hspan => hwithin.span_in (by simp [hnone]) hspan⟩

/-- No search of the text fails, or finds an empty match or one with groups. -/
def searchesNonempty (m : Matcher) (text : List Char) : Bool :=
  (List.range (byteLength text + 1)).all fun offset =>
    ((Cursor.start text).seek? offset).all fun position =>
      match m.find position with
      | .error _ => false
      | .ok none => true
      | .ok (some captures) =>
        captures.groups.isEmpty && decide (captures.whole.start < captures.whole.stop)

/-- To try all positions is enough. -/
lemma findsNonempty_of_searches {m : Matcher} (h : m.WellBehaved text)
    (hall : searchesNonempty m text = true) : FindsNonempty m text := by
  have hcheck : ∀ position : Cursor, position.text = text → m.find position = .ok none ∨
      ∃ captures, m.find position = .ok (some captures) ∧ captures.groups = [] ∧
        captures.whole.start < captures.whole.stop := by
    intro position ht
    have hseek : (Cursor.start text).seek? position.offset = some position :=
      Cursor.seek?_offset (by rw [Cursor.text_start, ht])
    have hle := position.offset_le
    rw [ht] at hle
    have hone := List.all_eq_true.mp hall position.offset (List.mem_range.mpr (by omega))
    rw [hseek] at hone
    cases hfind : m.find position with
    | error e => simp [hfind] at hone
    | ok found =>
      cases found with
      | none => exact Or.inl rfl
      | some captures => exact Or.inr ⟨captures, rfl, by simpa [hfind] using hone⟩
  refine ⟨h, fun position ht => ?_, fun position captures ht hfind => ?_,
    fun position captures ht hfind => ?_⟩
  · obtain hnone | ⟨captures, hsome, -⟩ := hcheck position ht
    · exact ⟨none, hnone⟩
    · exact ⟨some captures, hsome⟩
  all_goals
    obtain hnone | ⟨captures', hsome, hgroups, hlt⟩ := hcheck position ht
    · simp [hfind] at hnone
    · rw [hfind] at hsome
      obtain rfl := Option.some.inj (Except.ok.inj hsome)
      assumption

/-- At the end of the text nothing is found. -/
lemma FindsNonempty.find_atEnd {m : Matcher} (h : FindsNonempty m text) {position : Cursor}
    (ht : position.text = text) (hend : position.offset = byteLength text) :
    m.find position = .ok none := by
  obtain ⟨found, hfind⟩ := h.total position ht
  cases found with
  | none => exact hfind
  | some captures =>
    obtain ⟨hle, -, -, hstop⟩ := (h.wellBehaved position captures ht hfind).whole_in
    have hlt := h.nonempty position captures ht hfind
    have hlen := hstop.le
    omega

/-- A match is a separator, and both the search for all matches and splitting go on at its end. -/
lemma FindsNonempty.goesOn {q : Pattern} (h : FindsNonempty q.matcher text) {position : Cursor}
    {captures : Captures} (ht : position.text = text)
    (hfind : q.matcher.find position = .ok (some captures)) :
    IsSeparator q.matcher text position.offset captures ∧ ∃ after : Cursor, after.text = text ∧
      after.offset = captures.whole.stop ∧ positionAfter position captures = .ok (some after) ∧
      q.splitRound position position = .ok (.goOn
        [.str (between text position.offset captures.whole.start)] after after) := by
  have hwithin := h.wellBehaved position captures ht hfind
  obtain ⟨hstart, -, -, hend⟩ := hwithin.whole_in
  have hnonempty := h.nonempty position captures ht hfind
  have hlt : captures.whole.start < byteLength text := Nat.lt_of_lt_of_le hnonempty hend.le
  have hstop : captures.whole.stop ≠ position.offset := by omega
  refine ⟨isSeparator_of_find h.wellBehaved ⟨ht, Or.inl rfl⟩ hfind hlt hstop, ?_⟩
  obtain ⟨after, hafter, hafterStop, hround⟩ :=
    splitRound_of_find h.findsWithin ht ht (Nat.le_refl _) hfind hlt hstop
  rw [h.noGroups position captures ht hfind] at hround
  refine ⟨after, hafter, hafterStop, ?_, hround⟩
  obtain ⟨next, hnext, htext, hoffset, -⟩ := positionAfter_of_within ht hwithin
  rw [Captures.resume_of_not_isEmpty (by simpa [Span.isEmpty] using hnonempty)] at hoffset
  cases next with
  | none =>
    -- the match would end behind the text
    have hle := hend.le
    simp only [offsetOf] at hoffset
    omega
  | some next =>
    rw [hnext, Cursor.eq_of_offset_eq ((htext next rfl).trans hafter.symm)
      (hoffset.trans hafterStop.symm)]

/-- The search for all matches and splitting, both from one position, go through the same
matches. -/
theorem Run.fragmentsFrom {q : Pattern} (h : FindsNonempty p.matcher text)
    (hq : q.matcher = p.matcher) (hg : p.flags.isGlobal = true) (hs : p.flags.sticky = false)
    {start : Option Cursor} {result : Except EvalError (List Captures)} (hrun : p.Run start result)
    {position : Cursor} (hposition : start = some position) (ht : position.text = text)
    {fuel : Nat} (hfuel : position.distance < fuel) :
    ∃ found, result = .ok found ∧ Separating p.matcher text position.offset found ∧
      q.fragmentsFrom fuel position position =
        .ok ((fragments text position.offset found).map .str) := by
  induction hrun generalizing position fuel with
  | past => simp at hposition
  | @failed position e hsearch =>
    obtain rfl := Option.some.inj hposition
    obtain ⟨found, hfind⟩ := h.total position ht
    rw [searchAt_eq_error.mp hsearch] at hfind
    simp at hfind
  | @nothing position hsearch =>
    obtain rfl := Option.some.inj hposition
    obtain ⟨fuel, rfl⟩ := Nat.exists_eq_add_one_of_ne_zero (Nat.ne_zero_of_lt hfuel)
    have hfind := find_of_searchAt hs hsearch
    rw [← hq] at hfind
    refine ⟨[], rfl, ⟨position, ⟨ht, Or.inl rfl⟩, Or.inr (Or.inl (hq ▸ hfind))⟩, ?_⟩
    rw [Pattern.fragmentsFrom_succ, splitRound_of_none hfind position]
    simp only [Except.bind, afterRound, position.remaining_eq, ht]
    rfl
  | single _ hng =>
    rw [hg] at hng
    exact absurd hng (by simp)
  | @more position next captures result hsearch _ hnext _ ih =>
    obtain rfl := Option.some.inj hposition
    obtain ⟨fuel, rfl⟩ := Nat.exists_eq_add_one_of_ne_zero (Nat.ne_zero_of_lt hfuel)
    have hfind := find_of_searchAt hs hsearch
    rw [← hq] at hfind h ⊢
    obtain ⟨hseparator, after, hafter, hoffset, hnext', hround⟩ := h.goesOn ht hfind
    rw [hnext] at hnext'
    have hlt := hseparator.lt_stop
    have hdistance := Cursor.distance_lt_of_offset_lt (hafter.trans ht.symm)
      (show position.offset < after.offset by omega)
    obtain ⟨later, rfl, hlater, hfragments⟩ :=
      @ih after (Except.ok.inj hnext') hafter fuel (by omega)
    rw [hoffset] at hlater hfragments
    refine ⟨captures :: later, rfl, ⟨hseparator, hq ▸ hlater⟩, ?_⟩
    rw [Pattern.fragmentsFrom_succ, hround]
    simp only [Except.bind, afterRound, hfragments]
    rfl

/-- A text is split at all its matches, whatever the flags are. -/
lemma FindsNonempty.split_eq {text : String} {q : Pattern}
    (h : FindsNonempty p.matcher text.toList) (hq : q.matcher = p.matcher)
    (hg : p.flags.isGlobal = true) (hs : p.flags.sticky = false) :
    ∃ found, p.allMatches text.toList = .ok found ∧ Separating p.matcher text.toList 0 found ∧
      q.split text = .ok ((fragments text.toList 0 found).map .str) := by
  have hstart := Cursor.text_start text.toList
  have hdistance : (Cursor.start text.toList).distance = text.toList.length := rfl
  have hrounds := Nat.mul_le_mul_right (text.toList.length + 2)
    (show 1 ≤ text.toList.length + 2 by omega)
  obtain ⟨found, hfound, hseparating, hsplit⟩ := (allMatches_run h.wellBehaved).fragmentsFrom h hq
    hg hs rfl hstart
    (show _ < (text.toList.length + 2) * (text.toList.length + 2) by rw [hdistance]; omega)
  refine ⟨found, hfound, hseparating, ?_⟩
  by_cases hempty : text = ""
  · subst hempty
    have hnone := h.find_atEnd hstart rfl
    rw [← hq] at hnone
    -- there is no place for a separator
    cases found with
    | nil =>
      rw [split, hnone]
      rfl
    | cons captures later => exact absurd hseparating.1.start_lt (Nat.not_lt_zero _)
  · rw [split_of_ne_empty q hempty]
    exact hsplit

/-- Filling in one text for all matches joins the fragments by it. -/
lemma fillIn_const {last : Nat} (output : String) (found : List Captures) :
    fillIn text last (found.map Captures.whole) (found.map fun _ => output) =
      output.intercalate (fragments text last found) := by
  induction found generalizing last with
  | nil => simp [fillIn, fragments]
  | cons captures later ih =>
    have hne : fragments text captures.whole.stop later ≠ [] := by
      rw [← List.length_pos_iff, length_fragments]
      omega
    rw [List.map_cons, List.map_cons, fillIn, ih, fragments,
      String.intercalate_cons_of_ne_nil hne]

/-- A pattern that is not global finds the first of the matches, if any; one that is sticky only if
it stands at the start. -/
lemma allMatches_first {q : Pattern} (h : p.matcher.WellBehaved text) (hq : q.matcher = p.matcher)
    (hs : p.flags.sticky = false) (hg : q.flags.isGlobal = false) {found : List Captures}
    (hfound : p.allMatches text = .ok found) :
    ∃ first, q.allMatches text = .ok first ∧ first <+: found.take 1 ∧
      (q.flags.sticky = false → first = found.take 1) := by
  have hfind := find_of_searchAt hs (hfound ▸ allMatches_run h).searchAt_eq
  rw [allMatches_of_not_global text hg, searchAt_eq, hq, hfind]
  cases found with
  | nil => exact ⟨[], rfl, List.prefix_rfl, fun _ => rfl⟩
  | cons captures later =>
    refine ⟨_, rfl, ?_, fun hsticky => by rw [hsticky]; rfl⟩
    rw [List.head?_cons, Option.filter_some]
    split
    · exact List.prefix_rfl
    · exact ⟨[captures], rfl⟩

/-- Matching, splitting and replacing agree where no search fails and no match is empty or has
groups. The fragments are one more than the matches, and both in turn make up the text; to replace
each match by one text is to join the fragments by it; and a replacement is called for each match,
or for the first one if the pattern is not global, up to the first call that fails. -/
theorem split_matchIn_agree (p : Pattern) (text : String)
    (h : FindsNonempty p.matcher text.toList) (hg : p.flags.isGlobal = true)
    (hs : p.flags.sticky = false) :
    ∃ matched fragments : List String, p.matchIn text = .ok (matched.map .str) ∧
      (∀ q : Pattern, q.matcher = p.matcher → q.split text = .ok (fragments.map .str)) ∧
      fragments.length = matched.length + 1 ∧
      String.join (weave fragments matched) = text ∧
      (∀ {σ : Type} (output : String) (state : σ),
        p.replaceWith text (fun _ state => (.ok output, state)) state =
          (.ok (output.intercalate fragments), state)) ∧
      (∀ {σ : Type} (replacement : Replacement σ) (state : σ), ∃ made,
        CallsFor replacement matched state made ∧
        ((∀ matched state, ∃ output, (replacement matched state).1 = .ok output) →
          made = matched) ∧
        p.replaceWith text (recorded replacement) (state, []) =
          ((p.replaceWith text replacement state).1, (p.replaceWith text replacement state).2,
            made)) ∧
      ∀ q : Pattern, q.matcher = p.matcher → q.flags.isGlobal = false →
        ∀ {σ : Type} (replacement : Replacement σ) (state : σ), ∃ made, made <+: matched.take 1 ∧
          (q.flags.sticky = false → CallsFor replacement (matched.take 1) state made) ∧
          q.replaceWith text (recorded replacement) (state, []) =
            ((q.replaceWith text replacement state).1, (q.replaceWith text replacement state).2,
              made) := by
  have hbehaved := h.wellBehaved
  obtain ⟨found, hfound, hseparating, -⟩ := h.split_eq rfl hg hs
  have hchained := chained_of_allMatches hbehaved hfound
  have hjoin := join_weave (isBoundary_zero _) hseparating
  rw [between_zero_byteLength, String.ofList_toList] at hjoin
  have hmatch := matchIn_of_allMatches hfound hchained hg
  refine ⟨separatorTexts text.toList found, fragments text.toList 0 found, ?_, ?_, ?_, hjoin, ?_,
    ?_, ?_⟩
  · rw [hmatch, separatorTexts, List.map_map]
    rfl
  · intro q hq
    obtain ⟨found', hfound', -, hsplit⟩ := h.split_eq hq hg hs
    rw [hfound] at hfound'
    rw [Except.ok.inj hfound', hsplit]
  · rw [length_fragments, separatorTexts, List.length_map]
  · intro σ output state
    rw [replaceWith_of_allMatches hfound hchained, callEach_pure fun _ => output, List.map_map]
    exact Prod.ext (congrArg Except.ok (fillIn_const output found)) rfl
  · intro σ replacement state
    obtain ⟨made, hmade, hcalls⟩ := replaceWith_recorded hfound hchained replacement state
    exact ⟨made, hmade, hmade.eq_of_ok, hcalls⟩
  · intro q hq hng σ replacement state
    obtain ⟨first, hfirst, hinitial, htake⟩ := allMatches_first hbehaved hq hs hng hfound
    have hchained' := chained_of_allMatches (hq ▸ hbehaved) hfirst
    obtain ⟨made, hmade, hcalls⟩ := replaceWith_recorded hfirst hchained' replacement state
    refine ⟨made, ?_, fun hsticky => ?_, hcalls⟩
    · rw [separatorTexts, ← List.map_take]
      exact hmade.isPrefix.trans (hinitial.map _)
    · rw [separatorTexts, ← List.map_take, ← htake hsticky]
      exact hmade

/-- Separators in front, side by side and at the end. -/
theorem split_matchIn_agree_separators :
    ∃ m, linearEngine.compile "[,;] ?" {} = .ok m ∧ FindsNonempty m ",ã;, ".toList ∧
      let p : Pattern := ⟨"linear", "[,;] ?", { isGlobal := true }, m⟩
      ∃ matched fragments : List String, p.matchIn ",ã;, " = .ok (matched.map .str) ∧
        p.split ",ã;, " = .ok (fragments.map .str) ∧ fragments.length = matched.length + 1 ∧
        String.join (weave fragments matched) = ",ã;, " ∧
        p.replaceWith ",ã;, " (fun _ state => (.ok "-", state)) () =
          (.ok ("-".intercalate fragments), ()) := by
  have hcheck : ((linearEngine.compile "[,;] ?" {}).toOption.any fun m =>
      searchesNonempty m ",ã;, ".toList) = true := by decide +kernel
  obtain ⟨m, hsome, hsearches⟩ := (Option.any_eq_true _ _).mp hcheck
  have hm := eq_ok_of_toOption hsome
  have hfinds : FindsNonempty m ",ã;, ".toList := findsNonempty_of_searches
    ((keepsContract_of_linear hm).findsWithin _).wellBehaved hsearches
  obtain ⟨matched, fragments, hmatch, hsplit, hlength, hjoin, hreplace, -, -⟩ :=
    split_matchIn_agree ⟨"linear", "[,;] ?", { isGlobal := true }, m⟩ ",ã;, " hfinds rfl rfl
  exact ⟨m, hm, hfinds, matched, fragments, hmatch, hsplit _ rfl, hlength, hjoin, hreplace _ _⟩

end Pattern

end TextExpr
