import TextExpr.Proofs.EngineSwap

/-!
# What the flags change

An engine is handed three of the flags. Patterns of one source that differ only in the others have
the same matcher, so their searches for matches can be compared round by round.

* `compile_eq_of_sameInline`: the engines make the same of the source;
* `matchesFrom_sticky`: a sticky search goes along with one that is not up to the first match that
  does not stand where it was searched for, and so gives the longest initial part of the matches
  that are `InPlace`;
* `runs_of_sameInline` says what each of the other flags changes, and what it does not.
-/

namespace TextExpr

/-! ## The flags that an engine is handed -/

/-- The flags that an engine is handed are the same. -/
def Flags.SameInline (flags flags' : Flags) : Prop :=
  flags.ignoreCase = flags'.ignoreCase ∧ flags.multiline = flags'.multiline ∧
    flags.dotAll = flags'.dotAll

lemma Flags.SameInline.apply_eq {flags flags' : Flags} (h : flags.SameInline flags')
    (source : String) : flags.apply source = flags'.apply source := by
  obtain ⟨hignore, hmultiline, hdot⟩ := h
  rw [apply, apply, inlineLetters, inlineLetters, hignore, hmultiline, hdot]

/-- Both engines make the same of a source under such flags. -/
lemma compile_eq_of_sameInline {engine : Engine} {flags flags' : Flags}
    (hengine : engine = linearEngine ∨ engine = backtrackingEngine)
    (h : flags.SameInline flags') (source : String) :
    engine.compile source flags = engine.compile source flags' := by
  rcases hengine with rfl | rfl
  · simp only [linearEngine, h.apply_eq]
  · simp only [backtrackingEngine, h.apply_eq]

lemma keepsAllButStart_of_compile {engine : Engine} {source : String} {flags : Flags} {m : Matcher}
    (hengine : engine = linearEngine ∨ engine = backtrackingEngine)
    (h : engine.compile source flags = .ok m) : m.KeepsAllButStart := by
  rcases hengine with rfl | rfl
  · exact (keepsContract_of_linear h).keepsAllButStart
  · exact (keepsContract_of_backtracking h).1

/-- Wherever a match starts, it starts in the text. -/
lemma Matcher.KeepsAllButStart.within {m : Matcher} (h : m.KeepsAllButStart) {position : Cursor}
    {captures : Captures} (hfind : m.find position = .ok (some captures)) :
    captures.Within position.text 0 := by
  obtain ⟨count, hcount⟩ := h
  exact (hcount position captures hfind).1.within

/-! ## Matches in place -/

/-- Each match starts exactly where it is searched for: the first one at an offset, and any other
one where the search goes on after the match before it. -/
def InPlace (text : List Char) : (position : Nat) → List Captures → Prop
  | _, [] => True
  | position, captures :: later =>
    captures.whole.start = position ∧ InPlace text (captures.resume text) later

/-- The longest initial part of matches that is in place. -/
structure LongestInPlace (text : List Char) (position : Nat) (found initial : List Captures) :
    Prop where
  /-- It is an initial part of the matches. -/
  begins : initial <+: found
  /-- It is in place. -/
  inPlace : InPlace text position initial
  /-- Any other initial part that is in place is no longer. -/
  longest : ∀ other, other <+: found → InPlace text position other → other <+: initial

namespace LongestInPlace

variable {text : List Char} {position : Nat} {captures : Captures} {later initial : List Captures}

lemma nil : LongestInPlace text position [] [] :=
  ⟨List.prefix_rfl, trivial, fun _ hother _ => hother⟩

/-- No match is in place behind one that is not. -/
lemma of_start_ne (h : captures.whole.start ≠ position) :
    LongestInPlace text position (captures :: later) [] := by
  refine ⟨List.nil_prefix, trivial, fun other hother hplace => ?_⟩
  cases other with
  | nil => exact List.prefix_rfl
  | cons first rest =>
    obtain ⟨rfl, -⟩ := List.cons_prefix_cons.mp hother
    exact absurd hplace.1 h

lemma cons (h : captures.whole.start = position)
    (hlater : LongestInPlace text (captures.resume text) later initial) :
    LongestInPlace text position (captures :: later) (captures :: initial) := by
  refine ⟨List.cons_prefix_cons.mpr ⟨rfl, hlater.begins⟩, ⟨h, hlater.inPlace⟩,
    fun other hother hplace => ?_⟩
  cases other with
  | nil => exact List.nil_prefix
  | cons first rest =>
    obtain ⟨rfl, hrest⟩ := List.cons_prefix_cons.mp hother
    exact List.cons_prefix_cons.mpr ⟨rfl, hlater.longest rest hrest hplace.2⟩

end LongestInPlace

namespace Pattern

/-! ## Two searches side by side -/

section

variable {p q : Pattern} {text : List Char} {found : List Captures}

/-- A sticky pattern keeps what is found in place. -/
lemma searchAt_sticky (hmatcher : q.matcher = p.matcher) (hs : p.flags.sticky = false)
    (hs' : q.flags.sticky = true) {position : Cursor} {found : Option Captures}
    (h : p.searchAt position = .ok found) :
    q.searchAt position = .ok (found.filter fun c => c.whole.start == position.offset) := by
  rw [searchAt_eq, hmatcher, find_of_searchAt hs h, hs']
  rfl

/-- The search for all matches begins with one from the start of the text. -/
lemma searchAt_of_allMatches (h : p.allMatches text = .ok found) :
    p.searchAt (Cursor.start text) = .ok found.head? := by
  rw [allMatches, matchesFrom] at h
  obtain ⟨first, hfirst, h⟩ := bind_eq_ok.mp h
  rw [hfirst]
  cases first with
  | none =>
    obtain rfl := pure_eq_ok.mp h
    rfl
  | some captures =>
    simp only at h
    split at h
    · obtain ⟨next, -, h⟩ := bind_eq_ok.mp h
      obtain ⟨later, -, h⟩ := bind_eq_ok.mp h
      obtain rfl := pure_eq_ok.mp h
      rfl
    · obtain rfl := pure_eq_ok.mp h
      rfl

/-- A search that wants one match takes the first one. -/
lemma allMatches_single (hmatcher : q.matcher = p.matcher)
    (hsticky : q.flags.sticky = p.flags.sticky) (hg' : q.flags.isGlobal = false)
    (h : p.allMatches text = .ok found) : q.allMatches text = .ok (found.take 1) := by
  rw [allMatches_of_not_global text hg', searchAt_congr hsticky hmatcher, searchAt_of_allMatches h]
  cases found <;> rfl

/-- One that is sticky besides takes it if it stands at the start of the text. -/
lemma allMatches_single_sticky (hmatcher : q.matcher = p.matcher) (hs : p.flags.sticky = false)
    (hs' : q.flags.sticky = true) (hg' : q.flags.isGlobal = false)
    (h : p.allMatches text = .ok found) :
    q.allMatches text = .ok (found.head?.filter fun c => c.whole.start == 0).toList := by
  rw [allMatches_of_not_global text hg',
    searchAt_sticky hmatcher hs hs' (searchAt_of_allMatches h)]
  rfl

/-- The sticky search from a position gives the longest initial part in place of what the other one
gives. The two make the same searches as long as they go on, so the rounds that suffice for one
suffice for the other, and nothing is asked of the matcher. -/
theorem matchesFrom_sticky (hmatcher : q.matcher = p.matcher) (hg : p.flags.isGlobal = true)
    (hs : p.flags.sticky = false) (hg' : q.flags.isGlobal = true) (hs' : q.flags.sticky = true)
    {fuel : Nat} {position : Option Cursor} (ht : ∀ c ∈ position, c.text = text)
    (h : p.matchesFrom fuel position = .ok found) :
    ∃ initial, q.matchesFrom fuel position = .ok initial ∧
      LongestInPlace text (offsetOf text position) found initial := by
  induction fuel generalizing position found with
  | zero => simp [matchesFrom] at h
  | succ fuel ih =>
    cases position with
    | none =>
      obtain rfl := Except.ok.inj h
      exact ⟨[], rfl, .nil⟩
    | some position =>
      rw [matchesFrom] at h
      obtain ⟨first, hfirst, h⟩ := bind_eq_ok.mp h
      have hsticky := searchAt_sticky hmatcher hs hs' hfirst
      rw [matchesFrom, hsticky]
      cases first with
      | none =>
        obtain rfl := pure_eq_ok.mp h
        exact ⟨[], rfl, .nil⟩
      | some captures =>
        simp only [hg, if_true] at h
        obtain ⟨next, hnext, h⟩ := bind_eq_ok.mp h
        obtain ⟨later, hlater, h⟩ := bind_eq_ok.mp h
        obtain rfl := pure_eq_ok.mp h
        by_cases hstart : captures.whole.start = position.offset
        · -- both searches go on after the match
          obtain ⟨htext, hoffset⟩ := offset_of_positionAfter (ht _ rfl) hnext
          obtain ⟨initial, hinitial, hlongest⟩ := ih htext hlater
          rw [hoffset] at hlongest
          refine ⟨captures :: initial, ?_, hlongest.cons hstart⟩
          rw [Option.filter_some, if_pos (beq_iff_eq.mpr hstart)]
          simp [hg', hnext, hinitial, bind, Except.bind, pure, Except.pure]
        · refine ⟨[], ?_, .of_start_ne hstart⟩
          rw [Option.filter_some, if_neg (by simpa using hstart)]
          rfl

/-- So does the sticky search of a whole text. -/
lemma allMatches_sticky (hmatcher : q.matcher = p.matcher) (hg : p.flags.isGlobal = true)
    (hs : p.flags.sticky = false) (hg' : q.flags.isGlobal = true) (hs' : q.flags.sticky = true)
    (h : p.allMatches text = .ok found) :
    ∃ initial, q.allMatches text = .ok initial ∧ LongestInPlace text 0 found initial := by
  refine matchesFrom_sticky hmatcher hg hs hg' hs' (fun c hc => ?_) h
  obtain rfl := Option.some.inj hc
  exact Cursor.text_start text

end

/-! ## All flags -/

/-- A pattern finds and replaces the first of some matches in a text and no other one. -/
structure FirstOnly (q : Pattern) (text : String) (found : List Captures) : Prop where
  /-- The first match is all that is found. -/
  allMatches : q.allMatches text.toList = .ok (found.take 1)
  /-- Without a match the text stays as it is, and the replacement is not called. -/
  replaceWith_nil : found = [] → ∀ {σ : Type} (replacement : Replacement σ) (state : σ),
    q.replaceWith text replacement state = (.ok text, state)
  /-- The first match is exchanged, and the text around it stays. -/
  replaceWith_cons : ∀ first later, found = first :: later →
    ∀ {σ : Type} (replacement : Replacement σ) (state : σ),
      q.replaceWith text replacement state =
        (replacement (first.whole.textIn text.toList) state).map
          (Except.map fun output => between text.toList 0 first.whole.start ++ output ++
            between text.toList first.whole.stop (byteLength text.toList)) id

/-- What the search of a pattern gives of matches that a global pattern finds which is not
sticky. -/
structure GivesOf (q : Pattern) (text : String) (found : List Captures) : Prop where
  /-- Without `g` and `y`, the first one. -/
  single : q.flags.isGlobal = false → q.flags.sticky = false → q.FirstOnly text found
  /-- With `g` and `y`, the longest initial part in place. -/
  sticky : q.flags.isGlobal = true → q.flags.sticky = true → ∃ initial,
    q.allMatches text.toList = .ok initial ∧ LongestInPlace text.toList 0 found initial
  /-- With `y` only, the first one if it starts at the start of the text. -/
  singleSticky : q.flags.isGlobal = false → q.flags.sticky = true →
    q.allMatches text.toList = .ok (found.head?.filter fun c => c.whole.start == 0).toList

/-- What patterns have in common that differ in no flag but `g`, `u` and `y`. -/
structure AlikeUpTo (p q : Pattern) : Prop where
  /-- If they differ in `u` only, they do the same. -/
  sameOnTexts : q.flags.isGlobal = p.flags.isGlobal → q.flags.sticky = p.flags.sticky →
    p.SameOnTexts q
  /-- Splitting depends on none of the three. -/
  split : ∀ text, q.split text = p.split text
  /-- Testing depends on `y` only. -/
  test : q.flags.sticky = p.flags.sticky → ∀ text, q.test text = p.test text
  /-- The search of one gives a part of what the other one finds. -/
  givesOf : p.flags.isGlobal = true → p.flags.sticky = false →
    ∀ (text : String) (found : List Captures), p.allMatches text.toList = .ok found →
      q.GivesOf text found

lemma flags_eq_of_compile {engine : Engine} {source letters : String} {flags : Flags} {p : Pattern}
    (hread : Flags.parse letters = .ok flags) (h : compile engine source letters = .ok p) :
    p.flags = flags ∧ engine.compile source p.flags = .ok p.matcher := by
  obtain ⟨parsed, matcher, hparsed, hmatcher, rfl⟩ := compile_eq_ok.mp h
  exact ⟨Except.ok.inj (hparsed.symm.trans hread), hmatcher⟩

/-- A pattern that is not global does with the first match what it does with all. -/
lemma firstOnly_of_allMatches {p q : Pattern} {text : String} {found : List Captures}
    (hmatcher : q.matcher = p.matcher) (hkeeps : p.matcher.KeepsAllButStart)
    (hs : p.flags.sticky = false) (hg' : q.flags.isGlobal = false) (hs' : q.flags.sticky = false)
    (hfound : p.allMatches text.toList = .ok found) : q.FirstOnly text found := by
  have hsingle := allMatches_single hmatcher (hs'.trans hs.symm) hg' hfound
  refine ⟨hsingle, ?_, ?_⟩
  · rintro rfl σ replacement state
    exact replaceWith_of_nil hsingle replacement state
  · rintro first later rfl σ replacement state
    -- a search from the start of the text finds nothing before it
    have hfind := find_of_searchAt hs (searchAt_of_allMatches hfound)
    have hwithin := hkeeps.within hfind
    rw [Cursor.text_start] at hwithin
    exact replaceWith_of_single hsingle hwithin replacement state

/-- Patterns with one matcher are alike up to these flags. -/
lemma alikeUpTo_of_matcher {p q : Pattern} (hmatcher : q.matcher = p.matcher)
    (hkeeps : p.matcher.KeepsAllButStart) : p.AlikeUpTo q where
  sameOnTexts hglobal hsticky := sameOnTexts_of_matcher hglobal hsticky hmatcher
  split := split_congr hmatcher
  test hsticky := test_congr hsticky hmatcher
  givesOf hg hs _ _ hfound := {
    single := fun hg' hs' => firstOnly_of_allMatches hmatcher hkeeps hs hg' hs' hfound
    sticky := fun hg' hs' => allMatches_sticky hmatcher hg hs hg' hs' hfound
    singleSticky := fun hg' hs' => allMatches_single_sticky hmatcher hs hs' hg' hfound }

/-- What the flags change that no engine is handed. A source is compiled under all of them or is
rejected under all, with the same error. `u` changes nothing, splitting does not depend on `g` and
`y`, and testing does not depend on `g`. Where the search of a global pattern that is not sticky
succeeds, the other searches give of its matches: without `g` the first one, which is all that is
replaced then; with `y` the longest initial part in place; with `y` and without `g` the first one if
it starts at the start of the text. -/
theorem runs_of_sameInline {engine : Engine} {letters letters' : String} {flags flags' : Flags}
    (hengine : engine = linearEngine ∨ engine = backtrackingEngine)
    (hread : Flags.parse letters = .ok flags) (hread' : Flags.parse letters' = .ok flags')
    (hsame : flags.SameInline flags') (source : String) :
    (∀ e, compile engine source letters = .error e ↔ compile engine source letters' = .error e) ∧
    ∀ p q, compile engine source letters = .ok p → compile engine source letters' = .ok q →
      p.flags = flags ∧ q.flags = flags' ∧ p.AlikeUpTo q := by
  have hcompile := compile_eq_of_sameInline hengine hsame source
  constructor
  · intro e
    rw [Flags.compile_eq_error, Flags.compile_eq_error, hread, hread']
    simp [hcompile]
  · intro p q hp hq
    obtain ⟨rfl, hm⟩ := flags_eq_of_compile hread hp
    obtain ⟨rfl, hm'⟩ := flags_eq_of_compile hread' hq
    have hmatcher : q.matcher = p.matcher := by
      rw [hcompile, hm'] at hm
      exact Except.ok.inj hm
    exact ⟨rfl, rfl, alikeUpTo_of_matcher hmatcher (keepsAllButStart_of_compile hengine hm)⟩

/-- The places in `ãba` in front of `ã` or `a`: both are found, but the second one does not stand
where the search goes on after the first. -/
theorem runs_of_sameInline_lookahead :
    ∃ p q, compile backtrackingEngine "(?=[ãa])" "g" = .ok p ∧
      compile backtrackingEngine "(?=[ãa])" "yug" = .ok q ∧ p.AlikeUpTo q ∧
      ∃ found initial, p.allMatches "ãba".toList = .ok found ∧
        q.allMatches "ãba".toList = .ok initial ∧
        LongestInPlace "ãba".toList 0 found initial ∧ found.length = 2 ∧ initial.length = 1 := by
  have hplain : ((compile backtrackingEngine "(?=[ãa])" "g").toOption.any fun p =>
      (p.allMatches "ãba".toList).toOption.any (·.length = 2)) = true := by decide +kernel
  have hsticky : ((compile backtrackingEngine "(?=[ãa])" "yug").toOption.any fun q =>
      (q.allMatches "ãba".toList).toOption.any (·.length = 1)) = true := by decide +kernel
  obtain ⟨p, hsome, hsearch⟩ := (Option.any_eq_true _ _).mp hplain
  obtain ⟨q, hsome', hsearch'⟩ := (Option.any_eq_true _ _).mp hsticky
  obtain ⟨found, hfound, hlength⟩ := (Option.any_eq_true _ _).mp hsearch
  obtain ⟨initial, hinitial, hlength'⟩ := (Option.any_eq_true _ _).mp hsearch'
  have hp := eq_ok_of_toOption hsome
  have hq := eq_ok_of_toOption hsome'
  have hfound := eq_ok_of_toOption hfound
  have hinitial := eq_ok_of_toOption hinitial
  have hread : Flags.parse "g" = .ok { isGlobal := true } := rfl
  have hread' : Flags.parse "yug" = .ok { isGlobal := true, unicode := true, sticky := true } := rfl
  obtain ⟨-, hruns⟩ :=
    runs_of_sameInline (Or.inr rfl) hread hread' ⟨rfl, rfl, rfl⟩ "(?=[ãa])"
  obtain ⟨hflags, hflags', halike⟩ := hruns p q hp hq
  have hgives := halike.givesOf (by rw [hflags]) (by rw [hflags]) "ãba" found hfound
  obtain ⟨initial', hinitial', hinPlace⟩ := hgives.sticky (by rw [hflags']) (by rw [hflags'])
  obtain rfl := Except.ok.inj (hinitial.symm.trans hinitial')
  exact ⟨p, q, hp, hq, halike, found, initial, hfound, hinitial, hinPlace,
    of_decide_eq_true hlength, of_decide_eq_true hlength'⟩

end Pattern

end TextExpr
