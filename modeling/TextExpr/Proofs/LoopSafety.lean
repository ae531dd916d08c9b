import TextExpr.Proofs.Split

/-!
# The loops over the matches

With a matcher whose matches lie in the text, the loops that find all matches, replace them and
split at them end, and they cut out nothing but stretches of the text that run forward.

* `loopsEnd_of_findsWithin` says so of their results;
* `splitRound` is one round of splitting, and `fragmentsFrom_succ` says that splitting is made of
  such rounds; `splitRound_cases` says all that a round can come to;
* `loops_advance` adds what drives the loops: the position of the searches moves on, and so does
  the pair of positions that splitting keeps, in lexicographic order.
-/

namespace TextExpr

namespace Pattern

/-! ## Results -/

/-- The result is a value or an error of the matcher itself, which a search in the text gave: the
loops have added no sign of a search that does not end or of a range that does not run forward. -/
def EndsWell {α : Type} (m : Matcher) (text : List Char) (result : Except EvalError α) : Prop :=
  ∀ e, result = .error e → ∃ position : Cursor, position.text = text ∧ m.find position = .error e

/-- What the loops over the matches in a text come to. -/
structure LoopsEnd (p : Pattern) (text : String) : Prop where
  /-- Each search starts after the one before it. -/
  increasing : ∀ (position next : Cursor) (captures : Captures), p.Searched text.toList position →
    p.searchAt position = .ok (some captures) →
    positionAfter position captures = .ok (some next) → position.offset < next.offset
  /-- Matches do not overlap. -/
  disjoint : ∀ found, p.allMatches text.toList = .ok found → found.IsChain fun a b =>
    a.whole.start < b.whole.start ∧ a.whole.stop ≤ b.whole.start
  /-- All matches are found. -/
  allMatches : EndsWell p.matcher text.toList (p.allMatches text.toList)
  /-- Their texts are cut out. -/
  matchIn : EndsWell p.matcher text.toList (p.matchIn text)
  /-- They are replaced, if the replacement does not fail. -/
  replaceWith : ∀ {σ : Type} (replacement : Replacement σ) (state : σ) (e : EvalError),
    (p.replaceWith text replacement state).1 = .error e →
      (∃ position : Cursor, position.text = text.toList ∧ p.matcher.find position = .error e) ∨
        ∃ matched state, (replacement matched state).1 = .error e
  /-- The text is split at them. -/
  split : EndsWell p.matcher text.toList (p.split text)

variable {p : Pattern} {text : List Char}

lemma EndsWell.ok {α : Type} {m : Matcher} (a : α) : EndsWell m text (.ok a) :=
  fun _ h => absurd h (by simp)

lemma EndsWell.find {α : Type} {m : Matcher} {position : Cursor} {e : EvalError}
    (ht : position.text = text) (h : m.find position = .error e) :
    EndsWell m text (.error e : Except EvalError α) :=
  fun _ he => ⟨position, ht, Except.error.inj he ▸ h⟩

/-- An error that is passed on ends as well as where it came from. -/
lemma EndsWell.error {α β : Type} {m : Matcher} {e : EvalError}
    (h : EndsWell m text (.error e : Except EvalError α)) :
    EndsWell m text (.error e : Except EvalError β) :=
  fun e' he => h e' (Except.error.inj he ▸ rfl)

lemma endsWell_allMatches (h : p.matcher.WellBehaved text) :
    EndsWell p.matcher text (p.allMatches text) := by
  intro e he
  obtain ⟨position, hs, hfind⟩ := find_error_of_allMatches h he
  exact ⟨position, hs.text_eq h, hfind⟩

lemma endsWell_matchIn {text : String} (h : p.matcher.FindsWithin text.toList) :
    EndsWell p.matcher text.toList (p.matchIn text) := by
  have hbehaved := h.wellBehaved
  cases hg : p.flags.isGlobal with
  | true =>
    cases hfound : p.allMatches text.toList with
    | error e =>
      have hends := endsWell_allMatches hbehaved
      rw [hfound] at hends
      rw [matchIn, hfound]
      exact hends.error
    | ok found =>
      rw [matchIn_of_allMatches hfound (chained_of_allMatches hbehaved hfound) hg]
      exact .ok _
  | false =>
    rw [matchIn_of_not_global h hg]
    cases hs : p.searchAt (Cursor.start text.toList) with
    | error e => exact .find (Cursor.text_start _) (searchAt_eq_error.mp hs)
    | ok found => exact .ok _

lemma error_of_callEach {σ : Type} {replacement : Replacement σ} {texts : List String} {state : σ}
    {e : EvalError} (h : (callEach replacement texts state).1 = .error e) :
    ∃ matched state, (replacement matched state).1 = .error e := by
  induction texts generalizing state with
  | nil => simp [callEach] at h
  | cons matched later ih =>
    rw [callEach] at h
    split at h
    · next e' after hcall =>
      obtain rfl := Except.error.inj h
      exact ⟨matched, state, by rw [hcall]⟩
    · next output after hcall =>
      refine @ih after ?_
      cases hlater : (callEach replacement later after).1 with
      | error e' => simpa [hlater, Except.map] using h
      | ok outputs => simp [hlater, Except.map] at h

lemma error_of_replaceWith {σ : Type} {text : String} (h : p.matcher.WellBehaved text.toList)
    {replacement : Replacement σ} {state : σ} {e : EvalError}
    (he : (p.replaceWith text replacement state).1 = .error e) :
    (∃ position : Cursor, position.text = text.toList ∧ p.matcher.find position = .error e) ∨
      ∃ matched state, (replacement matched state).1 = .error e := by
  cases hfound : p.allMatches text.toList with
  | error e' =>
    simp only [replaceWith, hfound] at he
    obtain rfl := Except.error.inj he
    exact Or.inl (endsWell_allMatches h e' hfound)
  | ok found =>
    rw [replaceWith_of_allMatches hfound (chained_of_allMatches h hfound)] at he
    cases hcalls : callEach replacement (found.map fun c => c.whole.textIn text.toList) state with
    | mk outputs after =>
      rw [hcalls] at he
      cases outputs with
      | error e' =>
        obtain rfl := Except.error.inj he
        exact Or.inr (error_of_callEach (congrArg Prod.fst hcalls))
      | ok outputs => simp [Except.map] at he

/-- Splitting from match to match ends. -/
lemma Fragments.endsWell (h : p.matcher.FindsWithin text) {last position : Cursor}
    {result : Except EvalError (List Json)} (hrun : p.Fragments last position result)
    (ht : position.text = text) : EndsWell p.matcher text result := by
  induction hrun with
  | done _ => exact .ok _
  | failed _ hfind => exact .find ht hfind
  | nothing _ _ => exact .ok _
  | atEnd _ _ _ _ => exact .ok _
  | skip _ _ hseek hnext _ _ ih =>
    exact ih ((Cursor.text_next? hnext).trans ((Cursor.seek?_eq_some_iff.mp hseek).1.trans ht))
  | @cut last position first after captures result _ hfind hseek _ _ hafter _ _ ih =>
    have hends := ih (hafter.trans ht)
    -- the groups can be cut out, so only the rest may fail
    rw [mapM_groups h ht hfind ((Cursor.seek?_eq_some_iff.mp hseek).1.trans ht)]
    cases result with
    | error e => exact hends.error
    | ok later => exact .ok _

lemma endsWell_split {text : String} (h : p.matcher.FindsWithin text.toList) :
    EndsWell p.matcher text.toList (p.split text) := by
  cases hend : (Cursor.start text.toList).atEnd with
  | true =>
    rw [split, if_pos hend]
    cases hfind : p.matcher.find (Cursor.start text.toList) with
    | error e => exact .find (Cursor.text_start _) hfind
    | ok found => exact .ok _
  | false => exact (fragments_split h.wellBehaved hend).endsWell h (Cursor.text_start _)

/-- Where matches lie in the text, the loops over them end. -/
theorem loopsEnd_of_findsWithin {text : String} (h : p.matcher.FindsWithin text.toList) :
    p.LoopsEnd text where
  increasing _ _ _ hs hsearch hnext := hs.offset_lt h.wellBehaved hsearch hnext
  disjoint _ hfound := (chained_of_allMatches h.wellBehaved hfound).isChain
  allMatches := endsWell_allMatches h.wellBehaved
  matchIn := endsWell_matchIn h
  replaceWith _ _ _ he := error_of_replaceWith h.wellBehaved he
  split := endsWell_split h

/-! ## Rounds of splitting -/

/-- What a round of splitting comes to. -/
inductive SplitRound where
  /-- What is left of the text is the last fragment. -/
  | leave
  /-- Values are given out, and the next round starts where the last separator ended and where the
  next search starts. -/
  | goOn (given : List Json) (last position : Cursor)

/-- One round of splitting: a search, and what is done with what it finds. -/
def splitRound (p : Pattern) (last position : Cursor) : Except EvalError SplitRound := do
  if position.atEnd then return .leave
  match ← p.matcher.find position with
  | none => return .leave
  | some captures =>
    let first ← orMalformed (position.seek? captures.whole.start)
    if first.atEnd then return .leave
    if captures.whole.stop = last.offset then
      let next ← orMalformed first.next?
      return .goOn [] last next
    else
      let (gap, _, next) ← orMalformed (cut? last captures)
      let groups ← captures.groups.mapM (spanValue first)
      return .goOn (.str gap :: groups) next next

/-- The values that are given out from a round on. -/
def afterRound (p : Pattern) (fuel : Nat) (last : Cursor) :
    SplitRound → Except EvalError (List Json)
  | .leave => .ok [.str last.remaining]
  | .goOn given last position => (p.fragmentsFrom fuel last position).map (given ++ ·)

/-- Splitting is one round after the other. -/
theorem fragmentsFrom_succ (p : Pattern) (fuel : Nat) (last position : Cursor) :
    p.fragmentsFrom (fuel + 1) last position =
      (p.splitRound last position).bind (p.afterRound fuel last) := by
  rw [fragmentsFrom, splitRound]
  -- both make the same choices up to the point where the round ends
  cases hend : position.atEnd with
  | true => rfl
  | false =>
    cases hfind : p.matcher.find position with
    | error e => rfl
    | ok found =>
      cases found with
      | none => rfl
      | some captures =>
        simp only [bind, Except.bind, Bool.false_eq_true, if_false]
        cases hfirst : position.seek? captures.whole.start with
        | none => rfl
        | some first =>
          simp only [orMalformed]
          cases hfend : first.atEnd with
          | true => rfl
          | false =>
            simp only [Bool.false_eq_true, if_false]
            by_cases hstop : captures.whole.stop = last.offset
            · rw [if_pos hstop, if_pos hstop]
              cases first.next? with
              | none => rfl
              | some next =>
                simp only [pure, Except.pure, afterRound]
                cases p.fragmentsFrom fuel last next <;> rfl
            · rw [if_neg hstop, if_neg hstop]
              cases cut? last captures with
              | none => rfl
              | some cut =>
                cases captures.groups.mapM (spanValue first) with
                | error e => rfl
                | ok groups =>
                  simp only [pure, Except.pure, afterRound]
                  cases p.fragmentsFrom fuel cut.2.2 cut.2.2 <;> rfl

/-- Where nothing is found, the round leaves. -/
lemma splitRound_of_none {position : Cursor} (h : p.matcher.find position = .ok none)
    (last : Cursor) : p.splitRound last position = .ok .leave := by
  rw [splitRound, h]
  cases position.atEnd <;> rfl

/-- All that a round can come to where matches lie in the text: it leaves at the end of the text,
where no match is found and where one is found at the end of the text; it fails if the search
fails; it goes on one character after a match that ends where the last separator did; and it goes
on at the end of any other match, which is a separator. -/
theorem splitRound_cases (h : p.matcher.FindsWithin text) {last position : Cursor}
    (hl : last.text = text) (ht : position.text = text) (hle : last.offset ≤ position.offset) :
    (p.splitRound last position = .ok .leave ∧ (position.offset = byteLength text ∨
      p.matcher.find position = .ok none ∨ ∃ captures,
        p.matcher.find position = .ok (some captures) ∧
          captures.whole.start = byteLength text)) ∨
    (∃ e, p.splitRound last position = .error e ∧ p.matcher.find position = .error e) ∨
    (∃ captures next, p.splitRound last position = .ok (.goOn [] last next) ∧
      p.matcher.find position = .ok (some captures) ∧ captures.whole.start < byteLength text ∧
      captures.whole.stop = last.offset ∧ next.text = text ∧
      next.offset = nextOffset text captures.whole.start) ∨
    ∃ captures next, p.splitRound last position =
        .ok (.goOn (.str (between text last.offset captures.whole.start) ::
          captures.groups.map (groupValue text)) next next) ∧
      p.matcher.find position = .ok (some captures) ∧ captures.whole.start < byteLength text ∧
      captures.whole.stop ≠ last.offset ∧ next.text = text ∧
      next.offset = captures.whole.stop := by
  rw [splitRound]
  cases hend : position.atEnd with
  | true =>
    have hlen := (Cursor.atEnd_iff_offset position).mp hend
    exact Or.inl ⟨rfl, Or.inl (ht ▸ hlen)⟩
  | false =>
    cases hfind : p.matcher.find position with
    | error e => exact Or.inr (Or.inl ⟨e, rfl, rfl⟩)
    | ok found =>
      cases found with
      | none => exact Or.inl ⟨rfl, Or.inr (Or.inl rfl)⟩
      | some captures =>
        have hwithin := h.wellBehaved position captures ht hfind
        obtain ⟨first, stop, hfirst, -, hwhole, -, -⟩ := hwithin.exists_cursors
        have hstart : captures.whole.start = first.offset := by rw [hwhole]
        have hseek : position.seek? captures.whole.start = some first := by
          rw [hstart]
          exact Cursor.seek?_offset (hfirst.trans ht.symm)
        simp only [bind, Except.bind, Bool.false_eq_true, if_false, hseek, orMalformed]
        cases hfend : first.atEnd with
        | true =>
          have hlen := (Cursor.atEnd_iff_offset first).mp hfend
          rw [hfirst] at hlen
          exact Or.inl ⟨rfl, Or.inr (Or.inr ⟨captures, rfl, hstart.trans hlen⟩)⟩
        | false =>
          have hlt : captures.whole.start < byteLength text :=
            hstart ▸ offset_lt_of_not_atEnd hfirst hfend
          simp only [Bool.false_eq_true, if_false]
          refine Or.inr (Or.inr ?_)
          by_cases hstop : captures.whole.stop = last.offset
          · cases hnext : first.next? with
            | none =>
              rw [(Cursor.next?_eq_none_iff first).mp hnext] at hfend
              exact absurd hfend (by simp)
            | some next =>
              rw [if_pos hstop]
              refine Or.inl ⟨captures, next, rfl, rfl, hlt, hstop, ?_, ?_⟩
              · exact (Cursor.text_next? hnext).trans hfirst
              · rw [hstart, Cursor.nextOffset_of_next? hfirst hnext]
          · obtain ⟨next, hnext, hoffset, hcut⟩ := cut?_of_within hl (hwithin.mono hle)
            rw [if_neg hstop, hcut]
            simp only [mapM_groups h ht hfind hfirst]
            exact Or.inr ⟨captures, next, rfl, rfl, hlt, hstop, hnext, hoffset⟩

/-- A match that starts before the end of the text and does not end where the last separator did is
cut out. -/
lemma splitRound_of_find (h : p.matcher.FindsWithin text) {last position : Cursor}
    {captures : Captures} (hl : last.text = text) (ht : position.text = text)
    (hle : last.offset ≤ position.offset) (hfind : p.matcher.find position = .ok (some captures))
    (hlt : captures.whole.start < byteLength text) (hstop : captures.whole.stop ≠ last.offset) :
    ∃ next : Cursor, next.text = text ∧ next.offset = captures.whole.stop ∧
      p.splitRound last position =
        .ok (.goOn (.str (between text last.offset captures.whole.start) ::
          captures.groups.map (groupValue text)) next next) := by
  have hstart := (h.wellBehaved position captures ht hfind).whole_in.1
  have hcases := splitRound_cases h hl ht hle
  simp only [hfind, Except.ok.injEq, Option.some.injEq, reduceCtorEq, false_or,
    exists_eq_left'] at hcases
  obtain ⟨-, hend⟩ | ⟨_, -, hfalse⟩ | ⟨_, _, -, rfl, -, heq, -⟩ |
    ⟨_, next, hround, rfl, -, -, hnext, hoffset⟩ := hcases
  · omega
  · exact hfalse.elim
  · exact absurd heq hstop
  · exact ⟨next, hnext, hoffset, hround⟩

/-- A round that goes on moves the search on, and the last separator stays; or both come to stand at
the end of a separator, which the last one did not reach. -/
lemma splitRound_eq_goOn (h : p.matcher.FindsWithin text)
    {last position last' position' : Cursor} {given : List Json} (hl : last.text = text)
    (ht : position.text = text) (hle : last.offset ≤ position.offset)
    (hround : p.splitRound last position = .ok (.goOn given last' position')) :
    position'.text = text ∧ ((last' = last ∧ position.offset < position'.offset) ∨
      (last' = position' ∧ last.offset < position'.offset ∧
        position.offset ≤ position'.offset)) := by
  obtain ⟨hleave, -⟩ | ⟨e, herror, -⟩ |
    ⟨captures, next, hskip, hfind, -, hstop, hnext, hoffset⟩ |
    ⟨captures, next, hcut, hfind, -, hstop, hnext, hoffset⟩ := splitRound_cases h hl ht hle
  · rw [hleave] at hround
    simp at hround
  · rw [herror] at hround
    simp at hround
  · rw [hskip] at hround
    obtain ⟨-, rfl, rfl⟩ := SplitRound.goOn.inj (Except.ok.inj hround)
    obtain ⟨hstart, -⟩ := (h.wellBehaved position captures ht hfind).whole_in
    have hlt := lt_nextOffset text captures.whole.start
    exact ⟨hnext, Or.inl ⟨rfl, by omega⟩⟩
  · rw [hcut] at hround
    obtain ⟨-, rfl, rfl⟩ := SplitRound.goOn.inj (Except.ok.inj hround)
    obtain ⟨hstart, hlen, -⟩ := (h.wellBehaved position captures ht hfind).whole_in
    exact ⟨hnext, Or.inr ⟨rfl, by omega, by omega⟩⟩

/-- A round that goes on keeps its two positions in the text and in order, and moves one of them:
past a separator both come to stand at its end, and otherwise only the search moves on. -/
theorem splitRound_advances (h : p.matcher.FindsWithin text)
    {last position last' position' : Cursor} {given : List Json} (hl : last.text = text)
    (ht : position.text = text) (hle : last.offset ≤ position.offset)
    (hround : p.splitRound last position = .ok (.goOn given last' position')) :
    last'.text = text ∧ position'.text = text ∧ last'.offset ≤ position'.offset ∧
      Prod.Lex (· < ·) (· < ·) (last.offset, position.offset) (last'.offset, position'.offset) := by
  obtain ⟨htext, ⟨rfl, hlt⟩ | ⟨rfl, hlt, -⟩⟩ := splitRound_eq_goOn h hl ht hle hround
  · exact ⟨hl, htext, by omega, .right _ hlt⟩
  · exact ⟨htext, htext, Nat.le_refl _, .left _ _ hlt⟩

/-- A round that goes on leaves fewer rounds to be made. -/
lemma splitRound_roundsLeft (h : p.matcher.FindsWithin text)
    {last position last' position' : Cursor} {given : List Json} (hl : last.text = text)
    (ht : position.text = text) (hle : last.offset ≤ position.offset)
    (hround : p.splitRound last position = .ok (.goOn given last' position')) :
    roundsLeft last' position' < roundsLeft last position := by
  unfold roundsLeft
  obtain ⟨htext, ⟨rfl, hlt⟩ | ⟨rfl, hlt, hge⟩⟩ := splitRound_eq_goOn h hl ht hle hround
  · have hdist := Cursor.distance_lt_of_offset_lt (htext.trans ht.symm) hlt
    split <;> split <;> omega
  · rw [if_pos rfl]
    rcases Nat.eq_or_lt_of_le hge with heq | hfurther
    · -- `last` lay behind and has caught up
      have hdist := Cursor.distance_le_of_offset_le (htext.trans ht.symm) hge
      rw [if_neg (by omega)]
      omega
    · have hdist := Cursor.distance_lt_of_offset_lt (htext.trans ht.symm) hfurther
      omega

/-- The positions from which the rounds of splitting a text start. -/
inductive RoundFrom (p : Pattern) (text : List Char) : Cursor → Cursor → Prop
  /-- The first round starts at the start of the text. -/
  | start : RoundFrom p text (Cursor.start text) (Cursor.start text)
  /-- A round that goes on leads to the next one. -/
  | next {last position given last' position'} : RoundFrom p text last position →
      p.splitRound last position = .ok (.goOn given last' position') →
      RoundFrom p text last' position'

/-- So the positions of all rounds lie in the text and are in order. -/
theorem RoundFrom.inOrder (h : p.matcher.FindsWithin text) {last position : Cursor}
    (hr : p.RoundFrom text last position) :
    last.text = text ∧ position.text = text ∧ last.offset ≤ position.offset := by
  induction hr with
  | start => exact ⟨Cursor.text_start text, Cursor.text_start text, Nat.le_refl _⟩
  | next _ hround ih =>
    obtain ⟨hl, ht, hle⟩ := ih
    obtain ⟨hl', ht', hle', -⟩ := splitRound_advances h hl ht hle hround
    exact ⟨hl', ht', hle'⟩

/-- A text that is not empty is split in rounds. -/
lemma split_of_ne_empty (p : Pattern) {text : String} (hne : text ≠ "") :
    p.split text = p.fragmentsFrom ((text.toList.length + 2) * (text.toList.length + 2))
      (Cursor.start text.toList) (Cursor.start text.toList) := by
  have hstart : (Cursor.start text.toList).atEnd = false := by
    rw [Cursor.atEnd, Cursor.start, List.isEmpty_eq_false_iff]
    simpa using hne
  rw [split, if_neg (by simp [hstart])]

/-- What splitting comes to from a round on ends what it comes to as a whole. -/
lemma RoundFrom.split_eq {text : String} (h : p.matcher.FindsWithin text.toList) (hne : text ≠ "")
    {last position : Cursor} (hr : p.RoundFrom text.toList last position) :
    ∃ before fuel, roundsLeft last position < fuel ∧
      p.split text = (p.fragmentsFrom fuel last position).map (before ++ ·) := by
  induction hr with
  | start =>
    refine ⟨[], (text.toList.length + 2) * (text.toList.length + 2), roundsLeft_start _, ?_⟩
    rw [split_of_ne_empty p hne]
    cases p.fragmentsFrom _ (Cursor.start text.toList) (Cursor.start text.toList) <;> rfl
  | @next last position given last' position' hr' hround ih =>
    obtain ⟨before, fuel, hfuel, hsplit⟩ := ih
    obtain ⟨hl, ht, hle⟩ := hr'.inOrder h
    have hless := splitRound_roundsLeft h hl ht hle hround
    cases fuel with
    | zero => exact absurd hfuel (Nat.not_lt_zero _)
    | succ fuel =>
      refine ⟨before ++ given, fuel, by omega, ?_⟩
      rw [hsplit, fragmentsFrom_succ, hround]
      simp only [Except.bind, afterRound]
      cases p.fragmentsFrom fuel last' position' with
      | error e => rfl
      | ok later => simp [Except.map]

/-- What the search comes to from one of its positions on ends what it comes to as a whole. -/
lemma Searched.allMatches_eq (h : p.matcher.WellBehaved text) {position : Cursor}
    (hs : p.Searched text position) :
    ∃ before fuel, searchesLeft (some position) < fuel ∧
      p.allMatches text = (p.matchesFrom fuel (some position)).map (before ++ ·) := by
  obtain ⟨before, hbefore⟩ := hs.run_start
  refine ⟨before, searchesLeft (some position) + 1, Nat.lt_succ_self _, ?_⟩
  have hrun : p.Run (some position) (p.matchesFrom _ (some position)) :=
    run_matchesFrom h (fun c hc => Option.some.inj hc ▸ hs.text_eq h) (Nat.lt_succ_self _)
  exact (allMatches_run h).unique (hbefore _ hrun)

/-- With a matcher whose matches lie in the text, the loops over them end, without a stretch of the
text that is out of bounds, runs backwards or begins or ends inside of a character. The search for
all matches goes from boundary to boundary, each time further on and to the end of the match at
least, and past the end of the text by one at most; there the matcher is not asked. When splitting,
the end of the last separator and the position of the search are boundaries in order, and each round
that does not leave the loop moves this pair on. -/
theorem loops_advance (p : Pattern) (text : String) (h : p.matcher.FindsWithin text.toList) :
    p.LoopsEnd text ∧
    (∀ position, p.Searched text.toList position →
      (∃ before fuel, searchesLeft (some position) < fuel ∧ p.allMatches text.toList =
        (p.matchesFrom fuel (some position)).map (before ++ ·)) ∧
      IsBoundary text.toList position.offset ∧ position.offset ≤ byteLength text.toList ∧
      ∀ captures, p.searchAt position = .ok (some captures) →
        position.offset ≤ captures.whole.start ∧ ∃ next,
        positionAfter position captures = .ok next ∧
        (∀ c ∈ next, IsBoundary text.toList c.offset) ∧
        position.offset < offsetOf text.toList next ∧
        captures.whole.stop ≤ offsetOf text.toList next ∧
        offsetOf text.toList next ≤ byteLength text.toList + 1) ∧
    ∀ last position, p.RoundFrom text.toList last position →
      (text ≠ "" → ∃ before fuel, roundsLeft last position < fuel ∧ p.split text =
        (p.fragmentsFrom fuel last position).map (before ++ ·)) ∧
      IsBoundary text.toList last.offset ∧ IsBoundary text.toList position.offset ∧
      last.offset ≤ position.offset ∧ position.offset ≤ byteLength text.toList ∧
      (∀ e, p.splitRound last position = .error e → p.matcher.find position = .error e) ∧
      ∀ given last' position', p.splitRound last position = .ok (.goOn given last' position') →
        Prod.Lex (· < ·) (· < ·) (last.offset, position.offset)
          (last'.offset, position'.offset) := by
  refine ⟨loopsEnd_of_findsWithin h, ?_, ?_⟩
  · intro position hs
    have ht := hs.text_eq h.wellBehaved
    have hb := position.isBoundary_offset
    rw [ht] at hb
    refine ⟨hs.allMatches_eq h.wellBehaved, hb, hb.le, fun captures hsearch => ?_⟩
    have hwithin := h.wellBehaved position captures ht (searchAt_eq_some.mp hsearch).1
    obtain ⟨next, hnext, htext, hoffset, -⟩ := positionAfter_of_within ht hwithin
    have hstart := hwithin.whole_in.1
    have hresume := hwithin.start_lt_resume
    have hstop := hwithin.stop_le_resume
    refine ⟨hstart, next, hnext, fun c hc => ?_, by omega, by omega, ?_⟩
    · rw [← htext c hc]
      exact c.isBoundary_offset
    · cases next with
      | none => exact Nat.le_refl _
      | some next =>
        have hlen := next.offset_le
        rw [htext next rfl] at hlen
        exact Nat.le_succ_of_le hlen
  · intro last position hr
    obtain ⟨hl, ht, hle⟩ := hr.inOrder h
    have hlast := last.isBoundary_offset
    have hposition := position.isBoundary_offset
    rw [hl] at hlast
    rw [ht] at hposition
    refine ⟨fun hne => hr.split_eq h hne, hlast, hposition, hle, hposition.le, ?_, ?_⟩
    · intro e he
      obtain ⟨hleave, -⟩ | ⟨e', herror, hfind⟩ | ⟨_, _, hskip, -⟩ | ⟨_, _, hcut, -⟩ :=
        splitRound_cases h hl ht hle
      · simp [hleave] at he
      · rw [herror] at he
        exact Except.error.inj he ▸ hfind
      · simp [hskip] at he
      · simp [hcut] at he
    · intro given last' position' hround
      exact (splitRound_advances h hl ht hle hround).2.2.2

/-- Splitting `aã` at nothing: after the empty match at the start has been passed over, the one
after `a` is taken, and the end of the last separator catches up with the search. -/
theorem loops_advance_empty :
    let p : Pattern := ⟨"literal", "", { isGlobal := true }, PlainText.matcher []⟩
    let first : Cursor := .start "aã".toList
    let second : Cursor := ⟨['a'], ['ã'], 1, rfl⟩
    p.matcher.FindsWithin "aã".toList ∧ p.LoopsEnd "aã" ∧
      p.RoundFrom "aã".toList first second ∧
      p.splitRound first second = .ok (.goOn [.str "a", .null] second second) ∧
      Prod.Lex (· < ·) (· < ·) (first.offset, second.offset) (second.offset, second.offset) ∧
      p.Searched "aã".toList second ∧
      ∃ next, positionAfter second [some ⟨1, 1⟩, none] = .ok next ∧
        second.offset < offsetOf "aã".toList next := by
  intro p first second
  have hfinds : p.matcher.FindsWithin "aã".toList :=
    (PlainText.findsLeftmost [] "aã".toList).findsWithin (PlainText.groupsWithin [] "aã".toList)
  have hround : p.RoundFrom "aã".toList first second :=
    @RoundFrom.next p "aã".toList first first [] first second .start (by rfl)
  have hsearched : p.Searched "aã".toList second :=
    @Searched.next p "aã".toList first second [some ⟨0, 0⟩, none] .start (by rfl) rfl (by rfl)
  obtain ⟨hends, hsearch, hsplit⟩ := loops_advance p "aã" hfinds
  obtain ⟨-, -, -, -, -, -, hadvance⟩ := hsplit first second hround
  obtain ⟨-, -, -, hnext⟩ := hsearch second hsearched
  obtain ⟨-, next, hafter, -, hlt, -⟩ := hnext [some ⟨1, 1⟩, none] (by rfl)
  have hcut : p.splitRound first second = .ok (.goOn [.str "a", .null] second second) := by rfl
  exact ⟨hfinds, hends, hround, hcut, hadvance _ _ _ hcut, hsearched, next, hafter, hlt⟩

end Pattern

end TextExpr
