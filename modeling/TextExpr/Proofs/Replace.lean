import TextExpr.Proofs.GlobalMatch

/-!
# Replacing

Replacing calls the replacement on the texts of the matches and puts its outputs in their place.
`callEach` says which calls that makes, and `fillIn` what text comes out; `replaceWith_eq` says that
nothing else happens: no call is made before all searches have succeeded, and outputs are not
searched again. A replacement that is `recorded` gives the calls themselves, and
`replaceWith_recorded` says that there is one for each match up to the first that fails.
-/

namespace TextExpr

namespace Pattern

/-- Call a replacement on texts, one after the other, up to its first failure. -/
def callEach {σ : Type} (replacement : Replacement σ) :
    List String → σ → Except EvalError (List String) × σ
  | [], state => (.ok [], state)
  | matched :: later, state =>
    match replacement matched state with
    | (.error e, state) => (.error e, state)
    | (.ok output, state) =>
      let (outputs, state) := callEach replacement later state
      (outputs.map (output :: ·), state)

/-- The text from an offset on with outputs in place of ranges. -/
def fillIn (text : List Char) : (last : Nat) → List Span → List String → String
  | last, range :: ranges, output :: outputs =>
    between text last range.start ++ output ++ fillIn text range.stop ranges outputs
  | last, _, _ => between text last (byteLength text)

/-- A match that starts at or after a cursor can be cut out of the text from there. -/
lemma cut?_of_within {text : List Char} {position : Cursor} {captures : Captures}
    (ht : position.text = text) (h : captures.Within text position.offset) :
    ∃ last : Cursor, last.text = text ∧ last.offset = captures.whole.stop ∧
      cut? position captures = some (between text position.offset captures.whole.start,
        captures.whole.textIn text, last) := by
  obtain ⟨first, last, hfirst, hlast, hwhole, hle, hlen⟩ := h.exists_cursors
  subst ht
  obtain ⟨gap, hgap, hgapText⟩ := Cursor.textTo?_offset hfirst hle
  obtain ⟨matched, hmatched, hmatchedText⟩ :=
    Cursor.textTo?_offset (hlast.trans hfirst.symm) hlen
  refine ⟨last, hlast, by rw [hwhole], ?_⟩
  simp only [cut?, hwhole, hgap, Cursor.seek?_offset hfirst, hmatched,
    Cursor.seek?_offset (hlast.trans hfirst.symm), Option.bind_eq_bind, Option.bind_some]
  rw [hgapText, hmatchedText, hfirst, Span.textIn]

lemma join_cons (part : String) (parts : List String) :
    String.join (part :: parts) = part ++ String.join parts := by
  -- joining from any start, since that is what the fold changes
  have h : ∀ (start : String) (l : List String),
      l.foldl (· ++ ·) start = start ++ l.foldl (· ++ ·) "" := by
    intro start l
    induction l generalizing start with
    | nil => simp
    | cons s l ih =>
      rw [List.foldl_cons, List.foldl_cons, ih, ih ("" ++ s), String.empty_append,
        String.append_assoc]
  rw [String.join, String.join, List.foldl_cons, h, String.empty_append]

/-- Splicing calls the replacement on the texts of the matches and fills in what it gives. -/
theorem splice_eq {σ : Type} (replacement : Replacement σ) {text : List Char}
    {found : List Captures} {position : Cursor} (ht : position.text = text)
    (h : Chained text position.offset found) (state : σ) :
    (splice replacement position found state).map (Except.map String.join) id =
      (callEach replacement (found.map fun c => c.whole.textIn text) state).map
        (Except.map (fillIn text position.offset (found.map Captures.whole))) id := by
  induction found generalizing position state with
  | nil =>
    have hremaining := position.remaining_eq
    simp [splice, callEach, Except.map, fillIn, hremaining, ht, String.join]
  | cons captures later ih =>
    obtain ⟨last, hlast, hoffset, hcut⟩ := cut?_of_within ht h.1
    have hlater : Chained text last.offset later := by
      -- splicing goes on where the match ends, which may be before the search goes on
      rw [hoffset]
      exact h.2.mono h.1.stop_le_resume
    rw [List.map_cons, List.map_cons, splice, hcut, callEach]
    cases hcall : replacement (captures.whole.textIn text) state with
    | mk result state' =>
      cases result with
      | error e => simp [hcall, Except.map]
      | ok output =>
        have hrec := ih hlast hlater state'
        simp only [hcall]
        cases hsplice : splice replacement last later state' with
        | mk parts after =>
          cases hcalls : callEach replacement (later.map fun c => c.whole.textIn text) state' with
          | mk outputs after' =>
            -- both fail with one error or both succeed, and end in one state
            rw [hsplice, hcalls, Prod.map, Prod.map, Prod.mk.injEq] at hrec
            obtain ⟨hparts, rfl⟩ := hrec
            cases parts with
            | error e =>
              cases outputs with
              | error e' => simpa [Except.map] using hparts
              | ok outputs => simp [Except.map] at hparts
            | ok parts =>
              cases outputs with
              | error e' => simp [Except.map] at hparts
              | ok outputs =>
                simp only [Except.map, Except.ok.injEq] at hparts
                simp only [Prod.map, Except.map, join_cons, hparts, fillIn, hoffset,
                  String.append_assoc, id]

/-- Filling in the texts of the matches themselves gives the text back. -/
lemma fillIn_textIn {text : List Char} {found : List Captures} {last : Nat}
    (hlast : IsBoundary text last) (h : Chained text last found) :
    fillIn text last (found.map Captures.whole) (found.map fun c => c.whole.textIn text) =
      between text last (byteLength text) := by
  induction found generalizing last with
  | nil => rfl
  | cons captures later ih =>
    obtain ⟨start, stop, hhead, hle, hlen, hstart, hstop⟩ := h.1
    have hwhole := Captures.whole_of_head? hhead
    have hresume := h.1.stop_le_resume
    rw [hwhole] at hresume
    have hlater : Chained text stop later := h.2.mono hresume
    rw [List.map_cons, List.map_cons, hwhole, fillIn, ih hstop hlater, Span.textIn]
    have hend := isBoundary_byteLength text
    rw [between_append_between hlast hstart hstop hle hlen,
      between_append_between hlast hstop hend (by omega) hstop.le]

/-- A replacement that always succeeds and remembers nothing. -/
lemma callEach_pure {σ : Type} (output : String → String) (texts : List String) (state : σ) :
    callEach (fun matched state => (.ok (output matched), state)) texts state =
      (.ok (texts.map output), state) := by
  induction texts with
  | nil => rfl
  | cons matched later ih => simp [callEach, ih, Except.map]

lemma callEach_self {σ : Type} (texts : List String) (state : σ) :
    callEach (fun matched state => (.ok matched, state)) texts state = (.ok texts, state) := by
  rw [callEach_pure (fun matched => matched), List.map_id']

/-- A pattern that is not global searches once. -/
lemma allMatches_of_not_global {p : Pattern} (text : List Char) (h : p.flags.isGlobal = false) :
    p.allMatches text = (p.searchAt (Cursor.start text)).map Option.toList := by
  rw [allMatches, matchesFrom]
  cases p.searchAt (Cursor.start text) with
  | error e => rfl
  | ok found =>
    cases found with
    | none => rfl
    | some captures => simp [h, bind, Except.bind, Except.map, pure, Except.pure]

/-- It gives the text of its match and those of the groups, as far as they lie in the text. -/
lemma matchIn_of_not_global {p : Pattern} {text : String} (h : p.matcher.FindsWithin text.toList)
    (hg : p.flags.isGlobal = false) :
    p.matchIn text = (p.searchAt (Cursor.start text.toList)).map fun found =>
      found.elim [] (List.map (groupValue text.toList)) := by
  rw [matchIn, allMatches_of_not_global _ hg]
  cases hs : p.searchAt (Cursor.start text.toList) with
  | error e => rfl
  | ok found =>
    cases found with
    | none => simp [hg, Except.map, bind, Except.bind, pure, Except.pure]
    | some captures =>
      have hfind := (searchAt_eq_some.mp hs).1
      have hspans := (h _ captures (Cursor.text_start _) hfind).2
      have hvalues := mapM_spanValue (Cursor.text_start text.toList) hspans
      simp [hg, hvalues, Except.map, bind, Except.bind]

/-- What replacing comes to once all searches have succeeded. -/
lemma replaceWith_of_allMatches {σ : Type} {p : Pattern} {text : String}
    {found : List Captures} (hfound : p.allMatches text.toList = .ok found)
    (h : Chained text.toList 0 found) (replacement : Replacement σ) (state : σ) :
    p.replaceWith text replacement state =
      (callEach replacement (found.map fun c => c.whole.textIn text.toList) state).map
        (Except.map (fillIn text.toList 0 (found.map Captures.whole))) id := by
  have hsplice := splice_eq replacement (Cursor.text_start text.toList) h state
  simp only [replaceWith, hfound]
  rw [show (0 : Nat) = (Cursor.start text.toList).offset from rfl, ← hsplice]
  cases splice replacement (Cursor.start text.toList) found state with
  | mk parts after => cases parts <;> rfl

/-- Without a match the text stays as it is. -/
lemma replaceWith_of_nil {σ : Type} {p : Pattern} {text : String}
    (h : p.allMatches text.toList = .ok []) (replacement : Replacement σ) (state : σ) :
    p.replaceWith text replacement state = (.ok text, state) := by
  rw [replaceWith_of_allMatches h trivial]
  simp only [List.map_nil, callEach, Prod.map, Except.map, id, fillIn, between_zero_byteLength,
    String.ofList_toList]

/-- One match is exchanged, and the text around it stays. -/
lemma replaceWith_of_single {σ : Type} {p : Pattern} {text : String} {captures : Captures}
    (h : p.allMatches text.toList = .ok [captures]) (hwithin : captures.Within text.toList 0)
    (replacement : Replacement σ) (state : σ) :
    p.replaceWith text replacement state =
      (replacement (captures.whole.textIn text.toList) state).map
        (Except.map fun output => between text.toList 0 captures.whole.start ++ output ++
          between text.toList captures.whole.stop (byteLength text.toList)) id := by
  rw [replaceWith_of_allMatches h ⟨hwithin, trivial⟩]
  simp only [List.map_cons, List.map_nil, callEach]
  cases replacement (captures.whole.textIn text.toList) state with
  | mk result after => cases result <;> rfl

/-- Replacing makes all searches first. If one fails, so does replacing, without a call; otherwise
the replacement is called on the text of each match in turn and what it gives stands in place of
the match. -/
theorem replaceWith_eq {σ : Type} (p : Pattern) (text : String)
    (h : p.matcher.WellBehaved text.toList) (replacement : Replacement σ) (state : σ) :
    (∀ position e, p.Searched text.toList position → p.matcher.find position = .error e →
      p.replaceWith text replacement state = (.error e, state)) ∧
    ((∀ position, p.Searched text.toList position → ∃ found, p.matcher.find position = .ok found) →
      ∃ found, p.allMatches text.toList = .ok found ∧
        Chained text.toList 0 found ∧
        p.replaceWith text replacement state =
          (callEach replacement (found.map fun c => c.whole.textIn text.toList) state).map
            (Except.map (fillIn text.toList 0 (found.map Captures.whole))) id ∧
        (p.flags.isGlobal = true →
          p.matchIn text = .ok (found.map fun c => .str (c.whole.textIn text.toList))) ∧
        (p.flags.isGlobal = false → ∃ first,
          p.searchAt (Cursor.start text.toList) = .ok first ∧ found = first.toList) ∧
        ∀ {τ : Type} (s : τ),
          p.replaceWith text (fun matched s => (.ok matched, s)) s = (.ok text, s)) := by
  constructor
  · intro position e hsearched hfind
    simp only [replaceWith, allMatches_of_find_error h hsearched hfind]
  · intro hok
    cases hfound : p.allMatches text.toList with
    | error e =>
      obtain ⟨position, hsearched, hfind⟩ := find_error_of_allMatches h hfound
      obtain ⟨found, hfound⟩ := hok position hsearched
      rw [hfind] at hfound
      exact absurd hfound (by simp)
    | ok found =>
      have hchained := chained_of_allMatches h hfound
      refine ⟨found, rfl, hchained, replaceWith_of_allMatches hfound hchained _ _, ?_, ?_, ?_⟩
      · exact matchIn_of_allMatches hfound hchained
      · intro hg
        rw [allMatches_of_not_global _ hg] at hfound
        cases hs : p.searchAt (Cursor.start text.toList) with
        | error e => simp [hs, Except.map] at hfound
        | ok first =>
          rw [hs] at hfound
          exact ⟨first, rfl, (Except.ok.inj hfound).symm⟩
      · intro τ s
        rw [replaceWith_of_allMatches hfound hchained, callEach_self]
        simp only [Prod.map, Except.map, id]
        rw [fillIn_textIn (isBoundary_zero _) hchained, between_zero_byteLength,
          String.ofList_toList]

/-- Each `a` in `banana` is doubled, by a replacement that remembers its calls. -/
theorem replaceWith_eq_banana :
    let p : Pattern := ⟨"literal", "a", { isGlobal := true }, PlainText.matcher ['a']⟩
    let double : Replacement (List String) :=
      fun matched calls => (.ok (matched ++ matched), calls ++ [matched])
    p.matcher.WellBehaved "banana".toList ∧
      (∃ found, p.allMatches "banana".toList = .ok found ∧
        Chained "banana".toList 0 found ∧
        p.replaceWith "banana" double [] =
          (callEach double (found.map fun c => c.whole.textIn "banana".toList) []).map
            (Except.map (fillIn "banana".toList 0 (found.map Captures.whole))) id ∧
        p.matchIn "banana" = .ok (found.map fun c => .str (c.whole.textIn "banana".toList))) ∧
      p.replaceWith "banana" double [] = (.ok "baanaanaa", ["a", "a", "a"]) := by
  intro p double
  have hbehaved : p.matcher.WellBehaved "banana".toList :=
    (PlainText.findsLeftmost ['a'] "banana".toList).wellBehaved
  obtain ⟨found, hfound, hchained, hreplace, hmatch, -, -⟩ :=
    (replaceWith_eq p "banana" hbehaved double []).2 fun _ _ => ⟨_, rfl⟩
  exact ⟨hbehaved, ⟨found, hfound, hchained, hreplace, hmatch rfl⟩, rfl⟩

/-! ## The calls -/

/-- A replacement that keeps a list of the texts it has been called with. -/
def recorded {σ : Type} (replacement : Replacement σ) : Replacement (σ × List String) :=
  fun matched (state, made) =>
    let (result, state) := replacement matched state
    (result, state, made ++ [matched])

/-- The calls that a replacement gets for texts, where the first one is made in the given state. -/
inductive CallsFor {σ : Type} (replacement : Replacement σ) :
    (texts : List String) → σ → (made : List String) → Prop
  /-- There is no text to call it for. -/
  | nil {state} : CallsFor replacement [] state []
  /-- The call for a text fails in the state in which it is made, and it is the last one. -/
  | fails {matched later state e after} : replacement matched state = (.error e, after) →
      CallsFor replacement (matched :: later) state [matched]
  /-- The call succeeds, and the next one is made in the state that it leaves. -/
  | succeeds {matched later state output after made} :
      replacement matched state = (.ok output, after) → CallsFor replacement later after made →
      CallsFor replacement (matched :: later) state (matched :: made)

/-- Calls are made in the order of the texts. -/
lemma CallsFor.isPrefix {σ : Type} {replacement : Replacement σ} {texts made : List String}
    {state : σ} (h : CallsFor replacement texts state made) : made <+: texts := by
  induction h with
  | nil => exact List.prefix_rfl
  | fails _ => exact ⟨_, rfl⟩
  | succeeds _ _ ih => exact List.cons_prefix_cons.mpr ⟨rfl, ih⟩

/-- A replacement that does not fail is called for each text. -/
lemma CallsFor.eq_of_ok {σ : Type} {replacement : Replacement σ} {texts made : List String}
    {state : σ} (h : CallsFor replacement texts state made)
    (hok : ∀ matched state, ∃ output, (replacement matched state).1 = .ok output) :
    made = texts := by
  induction h with
  | nil => rfl
  | @fails matched later state e after hcall =>
    obtain ⟨output, houtput⟩ := hok matched state
    rw [hcall] at houtput
    simp at houtput
  | succeeds _ _ ih => rw [ih]

/-- Keeping a list of the calls changes nothing else. -/
lemma callEach_recorded {σ : Type} (replacement : Replacement σ) (texts : List String)
    (state : σ) (before : List String) : ∃ made, CallsFor replacement texts state made ∧
      callEach (recorded replacement) texts (state, before) =
        ((callEach replacement texts state).1, (callEach replacement texts state).2,
          before ++ made) := by
  induction texts generalizing state before with
  | nil => exact ⟨[], .nil, by simp [callEach]⟩
  | cons matched later ih =>
    cases hcall : replacement matched state with
    | mk result after =>
      cases result with
      | error e =>
        refine ⟨[matched], .fails hcall, ?_⟩
        simp [callEach, recorded, hcall]
      | ok output =>
        obtain ⟨made, hmade, hlater⟩ := ih after (before ++ [matched])
        refine ⟨matched :: made, .succeeds hcall hmade, ?_⟩
        simp [callEach, recorded, hcall, hlater]

/-- The calls that replacing makes are those for the texts of the matches. -/
theorem replaceWith_recorded {σ : Type} {p : Pattern} {text : String} {found : List Captures}
    (hfound : p.allMatches text.toList = .ok found) (h : Chained text.toList 0 found)
    (replacement : Replacement σ) (state : σ) :
    ∃ made, CallsFor replacement (found.map fun c => c.whole.textIn text.toList) state made ∧
      p.replaceWith text (recorded replacement) (state, []) =
        ((p.replaceWith text replacement state).1, (p.replaceWith text replacement state).2,
          made) := by
  obtain ⟨made, hmade, hcalls⟩ := callEach_recorded replacement
    (found.map fun c => c.whole.textIn text.toList) state []
  refine ⟨made, hmade, ?_⟩
  rw [replaceWith_of_allMatches hfound h replacement,
    replaceWith_of_allMatches hfound h (recorded replacement), hcalls, List.nil_append]
  rfl

end Pattern

end TextExpr
