import TextExpr.Proofs.EngineContract

/-!
# Whether there is a match

A pattern can be asked for its matches or only whether there is one. The latter does not go through
the loop over the matches, and it takes one of two ways, as the pattern is sticky or not.
`test_matchIn_agree` says that the answers agree all the same, and that without a match replacing
and splitting leave the text as it is.
-/

namespace TextExpr

/-- To test a text comes to whether the search from its start finds anything. -/
def Matcher.TestsBySearch (m : Matcher) (text : List Char) : Prop :=
  m.isMatch text = (m.find (Cursor.start text)).map Option.isSome

/-- The patterns of both engines are tested so. -/
lemma testsBySearch_of_compile {engine : Engine} {source : String} {flags : Flags} {m : Matcher}
    (hengine : engine = linearEngine ∨ engine = backtrackingEngine)
    (h : engine.compile source flags = .ok m) (text : List Char) : m.TestsBySearch text := by
  rcases hengine with rfl | rfl
  · obtain ⟨p, rfl⟩ := exists_program_of_linear h
    rfl
  · obtain ⟨_, p, -, -, rfl⟩ | ⟨p, rfl⟩ := Backtrack.matcher_cases (matcher_of_backtracking h)
    · rfl
    · rfl

namespace Pattern

variable {p : Pattern} {text : String}

/-! ## The first search -/

/-- Either way of testing makes the first of the searches for matches. -/
lemma test_eq_searchAt (h : p.matcher.TestsBySearch text.toList) :
    p.test text = (p.searchAt (Cursor.start text.toList)).map Option.isSome := by
  rw [test]
  cases hs : p.flags.sticky with
  | true => rfl
  | false =>
    rw [searchAt_eq, hs, if_neg (by simp), h]
    cases p.matcher.find (Cursor.start text.toList) with
    | error e => rfl
    | ok found => cases found <;> rfl

lemma searchAt_of_test_false (h : p.matcher.TestsBySearch text.toList)
    (hfalse : p.test text = .ok false) : p.searchAt (Cursor.start text.toList) = .ok none := by
  rw [test_eq_searchAt h] at hfalse
  cases hs : p.searchAt (Cursor.start text.toList) with
  | error e => simp [hs, Except.map] at hfalse
  | ok found =>
    cases found with
    | none => rfl
    | some captures => simp [hs, Except.map] at hfalse

/-- The searches for matches end with the first of them if it fails. -/
lemma allMatches_of_searchAt_error {text : List Char} {e : EvalError}
    (h : p.searchAt (Cursor.start text) = .error e) : p.allMatches text = .error e := by
  rw [allMatches, matchesFrom, h]
  rfl

/-- So they do if it finds nothing. -/
lemma allMatches_of_searchAt_none {text : List Char}
    (h : p.searchAt (Cursor.start text) = .ok none) : p.allMatches text = .ok [] := by
  rw [allMatches, matchesFrom, h]
  rfl

/-! ## With and without a match -/

/-- There are values for a match, and none without one. -/
lemma isEmpty_of_matchIn (h : p.matcher.WellBehaved text.toList) {values : List Json}
    (hvalues : p.matchIn text = .ok values) :
    ∃ found, p.allMatches text.toList = .ok found ∧ values.isEmpty = found.isEmpty := by
  obtain ⟨found, hfound, hrest⟩ := bind_eq_ok.mp hvalues
  refine ⟨found, hfound, ?_⟩
  have hchained := chained_of_allMatches h hfound
  cases hg : p.flags.isGlobal with
  | true =>
    rw [matchIn_of_allMatches hfound hchained hg] at hvalues
    obtain rfl := Except.ok.inj hvalues
    rw [List.isEmpty_map]
  | false =>
    simp only [hg, Bool.false_eq_true, if_false] at hrest
    cases found with
    | nil =>
      obtain rfl := Except.ok.inj hrest
      rfl
    | cons captures later =>
      -- the whole match comes first among the values
      obtain ⟨start, stop, hhead, -⟩ := hchained.1
      cases captures with
      | nil => simp at hhead
      | cons whole groups =>
        have hall : (whole :: groups).mapM (spanValue (Cursor.start text.toList)) = .ok values :=
          hrest
        rw [List.mapM_cons] at hall
        obtain ⟨value, -, hgroups⟩ := bind_eq_ok.mp hall
        obtain ⟨later, -, hpure⟩ := bind_eq_ok.mp hgroups
        obtain rfl := pure_eq_ok.mp hpure
        rfl

lemma replaceWith_of_searchAt_none (h : p.searchAt (Cursor.start text.toList) = .ok none)
    {σ : Type} (replacement : Replacement σ) (state : σ) :
    p.replaceWith text replacement state = (.ok text, state) :=
  replaceWith_of_nil (allMatches_of_searchAt_none h) replacement state

/-- Splitting makes the same first search unless the pattern is sticky. -/
lemma split_of_searchAt_none (h : p.searchAt (Cursor.start text.toList) = .ok none)
    (hs : p.flags.sticky = false) : p.split text = .ok [.str text] := by
  have hfind := find_of_searchAt hs h
  by_cases hempty : text = ""
  · subst hempty
    have hend : (Cursor.start "".toList).atEnd = true := rfl
    simp only [split]
    rw [if_pos hend, hfind]
    rfl
  · rw [split_of_ne_empty p hempty]
    obtain ⟨fuel, hfuel⟩ := Nat.exists_eq_succ_of_ne_zero
      (show (text.toList.length + 2) * (text.toList.length + 2) ≠ 0 by simp)
    rw [hfuel, fragmentsFrom_succ, splitRound_of_none hfind]
    show Except.ok [Json.str (String.ofList text.toList)] = _
    rw [String.ofList_toList]

/-- Testing and matching agree on whether there is a match. If the test fails, so does matching, and
if matching succeeds, the test tells whether it gives anything; a pattern that is not global makes
no other search, so the two fail together. Without a match replacing makes no call and gives back
the text, and so does splitting, as the only fragment, unless the pattern is sticky. -/
theorem test_matchIn_agree (p : Pattern) (text : String)
    (h : p.matcher.WellBehaved text.toList) (htests : p.matcher.TestsBySearch text.toList) :
    (p.flags.isGlobal = false → p.matcher.FindsWithin text.toList →
      p.test text = (p.matchIn text).map (!·.isEmpty)) ∧
    (∀ e, p.test text = .error e → p.matchIn text = .error e) ∧
    (∀ values, p.matchIn text = .ok values → p.test text = .ok !values.isEmpty) ∧
    (p.test text = .ok false →
      p.matchIn text = .ok [] ∧
      (∀ {σ : Type} (replacement : Replacement σ) (state : σ),
        p.replaceWith text replacement state = (.ok text, state)) ∧
      (p.flags.sticky = false → p.split text = .ok [.str text])) := by
  have htest := test_eq_searchAt htests
  refine ⟨fun hg hgroups => ?_, fun e he => ?_, fun values hvalues => ?_, fun hfalse => ?_⟩
  · rw [htest, matchIn_of_not_global hgroups hg]
    cases hs : p.searchAt (Cursor.start text.toList) with
    | error e => rfl
    | ok found =>
      cases found with
      | none => rfl
      | some captures =>
        have hfind := (searchAt_eq_some.mp hs).1
        obtain ⟨start, stop, hhead, -⟩ := h _ captures (Cursor.text_start _) hfind
        cases captures with
        | nil => simp at hhead
        | cons whole groups => rfl
  · rw [htest] at he
    cases hs : p.searchAt (Cursor.start text.toList) with
    | ok found => simp [hs, Except.map] at he
    | error e' =>
      rw [hs] at he
      obtain rfl := Except.error.inj he
      rw [matchIn, allMatches_of_searchAt_error hs]
      rfl
  · obtain ⟨found, hfound, hempty⟩ := isEmpty_of_matchIn h hvalues
    have hrun := allMatches_run h
    rw [hfound] at hrun
    rw [htest, hrun.searchAt_eq, hempty]
    cases found <;> rfl
  · have hnone := searchAt_of_test_false htests hfalse
    refine ⟨?_, replaceWith_of_searchAt_none hnone, split_of_searchAt_none hnone⟩
    rw [matchIn, allMatches_of_searchAt_none hnone]
    cases p.flags.isGlobal <;> simp [wholeTexts, bind, Except.bind, pure, Except.pure]

/-- A sticky pattern that matches only further on, for which a replacement would fail if it were
called, and a pattern that does not match in the empty text. -/
theorem test_matchIn_agree_none :
    (∃ p, normalize linearEngine (.arr [.str "b", .str "gy"]) = .ok p ∧
      p.matcher.WellBehaved "ab".toList ∧ p.matcher.TestsBySearch "ab".toList ∧
      p.test "ab" = .ok false ∧ p.matchIn "ab" = .ok [] ∧
      p.replaceWith "ab" (fun _ calls => (.error .malformedSpan, calls + 1)) 0 = (.ok "ab", 0)) ∧
    ∃ p, normalize linearEngine (.str "(b)") = .ok p ∧ p.matcher.FindsWithin "".toList ∧
      p.test "" = (p.matchIn "").map (!·.isEmpty) ∧ p.test "" = .ok false ∧
      p.split "" = .ok [.str ""] := by
  have hsticky : ((normalize linearEngine (.arr [.str "b", .str "gy"])).toOption.any fun p =>
      (p.test "ab").toOption = some false) = true := by decide +kernel
  have hempty : ((normalize linearEngine (.str "(b)")).toOption.any fun p =>
      (p.test "").toOption = some false ∧ p.flags = {}) = true := by decide +kernel
  obtain ⟨p, hsome, htest⟩ := (Option.any_eq_true _ _).mp hsticky
  obtain ⟨q, hsome', hfalse⟩ := (Option.any_eq_true _ _).mp hempty
  have hp := eq_ok_of_toOption hsome
  have hq := eq_ok_of_toOption hsome'
  have hnone := eq_ok_of_toOption (of_decide_eq_true htest)
  obtain ⟨hnone', hflags⟩ := of_decide_eq_true hfalse
  have hnone' := eq_ok_of_toOption hnone'
  have hwithin := (keepsContract_of_linear (compile_of_normalize hp)).findsWithin "ab".toList
  have hwithin' := (keepsContract_of_linear (compile_of_normalize hq)).findsWithin "".toList
  have htests := testsBySearch_of_compile (Or.inl rfl) (compile_of_normalize hp) "ab".toList
  have htests' := testsBySearch_of_compile (Or.inl rfl) (compile_of_normalize hq) "".toList
  obtain ⟨-, -, -, hunmatched⟩ := test_matchIn_agree p "ab" hwithin.wellBehaved htests
  obtain ⟨hmatch, hreplace, -⟩ := hunmatched hnone
  obtain ⟨hagree, -, -, hunmatched'⟩ := test_matchIn_agree q "" hwithin'.wellBehaved htests'
  obtain ⟨-, -, hsplit⟩ := hunmatched' hnone'
  exact ⟨⟨p, hp, hwithin.wellBehaved, htests, hnone, hmatch, hreplace _ _⟩,
    q, hq, hwithin', hagree (by rw [hflags]) hwithin', hnone', hsplit (by rw [hflags])⟩

end Pattern

end TextExpr
