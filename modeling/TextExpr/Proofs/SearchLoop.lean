import Mathlib.Data.List.Chain
import TextExpr.Pattern.Basic
import TextExpr.Proofs.Contract
import TextExpr.Proofs.Result

/-!
# The search for all matches

`Pattern.Run` says what the search from a position comes to, one constructor for each way in which
a round of it ends, with no bound on the number of rounds. With a well-behaved matcher

* `allMatches_run`: the search is such a run, so it always ends;
* `Run.chained`: the matches of a run follow one another without overlap, and each starts after
  the one before it;
* `allMatches_of_find_error` and `find_error_of_allMatches`: the search fails exactly if one of
  the searches of the matcher does, which start at the positions that are `Searched`.
-/

namespace TextExpr

/-! ## Where the search goes on -/

namespace Captures

/-- The offset at which the search after a match goes on. -/
def resume (text : List Char) (captures : Captures) : Nat :=
  if captures.whole.isEmpty then nextOffset text captures.whole.stop else captures.whole.stop

lemma resume_of_isEmpty {text : List Char} {captures : Captures}
    (h : captures.whole.isEmpty = true) :
    captures.resume text = nextOffset text captures.whole.stop := if_pos h

lemma resume_of_not_isEmpty {text : List Char} {captures : Captures}
    (h : ¬captures.whole.isEmpty = true) : captures.resume text = captures.whole.stop := if_neg h

lemma Within.start_lt_resume {text : List Char} {least : Nat} {captures : Captures}
    (h : captures.Within text least) : captures.whole.start < captures.resume text := by
  obtain ⟨first, last, -, -, hwhole, -, hle⟩ := h.exists_cursors
  have hnext := lt_nextOffset text last.offset
  by_cases hempty : captures.whole.isEmpty = true
  · rw [resume_of_isEmpty hempty, hwhole]
    exact Nat.lt_of_le_of_lt hle hnext
  · rw [resume_of_not_isEmpty hempty]
    simpa [Span.isEmpty] using hempty

lemma Within.stop_le_resume {text : List Char} {least : Nat} {captures : Captures}
    (_ : captures.Within text least) : captures.whole.stop ≤ captures.resume text := by
  have hnext := lt_nextOffset text captures.whole.stop
  unfold resume
  split <;> omega

/-- The search goes on no later than at the first boundary past the match. -/
lemma Within.resume_le {text : List Char} {least offset : Nat} {captures : Captures}
    (h : captures.Within text least) (hb : IsBoundary text offset)
    (hstart : captures.whole.start < offset) (hstop : captures.whole.stop ≤ offset) :
    captures.resume text ≤ offset := by
  by_cases hempty : captures.whole.isEmpty = true
  · obtain ⟨first, last, -, hlast, hwhole, -, -⟩ := h.exists_cursors
    have hle : captures.whole.stop ≤ captures.whole.start := by
      simpa [Span.isEmpty] using hempty
    rw [resume_of_isEmpty hempty]
    refine Cursor.nextOffset_le ?_ hb (by omega)
    rw [hwhole, ← hlast]
    exact last.isBoundary_offset
  · rw [resume_of_not_isEmpty hempty]
    exact hstop

end Captures

/-- Matches that follow one another: each starts where the search after the one before it goes on,
or later. -/
def Chained (text : List Char) : (least : Nat) → List Captures → Prop
  | _, [] => True
  | least, captures :: later =>
    captures.Within text least ∧ Chained text (captures.resume text) later

lemma Chained.mono {text : List Char} {least least' : Nat} {found : List Captures}
    (h : Chained text least found) (hle : least' ≤ least) : Chained text least' found := by
  cases found with
  | nil => trivial
  | cons captures later => exact ⟨h.1.mono hle, h.2⟩

/-- Chained matches start one after the other and do not overlap. -/
theorem Chained.isChain {text : List Char} {least : Nat} {found : List Captures}
    (h : Chained text least found) : found.IsChain fun a b =>
      a.whole.start < b.whole.start ∧ a.whole.stop ≤ b.whole.start := by
  induction found generalizing least with
  | nil => exact .nil
  | cons captures later ih =>
    obtain ⟨hwithin, hlater⟩ := h
    cases later with
    | nil => exact .singleton _
    | cons next later =>
      refine .cons_cons ?_ (ih hlater)
      obtain ⟨first, last, -, -, hwhole, hle, -⟩ := hlater.1.exists_cursors
      have hstart := hwithin.start_lt_resume
      have hstop := hwithin.stop_le_resume
      rw [hwhole]
      exact ⟨Nat.lt_of_lt_of_le hstart hle, Nat.le_trans hstop hle⟩

namespace Pattern

/-! ## One round -/

lemma searchAt_eq (p : Pattern) (position : Cursor) :
    p.searchAt position = (p.matcher.find position).map (Option.filter fun captures =>
      !p.flags.sticky || captures.whole.start == position.offset) := by
  unfold searchAt
  cases p.matcher.find position <;> rfl

/-- A search of a pattern that is not sticky finds what the matcher finds. -/
lemma find_of_searchAt {p : Pattern} {position : Cursor} {found : Option Captures}
    (hs : p.flags.sticky = false) (h : p.searchAt position = .ok found) :
    p.matcher.find position = .ok found := by
  rw [searchAt_eq, hs] at h
  cases hfind : p.matcher.find position with
  | error e => simp [hfind, Except.map] at h
  | ok found' =>
    rw [hfind] at h
    obtain rfl := Except.ok.inj h
    cases found' <;> rfl

/-- A search finds something the matcher finds, in place if the pattern is sticky. -/
lemma searchAt_eq_some {p : Pattern} {position : Cursor} {captures : Captures} :
    p.searchAt position = .ok (some captures) ↔
      p.matcher.find position = .ok (some captures) ∧
        (p.flags.sticky = true → captures.whole.start = position.offset) := by
  rw [searchAt_eq]
  cases p.matcher.find position with
  | error e => simp [Except.map]
  | ok found =>
    simp only [Except.map, Except.ok.injEq, Option.filter_eq_some_iff,
      Bool.or_eq_true, Bool.not_eq_true', beq_iff_eq]
    cases p.flags.sticky <;> simp

/-- A search fails exactly if the matcher does, with the same error. -/
lemma searchAt_eq_error {p : Pattern} {position : Cursor} {e : EvalError} :
    p.searchAt position = .error e ↔ p.matcher.find position = .error e := by
  rw [searchAt_eq]
  cases p.matcher.find position <;> simp [Except.map]

/-- The offset of a position; after the end of the text it is one more than that of the end. -/
def offsetOf (text : List Char) : Option Cursor → Nat
  | none => byteLength text + 1
  | some position => position.offset

/-- The number of searches that start at a position or after it. -/
def searchesLeft : Option Cursor → Nat
  | none => 0
  | some position => position.distance + 1

lemma orMalformed_eq_ok {α : Type} {found : Option α} {a : α} :
    orMalformed found = .ok a ↔ found = some a := by
  cases found <;> simp [orMalformed]

/-- When the search goes on after a match, it does so at the offset at which it is to be resumed. -/
lemma offset_of_positionAfter {text : List Char} {position : Cursor} {captures : Captures}
    {next : Option Cursor} (ht : position.text = text)
    (hnext : positionAfter position captures = .ok next) :
    (∀ c ∈ next, c.text = text) ∧ offsetOf text next = captures.resume text := by
  subst ht
  rw [positionAfter] at hnext
  obtain ⟨last, hlast, hnext⟩ := bind_eq_ok.mp hnext
  obtain ⟨htext, hstop⟩ := Cursor.seek?_eq_some_iff.mp (orMalformed_eq_ok.mp hlast)
  obtain rfl := pure_eq_ok.mp hnext
  by_cases hempty : captures.whole.isEmpty = true
  · rw [if_pos hempty, Captures.resume_of_isEmpty hempty, ← hstop, ← htext]
    cases hnext : last.next? with
    | none =>
      -- an empty match at the end of the text: the search goes on one byte past it
      have hend := (Cursor.next?_eq_none_iff last).mp hnext
      have hdrop := Cursor.dropBytes_offset last
      rw [(Cursor.atEnd_iff last).mp hend] at hdrop
      refine ⟨by simp, ?_⟩
      rw [nextOffset, hdrop, (Cursor.atEnd_iff_offset last).mp hend, offsetOf]
    | some next =>
      refine ⟨fun c hc => ?_, Cursor.offset_of_next? hnext⟩
      obtain rfl := Option.some.inj hc
      exact Cursor.text_next? hnext
  · rw [if_neg hempty, Captures.resume_of_not_isEmpty hempty, ← hstop]
    refine ⟨fun c hc => ?_, rfl⟩
    obtain rfl := Option.some.inj hc
    exact htext

/-- After a match in the text the search goes on, with fewer searches left. -/
theorem positionAfter_of_within {text : List Char} {position : Cursor} {captures : Captures}
    (ht : position.text = text) (h : captures.Within text position.offset) :
    ∃ next, positionAfter position captures = .ok next ∧ (∀ c ∈ next, c.text = text) ∧
      offsetOf text next = captures.resume text ∧
      searchesLeft next < searchesLeft (some position) := by
  obtain ⟨first, last, hfirst, hlast, hwhole, hle, hlen⟩ := h.exists_cursors
  have hd := Cursor.distance_le_of_offset_le (hlast.trans ht.symm) (Nat.le_trans hle hlen)
  have heq : positionAfter position captures =
      .ok (if captures.whole.isEmpty then last.next? else some last) := by
    rw [positionAfter, hwhole, Cursor.seek?_offset (hlast.trans ht.symm)]
    rfl
  obtain ⟨htext, hoffset⟩ := offset_of_positionAfter ht heq
  refine ⟨_, heq, htext, hoffset, ?_⟩
  split
  · cases hnext : last.next? with
    | none => simp [searchesLeft]
    | some next =>
      have hdist := Cursor.distance_of_next? hnext
      simp only [searchesLeft]
      omega
  · next hempty =>
    -- the match takes at least one character
    simp only [hwhole, Span.isEmpty, decide_eq_true_eq] at hempty
    have hlt := Cursor.distance_lt_of_offset_lt (hlast.trans ht.symm) (by omega)
    simp only [searchesLeft]
    omega

/-! ## All rounds -/

/-- What the search from a position comes to. -/
inductive Run (p : Pattern) : Option Cursor → Except EvalError (List Captures) → Prop
  /-- The last match stood at the end of the text and was empty. -/
  | past : Run p none (.ok [])
  /-- A search fails. -/
  | failed {position e} : p.searchAt position = .error e → Run p (some position) (.error e)
  /-- There is no match any more. -/
  | nothing {position} : p.searchAt position = .ok none → Run p (some position) (.ok [])
  /-- There is a match, and one is enough. -/
  | single {position captures} : p.searchAt position = .ok (some captures) →
      p.flags.isGlobal = false → Run p (some position) (.ok [captures])
  /-- There is a match, and the search goes on after it. -/
  | more {position next captures result} : p.searchAt position = .ok (some captures) →
      p.flags.isGlobal = true → positionAfter position captures = .ok next →
      Run p next result → Run p (some position) (result.map (captures :: ·))

variable {p : Pattern} {text : List Char}

/-- With a round for each search that is left, the search is a run. -/
theorem run_matchesFrom (h : p.matcher.WellBehaved text) {position : Option Cursor}
    (ht : ∀ c ∈ position, c.text = text) {fuel : Nat} (hfuel : searchesLeft position < fuel) :
    p.Run position (p.matchesFrom fuel position) := by
  induction fuel generalizing position with
  | zero => exact absurd hfuel (by omega)
  | succ fuel ih =>
    cases position with
    | none => exact .past
    | some position =>
      have hpos := ht position rfl
      rw [matchesFrom]
      cases hs : p.searchAt position with
      | error e => exact .failed hs
      | ok found =>
        cases found with
        | none => exact .nothing hs
        | some captures =>
          have hwithin := h position captures hpos (searchAt_eq_some.mp hs).1
          obtain ⟨next, hnext, htext, -, hless⟩ := positionAfter_of_within hpos hwithin
          cases hg : p.flags.isGlobal with
          | false => exact .single hs hg
          | true =>
            -- the position after the match leaves fewer searches, so the fuel lasts
            have hrun := ih htext (by omega)
            have hmore := Run.more hs hg hnext hrun
            simp only [bind, Except.bind, hnext, if_true]
            cases hlater : p.matchesFrom fuel next <;> rw [hlater] at hmore <;> exact hmore

/-- The search for all matches of a text is a run from its start. -/
theorem allMatches_run (h : p.matcher.WellBehaved text) :
    p.Run (some (Cursor.start text)) (p.allMatches text) := by
  refine run_matchesFrom h ?_ ?_
  · intro c hc
    obtain rfl := Option.some.inj hc
    exact Cursor.text_start text
  · simp [searchesLeft, Cursor.distance, Cursor.start]

/-- The matches of a run follow one another. -/
theorem Run.chained (h : p.matcher.WellBehaved text) {position : Option Cursor}
    {result : Except EvalError (List Captures)} (hrun : p.Run position result)
    (ht : ∀ c ∈ position, c.text = text) {found : List Captures} (hfound : result = .ok found) :
    Chained text (offsetOf text position) found := by
  induction hrun generalizing found with
  | past =>
    obtain rfl := Except.ok.inj hfound
    trivial
  | failed _ => simp at hfound
  | nothing _ =>
    obtain rfl := Except.ok.inj hfound
    trivial
  | @single position captures hs _ =>
    obtain rfl := Except.ok.inj hfound
    exact ⟨h _ _ (ht _ rfl) (searchAt_eq_some.mp hs).1, trivial⟩
  | @more position next captures result hs _ hnext _ ih =>
    have hwithin := h _ _ (ht _ rfl) (searchAt_eq_some.mp hs).1
    obtain ⟨htext, hoffset⟩ := offset_of_positionAfter (ht _ rfl) hnext
    cases result with
    | error e => simp [Except.map] at hfound
    | ok later =>
      obtain rfl := Except.ok.inj hfound
      exact ⟨hwithin, hoffset ▸ ih htext rfl⟩

/-- The first match of a run is what its first search finds. -/
lemma Run.searchAt_eq {position : Cursor} {found : List Captures}
    (hrun : p.Run (some position) (.ok found)) : p.searchAt position = .ok found.head? := by
  generalize hresult : (Except.ok found : Except EvalError (List Captures)) = result at hrun
  cases hrun with
  | failed _ => simp at hresult
  | nothing hsearch =>
    obtain rfl := Except.ok.inj hresult
    exact hsearch
  | single hsearch _ =>
    obtain rfl := Except.ok.inj hresult
    exact hsearch
  | @more _ _ captures later hsearch _ _ _ =>
    cases later with
    | error e => simp [Except.map] at hresult
    | ok later =>
      obtain rfl := Except.ok.inj hresult
      exact hsearch

/-- The matches in a text follow one another. -/
theorem chained_of_allMatches (h : p.matcher.WellBehaved text) {found : List Captures}
    (hfound : p.allMatches text = .ok found) : Chained text 0 found := by
  refine (allMatches_run h).chained h (fun c hc => ?_) hfound
  obtain rfl := Option.some.inj hc
  exact Cursor.text_start text

/-! ## The positions of the searches -/

/-- The positions from which the search for all matches of a text asks the matcher. -/
inductive Searched (p : Pattern) (text : List Char) : Cursor → Prop
  /-- The first search starts at the start of the text. -/
  | start : Searched p text (Cursor.start text)
  /-- After a match of a global pattern the search goes on. -/
  | next {position next captures} : Searched p text position →
      p.searchAt position = .ok (some captures) → p.flags.isGlobal = true →
      positionAfter position captures = .ok (some next) → Searched p text next

/-- A search comes to one thing. -/
lemma Run.unique {position : Option Cursor} {result result' : Except EvalError (List Captures)}
    (h : p.Run position result) (h' : p.Run position result') : result = result' := by
  -- what the matcher answers decides between the constructors
  induction h generalizing result' with
  | past => cases h'; rfl
  | failed hs => cases h' <;> simp_all
  | nothing hs => cases h' <;> simp_all
  | single hs hg => cases h' <;> simp_all
  | more hs hg hnext _ ih =>
    cases h' with
    | failed hs' => simp_all
    | nothing hs' => simp_all
    | single hs' hg' => simp_all
    | more hs' _ hnext' hrun' =>
      rw [hs] at hs'
      obtain rfl := Option.some.inj (Except.ok.inj hs')
      rw [hnext] at hnext'
      obtain rfl := Except.ok.inj hnext'
      rw [ih hrun']

lemma Searched.text_eq (_ : p.matcher.WellBehaved text) {position : Cursor}
    (hs : p.Searched text position) : position.text = text := by
  induction hs with
  | start => exact Cursor.text_start text
  | next _ _ _ hnext ih => exact (offset_of_positionAfter ih hnext).1 _ rfl

/-- Each search starts after the one before it. -/
theorem Searched.offset_lt (h : p.matcher.WellBehaved text) {position next : Cursor}
    {captures : Captures} (hs : p.Searched text position)
    (hsearch : p.searchAt position = .ok (some captures))
    (hnext : positionAfter position captures = .ok (some next)) :
    position.offset < next.offset := by
  have ht := hs.text_eq h
  have hwithin := h _ _ ht (searchAt_eq_some.mp hsearch).1
  obtain ⟨-, hoffset⟩ := offset_of_positionAfter ht hnext
  obtain ⟨first, last, -, -, hwhole, hle, -⟩ := hwithin.exists_cursors
  have hlt := hwithin.start_lt_resume
  rw [hwhole] at hlt
  rw [offsetOf] at hoffset
  rw [hoffset]
  exact Nat.lt_of_le_of_lt hle hlt

/-- What the search from one of its positions comes to ends the search as a whole. -/
lemma Searched.run_start {position : Cursor} (hs : p.Searched text position) :
    ∃ before, ∀ result, p.Run (some position) result →
      p.Run (some (Cursor.start text)) (result.map (before ++ ·)) := by
  induction hs with
  | start =>
    refine ⟨[], fun result hrun => ?_⟩
    cases result <;> exact hrun
  | @next position next captures _ hsearch hg hnext ih =>
    obtain ⟨before, hbefore⟩ := ih
    refine ⟨before ++ [captures], fun result hrun => ?_⟩
    have hmore := hbefore _ (.more hsearch hg hnext hrun)
    cases result with
    | error e => exact hmore
    | ok later => simpa [Except.map] using hmore

/-- If one of the searches fails, so does the search as a whole. -/
theorem allMatches_of_find_error (h : p.matcher.WellBehaved text) {position : Cursor}
    (hs : p.Searched text position) {e : EvalError} (hfind : p.matcher.find position = .error e) :
    p.allMatches text = .error e := by
  obtain ⟨before, hbefore⟩ := hs.run_start
  have hrun := hbefore _ (.failed (searchAt_eq_error.mpr hfind))
  exact (allMatches_run h).unique hrun

/-- The search as a whole only fails with the error of one of the searches. -/
theorem find_error_of_allMatches (h : p.matcher.WellBehaved text) {e : EvalError}
    (he : p.allMatches text = .error e) :
    ∃ position : Cursor, p.Searched text position ∧ p.matcher.find position = .error e := by
  -- by induction on the run, from any position that is searched
  suffices hind : ∀ {position : Option Cursor} {result : Except EvalError (List Captures)},
      p.Run position result → (∀ c ∈ position, p.Searched text c) → result = .error e →
      ∃ place : Cursor, p.Searched text place ∧ p.matcher.find place = .error e by
    refine hind (allMatches_run h) (fun c hc => ?_) he
    obtain rfl := Option.some.inj hc
    exact .start
  intro position result hrun
  induction hrun with
  | past => intro _ he; simp at he
  | @failed position e' hs =>
    intro hpos he
    obtain rfl := Except.error.inj he
    exact ⟨position, hpos _ rfl, searchAt_eq_error.mp hs⟩
  | nothing _ => intro _ he; simp at he
  | single _ _ => intro _ he; simp at he
  | @more position next captures result hs hg hnext _ ih =>
    intro hpos he
    refine ih (fun c hc => ?_) ?_
    · rw [Option.mem_def] at hc
      exact .next (hpos _ rfl) hs hg (hc ▸ hnext)
    · cases result with
      | error e' => simpa [Except.map] using he
      | ok later => simp [Except.map] at he

end Pattern

end TextExpr
