import TextExpr.Backtrack.Engine
import TextExpr.Proofs.GroupNumbers
import TextExpr.Proofs.LoopSafety
import TextExpr.Proofs.PatternValue

/-!
# The engines and the contract of matchers

The linear engine keeps the contract of matchers whatever the pattern. The backtracking engine
keeps it for patterns without `\K` in a look-behind; with one, a match may be said to start before
the search did, and that is all that may go wrong. Where the contract is kept, searching, replacing
and splitting end, and they cut out nothing but ranges that run forward.
-/

namespace TextExpr

/-- The contract without its word about the start: what a search finds is well-formed and ends at
or after the position of the search. -/
def Matcher.KeepsAllButStart (m : Matcher) : Prop :=
  ∃ count, ∀ (position : Cursor) (captures : Captures),
    m.find position = .ok (some captures) →
      captures.WellFormed position.text 0 count ∧ position.offset ≤ captures.whole.stop

/-! ## The backtracking engine -/

lemma Captures.WellFormed.mono {text : List Char} {least least' count : Nat} {captures : Captures}
    (h : captures.WellFormed text least count) (hle : least' ≤ least) :
    captures.WellFormed text least' count :=
  ⟨h.length, h.within.mono hle, h.spans⟩

lemma Matcher.KeepsContract.keepsAllButStart {m : Matcher} (h : m.KeepsContract) :
    m.KeepsAllButStart := by
  obtain ⟨count, hcount⟩ := h
  refine ⟨count, fun position captures hfind => ?_⟩
  have hwell := hcount position captures hfind
  obtain ⟨start, stop, hhead, hleast, hle, -⟩ := hwell.within
  rw [Captures.whole_of_head? hhead]
  exact ⟨hwell.mono (Nat.zero_le _), Nat.le_trans hleast hle⟩

/-- All that may go wrong then is that a match is said to start before the search did. -/
lemma Matcher.KeepsAllButStart.keepsContract_iff {m : Matcher} (h : m.KeepsAllButStart) :
    m.KeepsContract ↔ ∀ (position : Cursor) (captures : Captures),
      m.find position = .ok (some captures) → position.offset ≤ captures.whole.start := by
  constructor
  · rintro ⟨count, hcount⟩ position captures hfind
    obtain ⟨start, stop, hhead, hleast, -⟩ := (hcount position captures hfind).within
    rw [Captures.whole_of_head? hhead]
    exact hleast
  · intro hstart
    obtain ⟨count, hcount⟩ := h
    refine ⟨count, fun position captures hfind => ?_⟩
    obtain ⟨hwell, -⟩ := hcount position captures hfind
    obtain ⟨start, stop, hhead, -, hrest⟩ := hwell.within
    have hleast := hstart position captures hfind
    rw [Captures.whole_of_head? hhead] at hleast
    exact ⟨hwell.length, ⟨start, stop, hhead, hleast, hrest⟩, hwell.spans⟩

namespace Backtrack

/-- There is no `\K` in a look-behind of a pattern, if it is one. -/
def keepsStart (pattern : String) : Bool :=
  match Parsed.ofPattern pattern with
  | .ok parsed => parsed.tree.keepsStart true
  | .error _ => true

/-- What a plan for a pattern finds. -/
lemma program_wellFormed {pattern : String} {parsed : Parsed} {p : Program}
    (hparsed : Parsed.ofPattern pattern = .ok parsed) (h : program parsed = .ok p) :
    ∃ count, ∀ position captures, p.search position = .ok (some captures) →
      ∀ least, least ≤ position.offset → least = 0 ∨ parsed.tree.keepsStart true = true →
        captures.WellFormed position.text least count ∧
          position.offset ≤ captures.whole.stop := by
  obtain ⟨hnumbered, hcount⟩ := numbered_ofPattern hparsed
  simp only [program, bind_eq_ok, pure_eq_ok] at h
  obtain ⟨plan, hplan, rfl⟩ := h
  have hsuits := Tree.plan_suits true parsed.tree hnumbered hplan
  obtain ⟨count, hsucc⟩ := Nat.exists_eq_succ_of_ne_zero (Nat.ne_of_gt hcount)
  refine ⟨count + 1, fun position captures hfind least hleast hkeeps => ?_⟩
  rw [hsucc] at hfind
  exact Program.search_wellFormed hsuits.forward hsuits.numbered hfind hleast
    (hkeeps.imp_right (hsuits.keepsStart true))

/-- A hard pattern has a program, and an easy one is left to the linear engine. -/
lemma matcher_cases {pattern : String} {m : Matcher} (h : matcher pattern = .ok m) :
    (∃ parsed p, Parsed.ofPattern pattern = .ok parsed ∧ program parsed = .ok p ∧
      m = p.matcher) ∨ ∃ p, m = Linear.matcher p := by
  simp only [matcher, bind_eq_ok] at h
  obtain ⟨parsed, hparsed, h⟩ := h
  split at h
  · simp only [bind_eq_ok, pure_eq_ok] at h
    obtain ⟨p, hp, rfl⟩ := h
    exact Or.inl ⟨parsed, p, hparsed, hp, rfl⟩
  · split at h
    · exact Or.inr ⟨_, (pure_eq_ok.mp h).symm⟩
    · exact (throw_eq_ok.mp h).elim

/-- The matcher of a pattern keeps the contract if the pattern has no `\K` in a look-behind, and
otherwise all of it but the start. -/
theorem matcher_keepsContract {pattern : String} {m : Matcher} (h : matcher pattern = .ok m) :
    m.KeepsAllButStart ∧ (keepsStart pattern = true → m.KeepsContract) := by
  obtain ⟨parsed, p, hparsed, hp, rfl⟩ | ⟨p, rfl⟩ := matcher_cases h
  · obtain ⟨count, hcount⟩ := program_wellFormed hparsed hp
    refine ⟨⟨count, fun position captures hfind => ?_⟩, fun hkeeps => ⟨count, ?_⟩⟩
    · exact hcount position captures (mapError_eq_ok.mp hfind) 0 (Nat.zero_le _) (Or.inl rfl)
    · intro position captures hfind
      simp only [keepsStart, hparsed] at hkeeps
      exact (hcount position captures (mapError_eq_ok.mp hfind) _ (Nat.le_refl _)
        (Or.inr hkeeps)).1
  · have hlinear := Linear.keepsContract_matcher p
    exact ⟨hlinear.keepsAllButStart, fun _ => hlinear⟩

/-- A search that fails has come to the limit. -/
lemma run_eq_error {origin fuel : Nat} {c : Config} {failure : EngineFailure}
    (h : run origin fuel c = .error failure) : failure = .backtrackLimit := by
  induction fuel generalizing c with
  | zero => exact (Except.error.inj h).symm
  | succ fuel ih =>
    rw [run] at h
    split at h
    · exact ih h
    · simp at h
    · exact (Except.error.inj h).symm

lemma Program.find_eq_error {p : Program} {position : Cursor} {e : EvalError}
    (h : p.matcher.find position = .error e) : e = .engine .backtrackLimit := by
  obtain ⟨failure, hsearch, rfl⟩ := mapError_eq_error.mp h
  rw [search] at hsearch
  cases hrun : run position.offset stepLimit _ with
  | error failure' =>
    rw [hrun] at hsearch
    rw [← Except.error.inj hsearch, run_eq_error hrun]
  | ok found => simp [hrun, Except.map] at hsearch

end Backtrack

lemma matcher_of_backtracking {source : String} {flags : Flags} {m : Matcher}
    (h : backtrackingEngine.compile source flags = .ok m) :
    Backtrack.matcher (flags.apply source) = .ok m := by
  simp only [backtrackingEngine] at h
  split at h
  · next hmatcher =>
    obtain rfl := Except.ok.inj h
    exact hmatcher
  · simp at h

lemma keepsContract_of_backtracking {source : String} {flags : Flags} {m : Matcher}
    (h : backtrackingEngine.compile source flags = .ok m) :
    m.KeepsAllButStart ∧ (Backtrack.keepsStart (flags.apply source) = true → m.KeepsContract) :=
  Backtrack.matcher_keepsContract (matcher_of_backtracking h)

/-- No search of the linear engine fails, and one of the backtracking engine only at the limit. -/
lemma find_eq_error_of_compile {engine : Engine} {source : String} {flags : Flags} {m : Matcher}
    (hengine : engine = linearEngine ∨ engine = backtrackingEngine)
    (h : engine.compile source flags = .ok m) {position : Cursor} {e : EvalError}
    (hfind : m.find position = .error e) :
    engine = backtrackingEngine ∧ e = .engine .backtrackLimit := by
  rcases hengine with rfl | rfl
  · obtain ⟨p, rfl⟩ := exists_program_of_linear h
    simp [Linear.matcher] at hfind
  · obtain ⟨_, p, -, -, rfl⟩ | ⟨p, rfl⟩ := Backtrack.matcher_cases (matcher_of_backtracking h)
    · exact ⟨rfl, Backtrack.Program.find_eq_error hfind⟩
    · simp [Linear.matcher] at hfind

/-! ## Both engines -/

/-- What an engine compiles keeps all of the contract but the start, and the whole of it if no match
is said to start before the search did; a search only fails at the limit for backtracking. The
contract is kept with the linear engine, and with the backtracking engine for a pattern without `\K`
in a look-behind. Where it is kept, the loops over the matches end. -/
theorem keepsContract_of_compile {engine : Engine} {source : String} {flags : Flags} {m : Matcher}
    (hengine : engine = linearEngine ∨ engine = backtrackingEngine)
    (h : engine.compile source flags = .ok m) :
    m.KeepsAllButStart ∧
    (m.KeepsContract ↔ ∀ (position : Cursor) (captures : Captures),
      m.find position = .ok (some captures) → position.offset ≤ captures.whole.start) ∧
    (∀ (position : Cursor) (e : EvalError), m.find position = .error e →
      engine = backtrackingEngine ∧ e = .engine .backtrackLimit) ∧
    (engine = linearEngine ∨ Backtrack.keepsStart (flags.apply source) = true →
      m.KeepsContract) ∧
    (m.KeepsContract → ∀ (value : Json) (p : Pattern), Pattern.normalize engine value = .ok p →
      p.source = source → p.flags = flags → ∀ text, p.LoopsEnd text) := by
  have hboth : m.KeepsAllButStart ∧
      (engine = linearEngine ∨ Backtrack.keepsStart (flags.apply source) = true →
        m.KeepsContract) := by
    rcases hengine with rfl | rfl
    · have hlinear := keepsContract_of_linear h
      exact ⟨hlinear.keepsAllButStart, fun _ => hlinear⟩
    · obtain ⟨hall, hkeeps⟩ := keepsContract_of_backtracking h
      refine ⟨hall, fun hor => hor.elim (fun heq => ?_) hkeeps⟩
      exact absurd (congrArg Engine.name heq) (by decide)
  refine ⟨hboth.1, hboth.1.keepsContract_iff,
    fun _ _ hfind => find_eq_error_of_compile hengine h hfind, hboth.2, ?_⟩
  intro hm value p hp hsource hflags text
  have hcompile := Pattern.compile_of_normalize hp
  rw [hsource, hflags, h] at hcompile
  obtain rfl := Except.ok.inj hcompile
  exact Pattern.loopsEnd_of_findsWithin (hm.findsWithin _)

/-- A start that is moved in front of a look-ahead and behind a look-behind. -/
theorem keepsContract_of_compile_moved :
    ∃ p, Pattern.normalize backtrackingEngine (.arr [.str "(?<=a)b\\K(?=c)", .str "g"]) = .ok p ∧
      Backtrack.keepsStart (p.flags.apply p.source) = true ∧ p.matcher.KeepsContract ∧
      p.LoopsEnd "abcabc" := by
  have hvalue : ((Pattern.normalize backtrackingEngine
      (.arr [.str "(?<=a)b\\K(?=c)", .str "g"])).toOption.any fun p =>
        Backtrack.keepsStart (p.flags.apply p.source)) = true := by decide +kernel
  obtain ⟨p, hsome, hkeeps⟩ := (Option.any_eq_true _ _).mp hvalue
  have hp := eq_ok_of_toOption hsome
  obtain ⟨-, -, -, hcontract, hloops⟩ :=
    keepsContract_of_compile (Or.inr rfl) (Pattern.compile_of_normalize hp)
  have hm := hcontract (Or.inr hkeeps)
  exact ⟨p, hp, hkeeps, hm, hloops hm _ _ hp rfl rfl _⟩

/-- With `\K` in a look-behind a match is said to start before the search does, and the search for
all matches finds it again and again. -/
theorem not_keepsContract_of_compile :
    ∃ m, backtrackingEngine.compile "(?<=\\Ka)" {} = .ok m ∧
      m.find ⟨['a'], ['b'], 1, rfl⟩ = .ok (some [some ⟨0, 1⟩]) ∧ ¬m.KeepsContract ∧
      (Pattern.mk "backtracking" "(?<=\\Ka)" { isGlobal := true } m).allMatches ['a', 'b'] =
        .error .endlessSearch := by
  have hcompile : backtrackingEngine.compile "(?<=\\Ka)" {} =
      .ok (Backtrack.Program.mk (.whole (.check (.seq (.back 1)
        (.seq .empty (.seq .matchStart (.text ['a'])))))) 1).matcher := by with_unfolding_all rfl
  refine ⟨_, hcompile, rfl, ?_, rfl⟩
  rintro ⟨count, hcount⟩
  obtain ⟨start, stop, hhead, hle, -⟩ := (hcount ⟨['a'], ['b'], 1, rfl⟩ [some ⟨0, 1⟩] rfl).within
  obtain ⟨rfl, -⟩ := Span.mk.inj (Option.some.inj (Option.some.inj hhead))
  exact absurd hle (by decide)

end TextExpr
