import Mathlib.Tactic.Lemma
import TextExpr.Pattern.Basic
import TextExpr.Proofs.Result

/-!
# Flags by their letters

Flags are determined by the letters that they are written with. `mem_text_of_parse` says that
reading letters sets the flags of these letters and no others, so that their order does not count;
`parse_eq_ok_iff` says which letters can be read; `parse_text` says that the letters that flags
are written with are read as these flags. `parse_outcome` puts together what reading a text as
flags comes to.
-/

namespace TextExpr

namespace Flags

/-! ## Writing -/

lemma mem_text {flags : Flags} {letter : Char} :
    letter ∈ flags.text.toList ↔ (true, letter) ∈ flags.letters := by
  rw [text, String.toList_ofList, chosen]
  simp

/-- The letters that name a flag, in their fixed order. -/
def known : List Char := ['g', 'i', 'm', 's', 'u', 'y']

lemma text_sublist_known (flags : Flags) : flags.text.toList.Sublist known := by
  have hsublist := (List.filter_sublist (p := fun entry => entry.1) (l := flags.letters)).map
    (fun entry => entry.2)
  rw [text, String.toList_ofList, chosen]
  exact hsublist

/-- No letter is written twice. -/
lemma nodup_text (flags : Flags) : flags.text.toList.Nodup :=
  flags.text_sublist_known.nodup (by decide)

/-- Flags that are written with the same letters are the same. -/
theorem eq_of_mem_text_iff {flags flags' : Flags}
    (h : ∀ letter, letter ∈ flags.text.toList ↔ letter ∈ flags'.text.toList) : flags = flags' := by
  simp only [mem_text, letters] at h
  -- each flag shows at its own letter
  have hg := h 'g'
  have hi := h 'i'
  have hm := h 'm'
  have hs := h 's'
  have hu := h 'u'
  have hy := h 'y'
  simp only [List.mem_cons, Prod.mk.injEq, Char.reduceEq, and_true, and_false, or_false, false_or,
    List.not_mem_nil, eq_comm (a := true), Bool.coe_iff_coe] at hg hi hm hs hu hy
  cases flags
  cases flags'
  rw [mk.injEq]
  exact ⟨hg, hi, hm, hs, hu, hy⟩

/-! ## Reading -/

/-- A letter that is read sets its own flag. -/
lemma mem_text_of_set? {flags flags' : Flags} {c letter : Char} (h : flags.set? c = some flags') :
    letter ∈ flags'.text.toList ↔ letter = c ∨ letter ∈ flags.text.toList := by
  unfold set? at h
  split at h
  case h_7 => simp at h
  all_goals
    obtain rfl := Option.some.inj h
    simp only [mem_text, letters, List.mem_cons, Prod.mk.injEq, true_and, List.not_mem_nil]
    grind

lemma exists_set? (flags : Flags) {c : Char} (h : c ∈ known) :
    ∃ flags', flags.set? c = some flags' := by
  simp only [known, List.mem_cons, List.not_mem_nil, or_false] at h
  rcases h with rfl | rfl | rfl | rfl | rfl | rfl <;> exact ⟨_, rfl⟩

/-- Letters that are read set their own flags. -/
lemma mem_text_of_foldlM {chars : List Char} {flags flags' : Flags} {letter : Char}
    (h : chars.foldlM set? flags = some flags') :
    letter ∈ flags'.text.toList ↔ letter ∈ chars ∨ letter ∈ flags.text.toList := by
  induction chars generalizing flags with
  | nil =>
    obtain rfl := Option.some.inj h
    simp
  | cons c chars ih =>
    rw [List.foldlM_cons] at h
    obtain ⟨next, hset, hrest⟩ := Option.bind_eq_some_iff.mp h
    rw [ih hrest, mem_text_of_set? hset, List.mem_cons]
    grind

lemma exists_foldlM {chars : List Char} (flags : Flags) (h : ∀ c ∈ chars, c ∈ known) :
    ∃ flags', chars.foldlM set? flags = some flags' := by
  induction chars generalizing flags with
  | nil => exact ⟨flags, rfl⟩
  | cons c chars ih =>
    obtain ⟨next, hset⟩ := flags.exists_set? (h c List.mem_cons_self)
    obtain ⟨flags', hrest⟩ := ih next fun d hd => h d (List.mem_cons_of_mem _ hd)
    refine ⟨flags', ?_⟩
    rw [List.foldlM_cons, hset]
    exact hrest

/-- Letters are read one after the other if none of them is repeated. -/
lemma parse_eq_ok {source : String} {flags : Flags} :
    parse source = .ok flags ↔
      source.toList.Nodup ∧ source.toList.foldlM set? {} = some flags := by
  unfold parse
  by_cases hnodup : source.toList.Nodup
  · rw [if_pos hnodup]
    cases source.toList.foldlM set? {} <;> simp [hnodup]
  · simp [hnodup]

/-- What cannot be read is complained about as it is. -/
lemma parse_eq_error {source : String} {e : EvalError} (h : parse source = .error e) :
    e = .invalidFlags source := by
  unfold parse at h
  split at h
  · simp at h
  · exact (Except.error.inj h).symm

/-- The flags that are set by reading are those whose letters are read. -/
theorem mem_text_of_parse {source : String} {flags : Flags} (h : parse source = .ok flags)
    (letter : Char) : letter ∈ flags.text.toList ↔ letter ∈ source.toList := by
  obtain ⟨-, hread⟩ := parse_eq_ok.mp h
  rw [mem_text_of_foldlM hread, mem_text]
  simp [letters]

/-- The same flags are read exactly from the same letters, in whatever order. -/
theorem eq_iff_of_parse {source source' : String} {flags flags' : Flags}
    (h : parse source = .ok flags) (h' : parse source' = .ok flags') :
    flags = flags' ↔ ∀ letter, letter ∈ source.toList ↔ letter ∈ source'.toList := by
  have hletters : (∀ letter, letter ∈ source.toList ↔ letter ∈ source'.toList) ↔
      ∀ letter, letter ∈ flags.text.toList ↔ letter ∈ flags'.text.toList := by
    simp only [mem_text_of_parse h, mem_text_of_parse h']
  rw [hletters]
  constructor
  · rintro rfl letter
    rfl
  · exact eq_of_mem_text_iff

/-- The flags of the given letters. -/
def ofLetters (letters : List Char) : Flags where
  isGlobal := 'g' ∈ letters
  ignoreCase := 'i' ∈ letters
  multiline := 'm' ∈ letters
  dotAll := 's' ∈ letters
  unicode := 'u' ∈ letters
  sticky := 'y' ∈ letters

lemma mem_text_ofLetters {chars : List Char} {letter : Char} :
    letter ∈ (ofLetters chars).text.toList ↔ letter ∈ chars ∧ letter ∈ known := by
  simp only [mem_text, letters, ofLetters, known, List.mem_cons, Prod.mk.injEq, List.not_mem_nil,
    or_false, eq_comm (a := true), decide_eq_true_eq]
  grind

/-- Reading letters gives the flags of these letters, and there is a flag for each of them. -/
lemma eq_ofLetters_of_parse {source : String} {flags : Flags} (h : parse source = .ok flags) :
    (∀ c ∈ source.toList, c ∈ known) ∧ flags = ofLetters source.toList := by
  have hknown : ∀ c ∈ source.toList, c ∈ known := by
    intro c hc
    exact flags.text_sublist_known.subset ((mem_text_of_parse h c).mpr hc)
  refine ⟨hknown, eq_of_mem_text_iff fun letter => ?_⟩
  rw [mem_text_of_parse h, mem_text_ofLetters]
  exact ⟨fun hletter => ⟨hletter, hknown letter hletter⟩, And.left⟩

/-- Letters are read if each of them names a flag and none is repeated. -/
theorem parse_eq_ok_iff {source : String} {flags : Flags} :
    parse source = .ok flags ↔ source.toList.Nodup ∧ (∀ c ∈ source.toList, c ∈ known) ∧
      flags = ofLetters source.toList := by
  constructor
  · intro h
    exact ⟨(parse_eq_ok.mp h).1, eq_ofLetters_of_parse h⟩
  · rintro ⟨hnodup, hknown, rfl⟩
    obtain ⟨flags, hread⟩ := exists_foldlM {} hknown
    have hparse : parse source = .ok flags := parse_eq_ok.mpr ⟨hnodup, hread⟩
    rw [hparse, (eq_ofLetters_of_parse hparse).2]

/-- Other letters are refused. -/
theorem parse_eq_error_iff {source : String} {e : EvalError} :
    parse source = .error e ↔
      ¬(source.toList.Nodup ∧ ∀ c ∈ source.toList, c ∈ known) ∧ e = .invalidFlags source := by
  constructor
  · intro herror
    refine ⟨?_, parse_eq_error herror⟩
    rintro ⟨hnodup, hknown⟩
    have hok := parse_eq_ok_iff.mpr ⟨hnodup, hknown, rfl⟩
    rw [herror] at hok
    simp at hok
  · rintro ⟨hrefused, rfl⟩
    cases h : parse source with
    | error e => rw [parse_eq_error h]
    | ok flags =>
      obtain ⟨hnodup, hknown, -⟩ := parse_eq_ok_iff.mp h
      exact absurd ⟨hnodup, hknown⟩ hrefused

/-- The letters that flags are written with are read as these flags. -/
theorem parse_text (flags : Flags) : parse flags.text = .ok flags := by
  obtain ⟨flags', hread⟩ := exists_foldlM {} fun c hc => flags.text_sublist_known.subset hc
  have hparse : parse flags.text = .ok flags' := parse_eq_ok.mpr ⟨flags.nodup_text, hread⟩
  rw [hparse, eq_of_mem_text_iff (mem_text_of_parse hparse)]

/-! ## Reading and writing -/

/-- Flags are written with the letters that they were read from. -/
lemma text_perm_of_parse {source : String} {flags : Flags} (h : parse source = .ok flags) :
    flags.text.toList.Perm source.toList := by
  obtain ⟨hnodup, -⟩ := parse_eq_ok_iff.mp h
  exact (List.perm_ext_iff_of_nodup flags.nodup_text hnodup).mpr (mem_text_of_parse h)

/-- The same flags are read exactly from rearranged letters. -/
lemma eq_iff_perm_of_parse {source source' : String} {flags flags' : Flags}
    (h : parse source = .ok flags) (h' : parse source' = .ok flags') :
    flags = flags' ↔ source.toList.Perm source'.toList := by
  obtain ⟨hnodup, -⟩ := parse_eq_ok_iff.mp h
  obtain ⟨hnodup', -⟩ := parse_eq_ok_iff.mp h'
  rw [eq_iff_of_parse h h', List.perm_ext_iff_of_nodup hnodup hnodup']

/-- Compiling fails with the error of reading the flags, and otherwise with that of the engine. -/
lemma compile_eq_error {engine : Engine} {pattern source : String} {e : EvalError} :
    Pattern.compile engine pattern source = .error e ↔ parse source = .error e ∨
      ∃ flags, parse source = .ok flags ∧ engine.compile pattern flags = .error e := by
  have hpure : ∀ p : Pattern, (pure p : Except EvalError Pattern) ≠ .error e := by
    intro p h
    simp [pure, Except.pure] at h
  simp only [Pattern.compile, bind_eq_error, hpure, and_false, exists_false, or_false]

/-- A text is read as flags exactly if its characters are letters of flags, none of them twice. Any
other text is complained about as it is, and compiling a pattern with it passes this error on, without
the engine; with flags that can be read compiling fails as the engine does. The flags that are set are
those whose letters occur. They are written with the same letters, put in the fixed order, which are
read as these flags again; and the same flags are read exactly from rearranged letters. -/
theorem parse_outcome (source : String) :
    ((∃ flags, parse source = .ok flags) ↔
      source.toList.Nodup ∧ ∀ c ∈ source.toList, c ∈ known) ∧
    (∀ e, parse source = .error e ↔
      ¬(source.toList.Nodup ∧ ∀ c ∈ source.toList, c ∈ known) ∧ e = .invalidFlags source) ∧
    (∀ (engine : Engine) (pattern : String) (e : EvalError),
      Pattern.compile engine pattern source = .error e ↔ parse source = .error e ∨
        ∃ flags, parse source = .ok flags ∧ engine.compile pattern flags = .error e) ∧
    ∀ flags, parse source = .ok flags →
      ((flags.isGlobal = true ↔ 'g' ∈ source.toList) ∧
        (flags.ignoreCase = true ↔ 'i' ∈ source.toList) ∧
        (flags.multiline = true ↔ 'm' ∈ source.toList) ∧
        (flags.dotAll = true ↔ 's' ∈ source.toList) ∧
        (flags.unicode = true ↔ 'u' ∈ source.toList) ∧
        (flags.sticky = true ↔ 'y' ∈ source.toList)) ∧
      (flags.text.toList.Perm source.toList ∧ flags.text.toList.Sublist known) ∧
      parse flags.text = .ok flags ∧
      ∀ source' flags', parse source' = .ok flags' →
        (flags = flags' ↔ source.toList.Perm source'.toList) := by
  refine ⟨?_, fun e => parse_eq_error_iff, fun engine pattern e => compile_eq_error,
    fun flags h => ⟨?_, ⟨text_perm_of_parse h, flags.text_sublist_known⟩, parse_text flags,
      fun source' flags' h' => eq_iff_perm_of_parse h h'⟩⟩
  · constructor
    · rintro ⟨flags, h⟩
      obtain ⟨hnodup, hknown, -⟩ := parse_eq_ok_iff.mp h
      exact ⟨hnodup, hknown⟩
    · rintro ⟨hnodup, hknown⟩
      exact ⟨_, parse_eq_ok_iff.mpr ⟨hnodup, hknown, rfl⟩⟩
  · obtain ⟨-, -, rfl⟩ := parse_eq_ok_iff.mp h
    simp only [ofLetters, decide_eq_true_eq, and_self]

/-- The letters `yig` are written as `giy`, which is read as the same flags; `gig` and `gx` are
refused. -/
theorem parse_outcome_yig :
    ∃ flags, parse "yig" = .ok flags ∧ flags.text = "giy" ∧
      (flags.isGlobal = true ↔ 'g' ∈ "yig".toList) ∧ flags.text.toList.Perm "yig".toList ∧
      parse flags.text = .ok flags ∧
      (∀ flags', parse "iyg" = .ok flags' → (flags = flags' ↔ "yig".toList.Perm "iyg".toList)) ∧
      (∀ source ∈ ["gig", "gx"], ∀ (engine : Engine) (pattern : String),
        Pattern.compile engine pattern source = .error (.invalidFlags source)) := by
  have hread : parse "yig" = .ok { isGlobal := true, ignoreCase := true, sticky := true } := rfl
  obtain ⟨-, -, -, hflags⟩ := parse_outcome "yig"
  obtain ⟨⟨hglobal, -⟩, ⟨hperm, -⟩, hagain, hsame⟩ := hflags _ hread
  refine ⟨_, hread, by decide, hglobal, hperm, hagain, hsame "iyg", ?_⟩
  intro source hsource engine pattern
  obtain ⟨-, hrejected, hcompile, -⟩ := parse_outcome source
  refine (hcompile engine pattern _).mpr (Or.inl ((hrejected _).mpr ⟨?_, rfl⟩))
  simp only [List.mem_cons, List.not_mem_nil, or_false] at hsource
  rcases hsource with rfl | rfl <;> simp [known]

end Flags

end TextExpr
