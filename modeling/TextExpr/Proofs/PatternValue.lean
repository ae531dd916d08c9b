import TextExpr.Pattern.Basic
import TextExpr.Proofs.FlagLetters
import TextExpr.Proofs.Result

/-!
# Patterns as values

What a value has to be to stand for a pattern, and the value that stands for a given pattern.
`normalize_eq_ok` takes normalization apart: the source and the flags come from the shape of the
value, and the rest from compiling them. `normalize_toJson_of_normalize` says that the value of a
pattern stands for that pattern, and `toJson_eq_iff` that it shows the source and the flags.
-/

namespace TextExpr

namespace Pattern

variable {engine : Engine} {p q : Pattern}

/-! ## From a value -/

/-- What compiling comes to once it succeeds. -/
lemma compile_eq_ok {source flags : String} :
    compile engine source flags = .ok p ↔ ∃ parsed matcher, Flags.parse flags = .ok parsed ∧
      engine.compile source parsed = .ok matcher ∧ p = ⟨engine.name, source, parsed, matcher⟩ := by
  simp only [compile, bind_eq_ok, pure_eq_ok, eq_comm (b := p), exists_and_left]

/-- A value stands for what its source and its flags are compiled to. -/
lemma normalize_eq_ok {value : Json} :
    normalize engine value = .ok p ↔ ∃ candidate, PatternCandidate.classify value = .ok candidate ∧
      compile engine candidate.sourceText candidate.flagText = .ok p :=
  bind_eq_ok

/-- So a pattern is determined by its engine, its source and its flags. -/
lemma eq_of_compile {source source' flags flags' : String}
    (hp : compile engine source flags = .ok p) (hq : compile engine source' flags' = .ok q)
    (hsource : p.source = q.source) (hflags : p.flags = q.flags) : p = q := by
  obtain ⟨parsed, matcher, -, hmatcher, rfl⟩ := compile_eq_ok.mp hp
  obtain ⟨parsed', matcher', -, hmatcher', rfl⟩ := compile_eq_ok.mp hq
  simp only at hsource hflags
  subst hsource hflags
  rw [hmatcher] at hmatcher'
  rw [Except.ok.inj hmatcher']

lemma compile_of_normalize {value : Json} (h : normalize engine value = .ok p) :
    engine.compile p.source p.flags = .ok p.matcher := by
  obtain ⟨candidate, -, hcompile⟩ := normalize_eq_ok.mp h
  obtain ⟨parsed, matcher, -, hmatcher, rfl⟩ := compile_eq_ok.mp hcompile
  exact hmatcher

/-- A value that is taken for a pattern says what its source and its flags are. -/
lemma eq_of_normalize {engine' : Engine} {value : Json} (hp : normalize engine value = .ok p)
    (hq : normalize engine' value = .ok q) : q.source = p.source ∧ q.flags = p.flags := by
  obtain ⟨candidate, hcandidate, hcompile⟩ := normalize_eq_ok.mp hp
  obtain ⟨candidate', hcandidate', hcompile'⟩ := normalize_eq_ok.mp hq
  obtain rfl := Except.ok.inj (hcandidate.symm.trans hcandidate')
  obtain ⟨parsed, matcher, hflags, -, rfl⟩ := compile_eq_ok.mp hcompile
  obtain ⟨parsed', matcher', hflags', -, rfl⟩ := compile_eq_ok.mp hcompile'
  rw [hflags] at hflags'
  exact ⟨rfl, (Except.ok.inj hflags').symm⟩

/-! ## To a value -/

/-- The value of a pattern is an object with its source and its flags. -/
lemma classify_toJson (p : Pattern) : ∃ candidate,
    PatternCandidate.classify p.toJson = .ok candidate ∧ candidate.sourceText = p.source ∧
      candidate.flagText = p.flags.text := by
  unfold toJson
  split
  · next htext => exact ⟨.object p.source none, rfl, rfl, htext.symm⟩
  · exact ⟨.object p.source (some p.flags.text), rfl, rfl, rfl⟩

/-- The source and the flags of a pattern can be seen from its value. -/
theorem toJson_eq_iff : p.toJson = q.toJson ↔ p.source = q.source ∧ p.flags = q.flags := by
  constructor
  · intro h
    obtain ⟨candidate, hp, hsource, hflags⟩ := p.classify_toJson
    obtain ⟨candidate', hq, hsource', hflags'⟩ := q.classify_toJson
    rw [h, hq] at hp
    obtain rfl := Except.ok.inj hp
    have hparse := Flags.parse_text p.flags
    rw [← hflags, hflags', Flags.parse_text] at hparse
    exact ⟨hsource.symm.trans hsource', (Except.ok.inj hparse).symm⟩
  · rintro ⟨hsource, hflags⟩
    rw [toJson, toJson, hsource, hflags]

/-- The value of a pattern stands for that pattern. -/
theorem normalize_toJson_of_normalize {value : Json} (h : normalize engine value = .ok p) :
    normalize engine p.toJson = .ok p := by
  obtain ⟨candidate, -, hcompile⟩ := normalize_eq_ok.mp h
  obtain ⟨parsed, matcher, -, hmatcher, rfl⟩ := compile_eq_ok.mp hcompile
  obtain ⟨canonical, hcanonical, hsource, hflags⟩ := classify_toJson _
  refine normalize_eq_ok.mpr ⟨canonical, hcanonical, compile_eq_ok.mpr ?_⟩
  rw [hsource, hflags]
  exact ⟨parsed, matcher, Flags.parse_text parsed, hmatcher, rfl⟩

/-- Patterns show as the same value exactly if they come from the same source and from flags of the
same letters. -/
theorem toJson_eq_iff_of_normalize {value value' : Json} {candidate candidate' : PatternCandidate}
    (hc : PatternCandidate.classify value = .ok candidate)
    (hc' : PatternCandidate.classify value' = .ok candidate')
    (hp : normalize engine value = .ok p) (hq : normalize engine value' = .ok q) :
    p.toJson = q.toJson ↔ candidate.sourceText = candidate'.sourceText ∧
      ∀ letter, letter ∈ candidate.flagText.toList ↔ letter ∈ candidate'.flagText.toList := by
  obtain ⟨c, hcandidate, hcompile⟩ := normalize_eq_ok.mp hp
  obtain ⟨c', hcandidate', hcompile'⟩ := normalize_eq_ok.mp hq
  rw [hc] at hcandidate
  rw [hc'] at hcandidate'
  obtain rfl := Except.ok.inj hcandidate
  obtain rfl := Except.ok.inj hcandidate'
  obtain ⟨parsed, matcher, hflags, -, rfl⟩ := compile_eq_ok.mp hcompile
  obtain ⟨parsed', matcher', hflags', -, rfl⟩ := compile_eq_ok.mp hcompile'
  rw [toJson_eq_iff, Flags.eq_iff_of_parse hflags hflags']

end Pattern

end TextExpr
