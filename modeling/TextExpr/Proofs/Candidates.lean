import TextExpr.Pattern.PlainText
import TextExpr.Proofs.PatternValue

/-!
# Which values are patterns

The shapes of the values that stand for a pattern, said apart from how they are told from others:
`Describes` gives the source and the flags that a value stands for. `normalize_outcome` says that a
value is refused for its shape first, then for its flags and only then by the engine, and that it is
the pattern of its source and its flags otherwise.
-/

namespace TextExpr

namespace PatternCandidate

/-! ## Shapes -/

/-- What is given for flags: a string, or nothing, which means no flags. -/
inductive GivesFlags : Option Json → String → Prop
  /-- Nothing is given. -/
  | absent : GivesFlags none ""
  /-- Null stands for nothing. -/
  | null : GivesFlags (some .null) ""
  /-- The letters of the flags. -/
  | letters (flags : String) : GivesFlags (some (.str flags)) flags

/-- The source and the flags of a value that stands for a pattern. -/
inductive Describes : Json → String → String → Prop
  /-- A string is a source. -/
  | string (source : String) : Describes (.str source) source ""
  /-- So is the only string of an array. -/
  | single (source : String) : Describes (.arr [.str source]) source ""
  /-- An array of two gives the flags as well. -/
  | pair {given : Json} {flags : String} (source : String) :
      GivesFlags (some given) flags → Describes (.arr [.str source, given]) source flags
  /-- An object gives both by name, and nothing else. -/
  | object {members : Members} {source flags : String} :
      members.get? "source" = some (.str source) → GivesFlags (members.get? "flags") flags →
      (∀ entry ∈ members, entry.1 = "source" ∨ entry.1 = "flags") →
      Describes (.obj members) source flags

variable {value : Json} {members : Members} {source flags : String}

lemma exists_ofMembers?_of_describes (hsource : members.get? "source" = some (.str source))
    (hflags : GivesFlags (members.get? "flags") flags)
    (honly : ∀ entry ∈ members, entry.1 = "source" ∨ entry.1 = "flags") :
    ∃ candidate, ofMembers? members = some candidate ∧ candidate.sourceText = source ∧
      candidate.flagText = flags := by
  have hall : (members.all fun entry => entry.1 == "source" || entry.1 == "flags") = true := by
    simpa using honly
  unfold ofMembers?
  rw [if_pos hall, hsource]
  generalize members.get? "flags" = given? at hflags
  cases hflags with
  | absent => exact ⟨.object source none, rfl, rfl, rfl⟩
  | null => exact ⟨.object source none, rfl, rfl, rfl⟩
  | letters flags => exact ⟨.object source (some flags), rfl, rfl, rfl⟩

lemma describes_of_ofMembers? {candidate : PatternCandidate}
    (h : ofMembers? members = some candidate) :
    Describes (.obj members) candidate.sourceText candidate.flagText := by
  unfold ofMembers? at h
  split at h
  case isFalse => simp at h
  case isTrue hall =>
    have honly : ∀ entry ∈ members, entry.1 = "source" ∨ entry.1 = "flags" := by
      simpa using hall
    split at h
    case h_4 => simp at h
    all_goals
      next hsource hflags =>
        obtain rfl := Option.some.inj h
        refine .object hsource ?_ honly
        rw [hflags]
        constructor

lemma describes_of_classify? {candidate : PatternCandidate} (h : classify? value = some candidate) :
    Describes value candidate.sourceText candidate.flagText := by
  unfold classify? at h
  split at h
  case h_5 => exact describes_of_ofMembers? h
  case h_6 => simp at h
  all_goals obtain rfl := Option.some.inj h
  · exact .string _
  · exact .single _
  · exact .pair _ .null
  · exact .pair _ (.letters _)

/-- The values that stand for a pattern are those of the shapes that are looked for. -/
theorem describes_iff : Describes value source flags ↔ ∃ candidate,
    classify? value = some candidate ∧ candidate.sourceText = source ∧
      candidate.flagText = flags := by
  constructor
  · intro h
    cases h with
    | string source => exact ⟨.source source, rfl, rfl, rfl⟩
    | single source => exact ⟨.pair source none, rfl, rfl, rfl⟩
    | pair source hflags =>
      cases hflags with
      | null => exact ⟨.pair source none, rfl, rfl, rfl⟩
      | letters flags => exact ⟨.pair source (some flags), rfl, rfl, rfl⟩
    | object hsource hflags honly => exact exists_ofMembers?_of_describes hsource hflags honly
  · rintro ⟨candidate, hcandidate, rfl, rfl⟩
    exact describes_of_classify? hcandidate

end PatternCandidate

open PatternCandidate

namespace Pattern

variable {engine : Engine} {value : Json} {source flags : String}

lemma normalize_of_classify?_none (h : classify? value = none) :
    normalize engine value = .error (.invalidPatternCandidate value) := by
  rw [normalize, classify, h]
  rfl

lemma normalize_of_describes (h : Describes value source flags) :
    normalize engine value = compile engine source flags := by
  obtain ⟨candidate, hcandidate, rfl, rfl⟩ := describes_iff.mp h
  rw [normalize, classify, hcandidate]
  rfl

/-! ## Flags before sources -/

lemma normalize_of_refused_flags (h : Describes value source flags)
    (hflags : ¬(flags.toList.Nodup ∧ ∀ c ∈ flags.toList, c ∈ Flags.known)) :
    normalize engine value = .error (.invalidFlags flags) := by
  rw [normalize_of_describes h, compile, Flags.parse_eq_error_iff.mpr ⟨hflags, rfl⟩]
  rfl

/-- With flags that can be read the engine decides. -/
lemma normalize_of_known_flags (h : Describes value source flags) (hnodup : flags.toList.Nodup)
    (hknown : ∀ c ∈ flags.toList, c ∈ Flags.known) :
    normalize engine value = (engine.compile source (.ofLetters flags.toList)).map
      (⟨engine.name, source, .ofLetters flags.toList, ·⟩) := by
  rw [normalize_of_describes h, compile, Flags.parse_eq_ok_iff.mpr ⟨hnodup, hknown, rfl⟩]
  rfl

/-- A value is refused before anything is compiled: with the same error whatever compiling would
come to. -/
def RefusedUnasked (engine : Engine) (value : Json) (e : EvalError) : Prop :=
  ∀ compile, normalize { engine with compile } value = .error e

/-- So no value is refused that an engine could compile. -/
lemma not_refusedUnasked (h : Describes value source flags) (hnodup : flags.toList.Nodup)
    (hknown : ∀ c ∈ flags.toList, c ∈ Flags.known) (e : EvalError) :
    ¬RefusedUnasked engine value e := by
  intro hrefused
  have herror := hrefused fun _ _ => .ok (PlainText.matcher [])
  rw [normalize_of_known_flags h hnodup hknown] at herror
  simp [Except.map] at herror

/-- Whether a value is taken for a pattern. One that has none of the shapes is refused as it is, and
one whose flags have a repeated or an unknown letter is refused for its flags, whatever its source
is; both before anything is compiled. Otherwise the engine decides: its error is passed on, whatever
error it is, and the pattern has the source and the flags of the value. -/
theorem normalize_outcome (engine : Engine) (value : Json) :
    (RefusedUnasked engine value (.invalidPatternCandidate value) ↔
      ¬∃ source flags, Describes value source flags) ∧
    ∀ source flags, Describes value source flags →
      (RefusedUnasked engine value (.invalidFlags flags) ↔
        ¬(flags.toList.Nodup ∧ ∀ c ∈ flags.toList, c ∈ Flags.known)) ∧
      (flags.toList.Nodup → (∀ c ∈ flags.toList, c ∈ Flags.known) →
        (∀ e, normalize engine value = .error e ↔
          engine.compile source (.ofLetters flags.toList) = .error e) ∧
        ∀ p, normalize engine value = .ok p ↔ ∃ matcher,
          engine.compile source (.ofLetters flags.toList) = .ok matcher ∧
            p = ⟨engine.name, source, .ofLetters flags.toList, matcher⟩) := by
  refine ⟨?_, fun source flags h => ⟨?_, fun hnodup hknown => ?_⟩⟩
  · constructor
    · rintro hrefused ⟨source, flags, h⟩
      by_cases hflags : flags.toList.Nodup ∧ ∀ c ∈ flags.toList, c ∈ Flags.known
      · exact not_refusedUnasked h hflags.1 hflags.2 _ hrefused
      · -- then the flags would be refused
        have herror := hrefused engine.compile
        rw [normalize_of_refused_flags h hflags] at herror
        simp at herror
    · intro hnone compile
      cases hcandidate : classify? value with
      | none => exact normalize_of_classify?_none hcandidate
      | some candidate => exact absurd ⟨_, _, describes_of_classify? hcandidate⟩ hnone
  · constructor
    · rintro hrefused ⟨hnodup, hknown⟩
      exact not_refusedUnasked h hnodup hknown _ hrefused
    · intro hflags compile
      exact normalize_of_refused_flags h hflags
  · rw [normalize_of_known_flags h hnodup hknown]
    cases engine.compile source (.ofLetters flags.toList) with
    | error e => simp [Except.map]
    | ok matcher => simp [Except.map, eq_comm]

/-- An object with a repeated flag is refused before an engine sees its source, and so is one with
another member. With other flags the engine may refuse the source or not. Also an engine that does
not know a flag is asked first. -/
theorem normalize_outcome_object :
    let refusing : Engine := ⟨"refusing", fun _ flags =>
      if flags.sticky then .error (.invalidFlags flags.text) else .error (.engine .linear)⟩
    let value := fun flags => Json.obj [("flags", .str flags), ("source", .str "(")]
    let more := Json.obj [("flags", .str "g"), ("lastIndex", .null), ("source", .str "(")]
    RefusedUnasked refusing (value "gg") (.invalidFlags "gg") ∧
      RefusedUnasked refusing more (.invalidPatternCandidate more) ∧
      normalize refusing (value "g") = .error (.engine .linear) ∧
      normalize refusing (value "y") = .error (.invalidFlags "y") ∧
      ¬RefusedUnasked refusing (value "y") (.invalidFlags "y") ∧
      normalize PlainText.engine (value "yg") = .ok
        ⟨"literal", "(", { isGlobal := true, sticky := true }, PlainText.matcher ['(']⟩ := by
  intro refusing value more
  have hdescribes : ∀ flags, Describes (value flags) "(" flags := fun flags =>
    .object rfl (.letters flags) (by simp)
  have hrefused := fun flags => ((normalize_outcome refusing (value flags)).2 _ _ (hdescribes flags))
  have hread := (normalize_outcome PlainText.engine (value "yg")).2 _ _ (hdescribes "yg")
  refine ⟨(hrefused "gg").1.mpr (by simp), ?_, ?_, ?_, fun hunasked => ?_, ?_⟩
  · apply (normalize_outcome refusing more).1.mpr
    rintro ⟨source, flags, h⟩
    unfold more at h
    cases h with
    | object hsource hflags honly =>
      have hother := honly ("lastIndex", .null) (by simp)
      simp at hother
  · exact (((hrefused "g").2 (by simp) (by simp [Flags.known])).1 _).mpr rfl
  · exact (((hrefused "y").2 (by simp) (by simp [Flags.known])).1 _).mpr rfl
  · exact (hrefused "y").1.mp hunasked (by simp [Flags.known])
  · exact ((hread.2 (by simp) (by simp [Flags.known])).2 _).mpr ⟨_, rfl, rfl⟩

end Pattern

end TextExpr
