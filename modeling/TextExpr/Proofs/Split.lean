import TextExpr.Proofs.Replace

/-!
# Splitting

`Anchored.split` splits a text the plain way: it tries a match at one character after the other. It
is the algorithm that ECMAScript gives for splitting, with the two positions `p`, where the last
separator ended, and `q`, where a match is tried. `split_eq_anchored` says that a pattern whose
matcher finds leftmost matches splits in the same way, though it goes from match to match.
-/

namespace TextExpr

namespace Anchored

variable {text : List Char}

/-- The fragments from offset `p` on, with the groups of the matches between them, where a match is
tried at offset `q` and after it. A match that ends at `p` does not split. -/
def splitFrom (m : Anchored text) (p q : Nat) : Except EvalError (List Json) :=
  if q < byteLength text then
    match _ : m.at? q with
    | none => m.splitFrom p (nextOffset text q)
    | some captures =>
      if captures.whole.stop = p then m.splitFrom p (nextOffset text q)
      else do
        let groups ← captures.groups.mapM (Pattern.spanValue (Cursor.start text))
        let later ← m.splitFrom captures.whole.stop captures.whole.stop
        return .str (between text p q) :: groups ++ later
  else return [.str (between text p (byteLength text))]
-- a match that is empty splits only where `p` lies behind `q`, and then `p` catches up
termination_by 2 * (byteLength text - q) + if p = q then 0 else 1
decreasing_by
  · have hnext := lt_nextOffset text q
    split <;> split <;> omega
  · have hnext := lt_nextOffset text q
    split <;> split <;> omega
  · have hle := start_le_stop ‹m.at? q = some captures›
    simp only [if_true]
    split <;> omega

/-- The fragments of a text between matches, with the groups of the matches between them. -/
def split (m : Anchored text) : Except EvalError (List Json) :=
  if text.isEmpty then return if (m.at? 0).isSome then [] else [.str ""] else m.splitFrom 0 0

variable {m : Anchored text} {p q : Nat}

lemma splitFrom_of_le (h : byteLength text ≤ q) :
    m.splitFrom p q = .ok [.str (between text p (byteLength text))] := by
  rw [splitFrom, if_neg (by omega)]
  rfl

/-- Where there is no match, or one that ends at `p`, it is tried one character further. -/
lemma splitFrom_of_skip (h : q < byteLength text)
    (hskip : ∀ captures, m.at? q = some captures → captures.whole.stop = p) :
    m.splitFrom p q = m.splitFrom p (nextOffset text q) := by
  rw [splitFrom, if_pos h]
  split
  · rfl
  · next captures hat => rw [if_pos (hskip captures hat)]

/-- A match that ends elsewhere splits. -/
lemma splitFrom_of_match (h : q < byteLength text) {captures : Captures}
    (hat : m.at? q = some captures) (hstop : captures.whole.stop ≠ p) :
    m.splitFrom p q = do
      let groups ← captures.groups.mapM (Pattern.spanValue (Cursor.start text))
      let later ← m.splitFrom captures.whole.stop captures.whole.stop
      return .str (between text p q) :: groups ++ later := by
  rw [splitFrom, if_pos h]
  split
  · next hnone =>
    rw [hat] at hnone
    exact absurd hnone (by simp)
  · next captures' hat' =>
    rw [hat] at hat'
    obtain rfl := Option.some.inj hat'
    rw [if_neg hstop]

/-- Where no match is, nothing is split off. -/
lemma splitFrom_eq_of_none {here : Cursor} (ht : here.text = text)
    (hnone : ∀ offset, here.offset ≤ offset → m.at? offset = none) :
    m.splitFrom p here.offset = .ok [.str (between text p (byteLength text))] := by
  induction here using Cursor.next_induction with
  | last here hnext =>
    have hend := (Cursor.atEnd_iff_offset here).mp ((Cursor.next?_eq_none_iff here).mp hnext)
    rw [ht] at hend
    exact splitFrom_of_le (by omega)
  | step here next hnext ih =>
    have hlt := Cursor.offset_lt_of_next? hnext
    have hle := next.offset_le
    rw [Cursor.text_next? hnext, ht] at hle
    rw [splitFrom_of_skip (by omega) (by simp [hnone here.offset (Nat.le_refl _)]),
      Cursor.nextOffset_of_next? ht hnext]
    exact ih ((Cursor.text_next? hnext).trans ht) fun offset h => hnone offset (by omega)

/-- The characters before the first match are passed over. -/
lemma splitFrom_eq_of_first {here : Cursor} (ht : here.text = text) {start : Nat}
    (hb : IsBoundary text start) (hle : here.offset ≤ start)
    (hnone : ∀ offset, here.offset ≤ offset → offset < start → m.at? offset = none) :
    m.splitFrom p here.offset = m.splitFrom p start := by
  induction here using Cursor.next_induction with
  | last here hnext =>
    have hend := (Cursor.atEnd_iff_offset here).mp ((Cursor.next?_eq_none_iff here).mp hnext)
    have hstart := hb.le
    rw [ht] at hend
    rw [show here.offset = start from by omega]
  | step here next hnext ih =>
    rcases Nat.eq_or_lt_of_le hle with heq | hlt
    · rw [heq]
    · have hnextLe := Cursor.next?_offset_le hnext (ht ▸ hb) hlt
      have hhere := Cursor.offset_lt_of_next? hnext
      have hstart := hb.le
      rw [splitFrom_of_skip (by omega) (by simp [hnone here.offset (Nat.le_refl _) hlt]),
        Cursor.nextOffset_of_next? ht hnext]
      exact ih ((Cursor.text_next? hnext).trans ht) hnextLe fun offset h₁ h₂ =>
        hnone offset (by omega) h₂

/-- Splitting ends with fragments if the groups can be cut out. -/
lemma splitFrom_ok (hgroups : m.GroupsWithin) (p q : Nat) :
    ∃ values, m.splitFrom p q = .ok values := by
  fun_induction splitFrom m p q with
  | case1 p q h hat ih => exact ih
  | case2 q h captures hat ih => exact ih
  | case3 p q h captures hat hstop ih =>
    obtain ⟨later, hlater⟩ := ih
    rw [Pattern.mapM_spanValue (Cursor.text_start text) (hgroups q captures hat), hlater]
    exact ⟨_, rfl⟩
  | case4 p q h => exact ⟨_, rfl⟩

end Anchored

/-! ## From match to match -/

namespace Pattern

/-- What a span covers depends on the text alone. -/
lemma spanValue_congr {c d : Cursor} (ht : c.text = d.text) : spanValue c = spanValue d := by
  -- seeking does not depend on where it starts from
  have hseek : ∀ target, c.seek? target = d.seek? target := by
    intro target
    apply Option.ext
    intro e
    rw [Cursor.seek?_eq_some_iff, Cursor.seek?_eq_some_iff, ht]
  funext span
  cases span with
  | none => rfl
  | some span => rw [spanValue, spanValue, Cursor.slice?, Cursor.slice?, hseek]

variable {p : Pattern} {text : List Char} {m : Anchored text}

/-- What splitting comes to where the last separator ended at a cursor and the search goes on at
another one. -/
inductive Fragments (p : Pattern) : Cursor → Cursor → Except EvalError (List Json) → Prop
  /-- The search has come to the end of the text. -/
  | done {last position} : position.atEnd = true →
      Fragments p last position (.ok [.str last.remaining])
  /-- The search fails. -/
  | failed {last position e} : position.atEnd = false → p.matcher.find position = .error e →
      Fragments p last position (.error e)
  /-- There is no match any more. -/
  | nothing {last position} : position.atEnd = false → p.matcher.find position = .ok none →
      Fragments p last position (.ok [.str last.remaining])
  /-- The match stands at the end of the text. -/
  | atEnd {last position first captures} : position.atEnd = false →
      p.matcher.find position = .ok (some captures) →
      position.seek? captures.whole.start = some first → first.atEnd = true →
      Fragments p last position (.ok [.str last.remaining])
  /-- The match is empty and stands where the last separator ended. -/
  | skip {last position first next captures result} : position.atEnd = false →
      p.matcher.find position = .ok (some captures) →
      position.seek? captures.whole.start = some first → first.next? = some next →
      captures.whole.stop = last.offset → Fragments p last next result →
      Fragments p last position result
  /-- The match is a separator. -/
  | cut {last position first after captures result} : position.atEnd = false →
      p.matcher.find position = .ok (some captures) →
      position.seek? captures.whole.start = some first → first.atEnd = false →
      captures.whole.stop ≠ last.offset → after.text = position.text →
      after.offset = captures.whole.stop → Fragments p after after result →
      Fragments p last position (do
        let groups ← captures.groups.mapM (spanValue first)
        let later ← result
        return .str (between position.text last.offset captures.whole.start) :: groups ++ later)

/-- A bound for the rounds of splitting: two for each character that is left, and one more where
`last` lies behind. -/
def roundsLeft (last position : Cursor) : Nat :=
  2 * position.distance + if last.offset = position.offset then 0 else 1

/-- With that many rounds splitting comes to what `Fragments` says. -/
theorem fragments_fragmentsFrom (h : p.matcher.WellBehaved text) {fuel : Nat}
    {last position : Cursor} (hl : last.text = text) (ht : position.text = text)
    (hle : last.offset ≤ position.offset) (hfuel : roundsLeft last position < fuel) :
    p.Fragments last position (p.fragmentsFrom fuel last position) := by
  unfold roundsLeft at hfuel
  induction fuel generalizing last position with
  | zero => exact absurd hfuel (by omega)
  | succ fuel ih =>
    rw [fragmentsFrom]
    cases hend : position.atEnd with
    | true => exact .done hend
    | false =>
      rw [if_neg (by simp)]
      cases hfind : p.matcher.find position with
      | error e => exact .failed hend hfind
      | ok found =>
        cases found with
        | none => exact .nothing hend hfind
        | some captures =>
          have hwithin := h position captures ht hfind
          obtain ⟨first, stop, hfirst, hstop, hwhole, hstart, hlen⟩ := hwithin.exists_cursors
          have hseek : position.seek? captures.whole.start = some first := by
            rw [hwhole]
            exact Cursor.seek?_offset (hfirst.trans ht.symm)
          have hwholeStop : captures.whole.stop = stop.offset := by rw [hwhole]
          have hdist := Cursor.distance_le_of_offset_le (hfirst.trans ht.symm) hstart
          simp only [bind, Except.bind, hseek, orMalformed]
          cases hfend : first.atEnd with
          | true => exact .atEnd hend hfind hseek hfend
          | false =>
            rw [if_neg (by simp)]
            by_cases hp : captures.whole.stop = last.offset
            · -- an empty match where the last separator ended
              cases hnext : first.next? with
              | none =>
                rw [(Cursor.next?_eq_none_iff first).mp hnext] at hfend
                exact absurd hfend (by simp)
              | some next =>
                have hdnext := Cursor.distance_of_next? hnext
                have hlast := Cursor.offset_lt_of_next? hnext
                rw [if_pos hp]
                refine .skip hend hfind hseek hnext hp ?_
                refine ih hl ((Cursor.text_next? hnext).trans hfirst) (by omega) ?_
                split <;> omega
            · obtain ⟨after, hafter, hstopAfter, hcut⟩ := cut?_of_within hl (hwithin.mono hle)
              have hrun := ih hafter hafter (Nat.le_refl _) (by
                rw [if_pos rfl]
                rcases Nat.eq_or_lt_of_le (Nat.le_trans hstart hlen) with heq | hlt
                · -- `last` lies behind and catches up
                  have hd := Cursor.distance_le_of_offset_le (hafter.trans ht.symm)
                    (show position.offset ≤ after.offset by omega)
                  rw [if_neg (by omega)] at hfuel
                  omega
                · have hd := Cursor.distance_lt_of_offset_lt (hafter.trans ht.symm)
                    (show position.offset < after.offset by omega)
                  omega)
              rw [if_neg hp, hcut]
              have hcutRun := Fragments.cut hend hfind hseek hfend hp (hafter.trans ht.symm)
                hstopAfter hrun
              rw [ht] at hcutRun
              exact hcutRun

/-- Trying each character passes over those before the match that is found. -/
lemma splitFrom_of_find (hm : p.matcher.FindsLeftmost m) {position first : Cursor}
    {captures : Captures} (ht : position.text = text)
    (hfind : p.matcher.find position = .ok (some captures))
    (hseek : position.seek? captures.whole.start = some first) (last : Nat) :
    first.text = text ∧ m.at? first.offset = some captures ∧
      m.splitFrom last position.offset = m.splitFrom last first.offset := by
  obtain ⟨start, hstart, hat, hleast⟩ := hm.isFirst ht hfind
  obtain ⟨hfirst, hoffset⟩ := Cursor.seek?_eq_some_iff.mp hseek
  rw [Anchored.whole_start hat] at hoffset
  rw [hoffset]
  exact ⟨hfirst.trans ht, hat,
    Anchored.splitFrom_eq_of_first ht (m.sound hat).1 hstart hleast⟩

lemma offset_lt_of_not_atEnd {c : Cursor} (ht : c.text = text) (h : c.atEnd = false) :
    c.offset < byteLength text := by
  have hle := c.offset_le
  have hne := mt (Cursor.atEnd_iff_offset c).mpr (by simp [h])
  rw [ht] at hle hne
  omega

/-- Going from match to match splits as trying each character does. -/
theorem Fragments.eq_splitFrom (hm : p.matcher.FindsLeftmost m) {last position : Cursor}
    {result : Except EvalError (List Json)} (h : p.Fragments last position result)
    (hl : last.text = text) (ht : position.text = text) :
    result = m.splitFrom last.offset position.offset := by
  -- each constructor is a stretch of characters passed over and then one round of `splitFrom`
  induction h with
  | @done last position hend =>
    have hlen := (Cursor.atEnd_iff_offset position).mp hend
    rw [ht] at hlen
    rw [Anchored.splitFrom_of_le (by omega), last.remaining_eq, hl]
  | @failed last position e _ hfind =>
    exact absurd hfind (hm.find_ne_error ht e)
  | @nothing last position _ hfind =>
    rw [Anchored.splitFrom_eq_of_none ht (hm.isFirst ht hfind), last.remaining_eq, hl]
  | @atEnd last position first captures _ hfind hseek hfend =>
    obtain ⟨hfirst, -, hsplit⟩ := splitFrom_of_find hm ht hfind hseek last.offset
    have hlen := (Cursor.atEnd_iff_offset first).mp hfend
    rw [hfirst] at hlen
    rw [hsplit, Anchored.splitFrom_of_le (by omega), last.remaining_eq, hl]
  | @skip last position first next captures result _ hfind hseek hnext hstop _ ih =>
    obtain ⟨hfirst, hat, hsplit⟩ := splitFrom_of_find hm ht hfind hseek last.offset
    have hskip : ∀ c, m.at? first.offset = some c → c.whole.stop = last.offset := by
      intro c hc
      rw [hat] at hc
      rw [← Option.some.inj hc, hstop]
    have hlt : first.offset < byteLength text := by
      have hle := next.offset_le
      rw [Cursor.text_next? hnext, hfirst] at hle
      exact Nat.lt_of_lt_of_le (Cursor.offset_lt_of_next? hnext) hle
    rw [hsplit, Anchored.splitFrom_of_skip hlt hskip, Cursor.nextOffset_of_next? hfirst hnext]
    exact ih hl ((Cursor.text_next? hnext).trans hfirst)
  | @cut last position first after captures result _ hfind hseek hfend hstop hafter hoffset _ ih =>
    obtain ⟨hfirst, hat, hsplit⟩ := splitFrom_of_find hm ht hfind hseek last.offset
    have hlt := offset_lt_of_not_atEnd hfirst hfend
    have hcursor : first.text = (Cursor.start text).text := by rw [hfirst, Cursor.text_start]
    have hlater := ih (hafter.trans ht) (hafter.trans ht)
    rw [hoffset] at hlater
    rw [hsplit, Anchored.splitFrom_of_match hlt hat hstop, spanValue_congr hcursor, hlater, ht,
      Anchored.whole_start hat]

/-- The rounds that splitting allows for are enough. -/
lemma roundsLeft_start (text : List Char) :
    roundsLeft (Cursor.start text) (Cursor.start text) <
      (text.length + 2) * (text.length + 2) := by
  have hsquare := Nat.mul_le_mul_right (text.length + 2) (show 2 ≤ text.length + 2 by omega)
  have hdist : (Cursor.start text).distance = text.length := rfl
  rw [roundsLeft, if_pos rfl, hdist]
  omega

/-- A text that is not empty is split from match to match. -/
lemma fragments_split {text : String} (h : p.matcher.WellBehaved text.toList)
    (hne : (Cursor.start text.toList).atEnd = false) :
    p.Fragments (Cursor.start text.toList) (Cursor.start text.toList) (p.split text) := by
  rw [split, if_neg (by simp [hne])]
  exact fragments_fragmentsFrom h (Cursor.text_start _) (Cursor.text_start _) (Nat.le_refl _)
    (roundsLeft_start _)

/-- Splitting goes from match to match and gives what trying each character gives. -/
theorem split_eq_anchored (p : Pattern) (text : String) (m : Anchored text.toList)
    (hm : p.matcher.FindsLeftmost m) :
    p.split text = m.split ∧ (m.GroupsWithin → ∃ values, p.split text = .ok values) := by
  have hsplit : p.split text = m.split := by
    have hstart : (Cursor.start text.toList).atEnd = text.toList.isEmpty := rfl
    cases hempty : text.toList.isEmpty with
    | true =>
      obtain ⟨found, hfind, hfirst⟩ := hm (Cursor.start text.toList) (Cursor.text_start _)
      -- in the empty text a match can only start at its one position
      have hfound : found = m.at? 0 := by
        cases hat : m.at? 0 with
        | some captures => exact hfirst.unique (Anchored.isFirst_here hat)
        | none =>
          refine hfirst.unique (Anchored.isFirst_atEnd (Cursor.text_start _) ?_ hat)
          rw [hstart, hempty]
      rw [split, Anchored.split, hstart, if_pos hempty, if_pos hempty, hfind, hfound]
      rfl
    | false =>
      have hrun := fragments_split hm.wellBehaved (hstart.trans hempty)
      rw [Anchored.split, if_neg (by simp [hempty])]
      exact hrun.eq_splitFrom hm (Cursor.text_start _) (Cursor.text_start _)
  refine ⟨hsplit, fun hgroups => ?_⟩
  rw [hsplit, Anchored.split]
  split
  · exact ⟨_, rfl⟩
  · exact Anchored.splitFrom_ok hgroups 0 0

/-- Splitting at nothing, where empty matches stand at both ends and between the characters. -/
theorem split_eq_anchored_empty :
    let p : Pattern := ⟨"literal", "", { sticky := true }, PlainText.matcher []⟩
    let m := PlainText.anchored [] "aã".toList
    p.matcher.FindsLeftmost m ∧ m.GroupsWithin ∧
      p.split "aã" = m.split ∧ ∃ values, p.split "aã" = .ok values := by
  intro p m
  have hm : p.matcher.FindsLeftmost m := PlainText.findsLeftmost _ _
  have hgroups : m.GroupsWithin := PlainText.groupsWithin _ _
  have h := split_eq_anchored p "aã" m hm
  exact ⟨hm, hgroups, h.1, h.2 hgroups⟩

end Pattern

end TextExpr
