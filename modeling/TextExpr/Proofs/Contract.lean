import TextExpr.Pattern.PlainText
import TextExpr.Proofs.Boundary

/-!
# What a matcher promises

* `Captures.Within`, matches whose whole is there and runs forward between boundaries;
* `Matcher.WellBehaved`, the promise that a search finds nothing else, and `Matcher.FindsWithin`
  and `Matcher.KeepsContract`, which promise as much of the groups, in one text and in all;
* `Anchored`, what a pattern matches at each boundary of a text, whatever else is in the text;
* `Matcher.FindsLeftmost`, the promise that a search gives the first of these matches.

The plain text engine keeps the last promise, and so all of them.
-/

namespace TextExpr

/-! ## Matches in a text -/

/-- The span runs forward between boundaries of a text. -/
def Span.In (text : List Char) (span : Span) : Prop :=
  span.start ≤ span.stop ∧ IsBoundary text span.start ∧ IsBoundary text span.stop

namespace Captures

/-- The whole match is there and runs forward between boundaries of a text, none of them before
`least`. -/
def Within (text : List Char) (least : Nat) (captures : Captures) : Prop :=
  ∃ start stop, captures.head? = some (some ⟨start, stop⟩) ∧ least ≤ start ∧ start ≤ stop ∧
    IsBoundary text start ∧ IsBoundary text stop

lemma whole_of_head? {captures : Captures} {span : Span}
    (h : captures.head? = some (some span)) : captures.whole = span := by
  simp [whole, h]

lemma Within.mono {text : List Char} {least least' : Nat} {captures : Captures}
    (h : captures.Within text least) (hle : least' ≤ least) : captures.Within text least' := by
  obtain ⟨start, stop, hhead, hleast, hrest⟩ := h
  exact ⟨start, stop, hhead, Nat.le_trans hle hleast, hrest⟩

/-- The whole match lies in the text from `least` on. -/
lemma Within.whole_in {text : List Char} {least : Nat} {captures : Captures}
    (h : captures.Within text least) : least ≤ captures.whole.start ∧ captures.whole.In text := by
  obtain ⟨start, stop, hhead, hleast, hle, hstart, hstop⟩ := h
  rw [whole_of_head? hhead]
  exact ⟨hleast, hle, hstart, hstop⟩

/-- All spans of a match in a text lie in the text if those of its groups do. -/
lemma Within.span_in {text : List Char} {least : Nat} {captures : Captures}
    (h : captures.Within text least)
    (hgroups : ∀ span, some span ∈ captures.groups → span.In text) {span : Span}
    (hspan : some span ∈ captures) : span.In text := by
  obtain ⟨start, stop, hhead, -, hle, hstart, hstop⟩ := h
  cases captures with
  | nil => simp at hhead
  | cons whole groups =>
    obtain rfl := Option.some.inj hhead
    rcases List.mem_cons.mp hspan with heq | hspan
    · obtain rfl := Option.some.inj heq
      exact ⟨hle, hstart, hstop⟩
    · exact hgroups span hspan

/-- A match in a text starts and ends at cursors. -/
lemma Within.exists_cursors {text : List Char} {least : Nat} {captures : Captures}
    (h : captures.Within text least) : ∃ first last : Cursor, first.text = text ∧
      last.text = text ∧ captures.whole = ⟨first.offset, last.offset⟩ ∧
      least ≤ first.offset ∧ first.offset ≤ last.offset := by
  obtain ⟨start, stop, hhead, hleast, hle, hstart, hstop⟩ := h
  obtain ⟨first, hfirst, rfl⟩ := Cursor.exists_of_isBoundary hstart
  obtain ⟨last, hlast, rfl⟩ := Cursor.exists_of_isBoundary hstop
  exact ⟨first, last, hfirst, hlast, whole_of_head? hhead, hleast, hle⟩

/-- The match has a number of entries, the whole of it is there and starts nowhere before `least`,
and what its groups cover runs forward between boundaries. -/
structure WellFormed (text : List Char) (least count : Nat) (captures : Captures) : Prop where
  /-- There is an entry for the whole and for each group. -/
  length : captures.length = count
  /-- The whole match lies in the text from `least` on. -/
  within : captures.Within text least
  /-- All entries lie in the text. -/
  spans : ∀ span, some span ∈ captures → span.In text

end Captures

/-- Whatever a search of the text finds is a match that starts at or after the position of the
search. -/
def Matcher.WellBehaved (m : Matcher) (text : List Char) : Prop :=
  ∀ (position : Cursor) (captures : Captures), position.text = text →
    m.find position = .ok (some captures) → captures.Within text position.offset

/-- Whatever a search of the text finds is a match that starts at or after the position of the
search, and all its spans lie in the text. -/
def Matcher.FindsWithin (m : Matcher) (text : List Char) : Prop :=
  ∀ (position : Cursor) (captures : Captures), position.text = text →
    m.find position = .ok (some captures) →
      captures.Within text position.offset ∧ ∀ span, some span ∈ captures → span.In text

lemma Matcher.FindsWithin.wellBehaved {m : Matcher} {text : List Char} (h : m.FindsWithin text) :
    m.WellBehaved text :=
  fun position captures ht hfind => (h position captures ht hfind).1

/-- What a matcher promises for all texts: every search that finds something finds a well-formed
match, with the same number of entries each time. -/
def Matcher.KeepsContract (m : Matcher) : Prop :=
  ∃ count, ∀ (position : Cursor) (captures : Captures),
    m.find position = .ok (some captures) →
      captures.WellFormed position.text position.offset count

lemma Matcher.KeepsContract.findsWithin {m : Matcher} (h : m.KeepsContract)
    (text : List Char) : m.FindsWithin text := by
  obtain ⟨count, hcount⟩ := h
  rintro position captures rfl hfind
  have hwell := hcount position captures hfind
  exact ⟨hwell.within, hwell.spans⟩

/-! ## Matching in place -/

/-- What a pattern matches at each boundary of a text. -/
structure Anchored (text : List Char) where
  /-- The match that starts at an offset. -/
  at? : Nat → Option Captures
  /-- Matches start at boundaries and run forward to boundaries. -/
  sound : ∀ {start : Nat} {captures : Captures}, at? start = some captures →
    IsBoundary text start ∧ ∃ stop, captures.head? = some (some ⟨start, stop⟩) ∧
      start ≤ stop ∧ IsBoundary text stop

namespace Anchored

variable {text : List Char}

/-- What is found is the match at the least offset, from `least` on, at which there is one. -/
def IsFirst (m : Anchored text) (least : Nat) : Option Captures → Prop
  | some captures => ∃ start, least ≤ start ∧ m.at? start = some captures ∧
      ∀ offset, least ≤ offset → offset < start → m.at? offset = none
  | none => ∀ offset, least ≤ offset → m.at? offset = none

lemma whole_start {m : Anchored text} {start : Nat} {captures : Captures}
    (h : m.at? start = some captures) : captures.whole.start = start := by
  obtain ⟨-, stop, hhead, -⟩ := m.sound h
  rw [Captures.whole_of_head? hhead]

lemma start_le_stop {m : Anchored text} {start : Nat} {captures : Captures}
    (h : m.at? start = some captures) : start ≤ captures.whole.stop := by
  obtain ⟨-, stop, hhead, hle, -⟩ := m.sound h
  rw [Captures.whole_of_head? hhead]
  exact hle

lemma within {m : Anchored text} {start least : Nat} {captures : Captures}
    (h : m.at? start = some captures) (hle : least ≤ start) : captures.Within text least := by
  obtain ⟨hstart, stop, hhead, hstop, hb⟩ := m.sound h
  exact ⟨start, stop, hhead, hle, hstop, hstart, hb⟩

/-- The first match is where a match is tried first. -/
lemma isFirst_here {m : Anchored text} {least : Nat} {captures : Captures}
    (h : m.at? least = some captures) : m.IsFirst least (some captures) :=
  ⟨least, Nat.le_refl _, h, fun _ h₁ h₂ => absurd h₁ (by omega)⟩

lemma eq_or_next_le {m : Anchored text} {here next : Cursor} (ht : here.text = text)
    (hnext : here.next? = some next) {offset : Nat} {captures : Captures}
    (h : m.at? offset = some captures) (hle : here.offset ≤ offset) :
    offset = here.offset ∨ next.offset ≤ offset := by
  rcases Nat.eq_or_lt_of_le hle with heq | hlt
  · exact Or.inl heq.symm
  · exact Or.inr (Cursor.next?_offset_le hnext (ht ▸ (m.sound h).1) hlt)

/-- Where nothing matches in place, the first match is the first one after the next
character. -/
lemma isFirst_next {m : Anchored text} {here next : Cursor} (ht : here.text = text)
    (hnext : here.next? = some next) (hnone : m.at? here.offset = none)
    {found : Option Captures} (h : m.IsFirst next.offset found) :
    m.IsFirst here.offset found := by
  have hlt := Cursor.offset_lt_of_next? hnext
  -- a match at or after `here` is one at or after `next`
  have hskip : ∀ offset, here.offset ≤ offset → offset < next.offset → m.at? offset = none := by
    intro offset hle hlt'
    cases hm : m.at? offset with
    | none => rfl
    | some captures =>
      rcases eq_or_next_le ht hnext hm hle with rfl | hge
      · rw [hnone] at hm
        exact absurd hm (by simp)
      · omega
  cases found with
  | none =>
    intro offset hle
    rcases Nat.lt_or_ge offset next.offset with h' | h'
    · exact hskip offset hle h'
    · exact h offset h'
  | some captures =>
    obtain ⟨start, hle, hm, hleast⟩ := h
    refine ⟨start, by omega, hm, fun offset h₁ h₂ => ?_⟩
    rcases Nat.lt_or_ge offset next.offset with h' | h'
    · exact hskip offset h₁ h'
    · exact hleast offset h' h₂

/-- At the end of the text there is no match but one in place. -/
lemma isFirst_atEnd {m : Anchored text} {here : Cursor} (ht : here.text = text)
    (hend : here.atEnd = true) (hnone : m.at? here.offset = none) :
    m.IsFirst here.offset none := by
  intro offset hle
  cases hm : m.at? offset with
  | none => rfl
  | some captures =>
    have hb := (m.sound hm).1.le
    have he := (Cursor.atEnd_iff_offset here).mp hend
    rw [ht] at he
    rw [show offset = here.offset from by omega, hnone] at hm
    exact absurd hm (by simp)

/-- There is one first match at most. -/
lemma IsFirst.unique {m : Anchored text} {least : Nat} {found found' : Option Captures}
    (h : m.IsFirst least found) (h' : m.IsFirst least found') : found = found' := by
  cases found with
  | none =>
    cases found' with
    | none => rfl
    | some captures =>
      obtain ⟨start, hle, hm, -⟩ := h'
      rw [h start hle] at hm
      exact absurd hm (by simp)
  | some captures =>
    obtain ⟨start, hle, hm, hleast⟩ := h
    cases found' with
    | none =>
      rw [h' start hle] at hm
      exact absurd hm (by simp)
    | some captures' =>
      obtain ⟨start', hle', hm', hleast'⟩ := h'
      rcases Nat.lt_trichotomy start start' with hlt | rfl | hlt
      · rw [hleast' start hle hlt] at hm
        exact absurd hm (by simp)
      · rw [← hm, hm']
      · rw [hleast start' hle' hlt] at hm'
        exact absurd hm' (by simp)

/-- The groups of all matches run forward between boundaries. -/
def GroupsWithin (m : Anchored text) : Prop :=
  ∀ start captures, m.at? start = some captures → ∀ span, some span ∈ captures.groups →
    span.In text

end Anchored

/-- Every search of a text succeeds with the first match at or after its position. -/
def Matcher.FindsLeftmost {text : List Char} (matcher : Matcher) (m : Anchored text) : Prop :=
  ∀ position : Cursor, position.text = text →
    ∃ found, matcher.find position = .ok found ∧ m.IsFirst position.offset found

namespace Matcher.FindsLeftmost

variable {text : List Char} {matcher : Matcher} {m : Anchored text} {position : Cursor}

/-- What a search gives is the first match. -/
lemma isFirst (h : matcher.FindsLeftmost m) (ht : position.text = text)
    {found : Option Captures} (hfind : matcher.find position = .ok found) :
    m.IsFirst position.offset found := by
  obtain ⟨found', hfound, hfirst⟩ := h position ht
  rw [hfind] at hfound
  obtain rfl := Except.ok.inj hfound
  exact hfirst

/-- No search fails. -/
lemma find_ne_error (h : matcher.FindsLeftmost m) (ht : position.text = text) (e : EvalError) :
    matcher.find position ≠ .error e := by
  intro hfind
  obtain ⟨found, hfound, -⟩ := h position ht
  rw [hfind] at hfound
  simp at hfound

lemma wellBehaved (h : matcher.FindsLeftmost m) : matcher.WellBehaved text := by
  intro position captures ht hfind
  obtain ⟨start, hle, hm, -⟩ := h.isFirst ht hfind
  exact Anchored.within hm hle

lemma findsWithin (h : matcher.FindsLeftmost m) (hgroups : m.GroupsWithin) :
    matcher.FindsWithin text := by
  intro position captures ht hfind
  have hwithin := h.wellBehaved position captures ht hfind
  obtain ⟨start, -, hm, -⟩ := h.isFirst ht hfind
  exact ⟨hwithin, fun _ hspan => hwithin.span_in (hgroups start captures hm) hspan⟩

end Matcher.FindsLeftmost

/-! ## The plain text engine -/

namespace PlainText

/-- A plain text in place. -/
def anchored (needle text : List Char) : Anchored text where
  at? start :=
    match (Cursor.start text).seek? start with
    | none => none
    | some here =>
      if needle.isPrefixOf here.after then some [some ⟨start, start + byteLength needle⟩, none]
      else none
  sound := by
    intro start captures h
    split at h
    · simp at h
    · next here hhere =>
      split at h
      · next hneedle =>
        obtain rfl := Option.some.inj h
        obtain ⟨ht, rfl⟩ := Cursor.seek?_eq_some_iff.mp hhere
        rw [Cursor.text_start] at ht
        subst ht
        obtain ⟨rest, hrest⟩ := List.isPrefixOf_iff_prefix.mp hneedle
        refine ⟨here.isBoundary_offset, _, rfl, Nat.le_add_right _ _, ?_⟩
        refine ⟨here.before.reverse ++ needle, rest, ?_, ?_⟩
        · rw [List.append_assoc, hrest, Cursor.text_eq_append]
        · rw [byteLength_append, Cursor.byteLength_before_reverse]
      · simp at h

lemma anchored_at? (needle : List Char) (here : Cursor) :
    (anchored needle here.text).at? here.offset =
      if needle.isPrefixOf here.after then
        some [some ⟨here.offset, here.offset + byteLength needle⟩, none]
      else none := by
  have h : (Cursor.start here.text).seek? here.offset = some here :=
    Cursor.seek?_offset (by rw [Cursor.text_start])
  simp only [anchored, h]

lemma occurrence?_eq (needle : List Char) (here : Cursor) :
    occurrence? needle here.after here.offset =
      if needle.isPrefixOf here.after then some here.offset
      else here.next?.bind fun next => occurrence? needle next.after next.offset := by
  obtain ⟨before, after, offset, h⟩ := here
  cases after with
  | nil => cases needle <;> simp [occurrence?, Cursor.next?]
  | cons c after => simp only [occurrence?, Cursor.next?, Option.bind_some]

/-- The plain text engine finds the first place where the text stands. -/
theorem findsLeftmost (needle text : List Char) :
    (matcher needle).FindsLeftmost (anchored needle text) := by
  intro position ht
  refine ⟨_, rfl, ?_⟩
  induction position using Cursor.next_induction with
  | last here hnext =>
    have hat := anchored_at? needle here
    rw [ht] at hat
    rw [occurrence?_eq, hnext]
    split at hat
    · next hneedle =>
      rw [if_pos hneedle]
      exact Anchored.isFirst_here hat
    · next hneedle =>
      rw [if_neg hneedle]
      exact Anchored.isFirst_atEnd ht ((Cursor.next?_eq_none_iff here).mp hnext) hat
  | step here next hnext ih =>
    have hat := anchored_at? needle here
    rw [ht] at hat
    rw [occurrence?_eq, hnext]
    split at hat
    · next hneedle =>
      rw [if_pos hneedle]
      exact Anchored.isFirst_here hat
    · next hneedle =>
      rw [if_neg hneedle]
      exact Anchored.isFirst_next ht hnext hat (ih ((Cursor.text_next? hnext).trans ht))

/-- The one group never takes part. -/
lemma groupsWithin (needle text : List Char) : (anchored needle text).GroupsWithin := by
  intro start captures h span hspan
  simp only [anchored] at h
  split at h
  · simp at h
  · split at h
    · obtain rfl := Option.some.inj h
      simp [Captures.groups] at hspan
    · simp at h

end PlainText

end TextExpr
