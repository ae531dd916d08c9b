import Mathlib.Tactic.Lemma
import TextExpr.Text.Cursor

/-!
# Boundaries and stretches of a text

Offsets of a text without a cursor, and what they have to do with cursors:

* `IsBoundary`, the offsets between characters, which are those of the cursors in the text;
* `between`, the stretch of a text from one offset to another;
* `nextOffset`, the offset one character further;
* `seek?_eq_some_iff` and `textTo?_offset`, which say what moving a cursor and cutting a text by
  a cursor come to in these terms.
-/

namespace TextExpr

/-! ## Boundaries -/

/-- An offset of a text that lies before, between or after its characters. -/
def IsBoundary (text : List Char) (offset : Nat) : Prop :=
  ∃ before after, text = before ++ after ∧ byteLength before = offset

lemma isBoundary_zero (text : List Char) : IsBoundary text 0 := ⟨[], text, rfl, rfl⟩

lemma isBoundary_byteLength (text : List Char) : IsBoundary text (byteLength text) :=
  ⟨text, [], by simp, rfl⟩

/-- Boundaries are in bounds. -/
lemma IsBoundary.le {text : List Char} {offset : Nat} (h : IsBoundary text offset) :
    offset ≤ byteLength text := by
  obtain ⟨before, after, rfl, rfl⟩ := h
  rw [byteLength_append]
  omega

lemma length_le_byteLength (text : List Char) : text.length ≤ byteLength text := by
  induction text with
  | nil => simp
  | cons c text ih =>
    have hc := c.utf8Size_pos
    rw [List.length_cons, byteLength_cons]
    omega

lemma byteLength_eq_zero {text : List Char} : byteLength text = 0 ↔ text = [] := by
  constructor
  · intro h
    have hl := length_le_byteLength text
    exact List.length_eq_zero_iff.mp (by omega)
  · rintro rfl
    rfl

/-- Two ways to cut a text at the same offset are the same. -/
lemma append_inj_of_byteLength {s s' t t' : List Char} (h : s ++ t = s' ++ t')
    (hlen : byteLength s = byteLength s') : s = s' ∧ t = t' := by
  rcases List.append_eq_append_iff.mp h with ⟨a, rfl, rfl⟩ | ⟨a, rfl, rfl⟩
  · rw [byteLength_append] at hlen
    have ha : a = [] := byteLength_eq_zero.mp (by omega)
    simp [ha]
  · rw [byteLength_append] at hlen
    have ha : a = [] := byteLength_eq_zero.mp (by omega)
    simp [ha]

/-! ## Stretches -/

/-- The characters of a text that start at or after an offset. -/
def dropBytes : (bytes : Nat) → List Char → List Char
  | 0, text => text
  | _ + 1, [] => []
  | bytes + 1, c :: text => dropBytes (bytes + 1 - c.utf8Size) text
termination_by structural _ text => text

/-- The characters of a text that start before an offset. -/
def takeBytes : (bytes : Nat) → List Char → List Char
  | 0, _ => []
  | _ + 1, [] => []
  | bytes + 1, c :: text => c :: takeBytes (bytes + 1 - c.utf8Size) text
termination_by structural _ text => text

/-- The stretch of a text from one offset to another. -/
def between (text : List Char) (start stop : Nat) : String :=
  String.ofList (takeBytes (stop - start) (dropBytes start text))

/-- The offset one character after an offset; at the end of the text, one byte after it. -/
def nextOffset (text : List Char) (offset : Nat) : Nat :=
  match dropBytes offset text with
  | [] => offset + 1
  | c :: _ => offset + c.utf8Size

/-- What a span covers of a text. -/
def Span.textIn (text : List Char) (span : Span) : String := between text span.start span.stop

@[simp] lemma dropBytes_byteLength_append (s t : List Char) :
    dropBytes (byteLength s) (s ++ t) = t := by
  induction s with
  | nil => simp [dropBytes]
  | cons c s ih =>
    have hc := c.utf8Size_pos
    obtain ⟨n, hn⟩ : ∃ n, c.utf8Size + byteLength s = n + 1 :=
      ⟨c.utf8Size + byteLength s - 1, by omega⟩
    rw [byteLength_cons, List.cons_append, hn, dropBytes]
    rw [show n + 1 - c.utf8Size = byteLength s from by omega]
    exact ih

@[simp] lemma takeBytes_byteLength_append (s t : List Char) :
    takeBytes (byteLength s) (s ++ t) = s := by
  induction s with
  | nil => simp [takeBytes]
  | cons c s ih =>
    have hc := c.utf8Size_pos
    obtain ⟨n, hn⟩ : ∃ n, c.utf8Size + byteLength s = n + 1 :=
      ⟨c.utf8Size + byteLength s - 1, by omega⟩
    rw [byteLength_cons, List.cons_append, hn, takeBytes]
    rw [show n + 1 - c.utf8Size = byteLength s from by omega, ih]

lemma lt_nextOffset (text : List Char) (offset : Nat) : offset < nextOffset text offset := by
  unfold nextOffset
  split
  · omega
  · next c _ _ =>
    have hc := c.utf8Size_pos
    omega

/-- The stretch between the two ends of the middle of a text is the middle. -/
lemma between_append (before middle after : List Char) :
    between (before ++ (middle ++ after)) (byteLength before)
      (byteLength before + byteLength middle) = String.ofList middle := by
  rw [between, dropBytes_byteLength_append, Nat.add_sub_cancel_left,
    takeBytes_byteLength_append]

/-- A whole text as a stretch of itself. -/
lemma between_zero_byteLength (text : List Char) :
    between text 0 (byteLength text) = String.ofList text := by
  have h := between_append [] text []
  simpa using h

/-- Two boundaries cut a text into three parts. -/
lemma IsBoundary.exists_middle {text : List Char} {a b : Nat} (ha : IsBoundary text a)
    (hb : IsBoundary text b) (hab : a ≤ b) : ∃ before middle after,
      text = before ++ (middle ++ after) ∧ byteLength before = a ∧
      byteLength before + byteLength middle = b := by
  obtain ⟨s, t, rfl, rfl⟩ := ha
  obtain ⟨s', t', h', rfl⟩ := hb
  rcases List.append_eq_append_iff.mp h' with ⟨m, rfl, rfl⟩ | ⟨m, rfl, rfl⟩
  · exact ⟨s, m, t', rfl, rfl, (byteLength_append s m).symm⟩
  · -- the second cut is not before the first one
    rw [byteLength_append] at hab ⊢
    exact ⟨s' ++ m, [], t, rfl, byteLength_append s' m, by simp; omega⟩

/-- Only the stretch from a boundary to itself is empty. -/
lemma eq_of_between_eq_empty {text : List Char} {a b : Nat} (ha : IsBoundary text a)
    (hb : IsBoundary text b) (hab : a ≤ b) (h : between text a b = "") : a = b := by
  obtain ⟨before, middle, after, rfl, rfl, rfl⟩ := ha.exists_middle hb hab
  rw [between_append] at h
  have hmiddle : middle = [] := by simpa using congrArg String.toList h
  simp [hmiddle]

/-- Adjacent stretches join. -/
lemma between_append_between {text : List Char} {a b c : Nat} (ha : IsBoundary text a)
    (hb : IsBoundary text b) (hc : IsBoundary text c) (hab : a ≤ b) (hbc : b ≤ c) :
    between text a b ++ between text b c = between text a c := by
  obtain ⟨s, m, t, rfl, rfl, rfl⟩ := ha.exists_middle hb hab
  obtain ⟨s', n, t', h', hs', rfl⟩ := hb.exists_middle hc hbc
  -- both cut the text at the second boundary
  rw [← List.append_assoc] at h'
  obtain ⟨rfl, rfl⟩ := append_inj_of_byteLength h' (by rw [byteLength_append, hs'])
  have h1 := between_append s m (n ++ t')
  have h2 := between_append (s ++ m) n t'
  have h3 := between_append s (m ++ n) t'
  simp only [List.append_assoc, byteLength_append] at h1 h2 h3 ⊢
  rw [h1, h2, Nat.add_assoc, h3, String.ofList_append]

/-! ## Cursors -/

namespace Cursor

lemma isBoundary_offset (c : Cursor) : IsBoundary c.text c.offset :=
  ⟨c.before.reverse, c.after, rfl, by rw [byteLength_reverse, c.offset_eq]⟩

/-- Every boundary is the offset of a cursor. -/
lemma exists_of_isBoundary {text : List Char} {offset : Nat} (h : IsBoundary text offset) :
    ∃ c : Cursor, c.text = text ∧ c.offset = offset := by
  obtain ⟨before, after, rfl, rfl⟩ := h
  exact ⟨⟨before.reverse, after, byteLength before, by simp⟩, by simp [Cursor.text], rfl⟩

lemma text_eq_append (c : Cursor) : c.text = c.before.reverse ++ c.after := rfl

lemma byteLength_before_reverse (c : Cursor) : byteLength c.before.reverse = c.offset := by
  rw [byteLength_reverse, c.offset_eq]

/-- A cursor is determined by its text and its offset. -/
lemma eq_of_offset_eq {c d : Cursor} (ht : c.text = d.text) (ho : c.offset = d.offset) :
    c = d := by
  have h := append_inj_of_byteLength ht (by
    rw [c.byteLength_before_reverse, d.byteLength_before_reverse, ho])
  obtain ⟨before, after, offset, hc⟩ := c
  obtain ⟨before', after', offset', hd⟩ := d
  simp only [List.reverse_inj] at h
  obtain ⟨rfl, rfl⟩ := h
  simp only at ho
  subst ho
  rfl

/-- Between two cursors in one text lies a middle part. -/
lemma exists_middle {c d : Cursor} (ht : d.text = c.text) (hle : c.offset ≤ d.offset) :
    ∃ middle, d.before.reverse = c.before.reverse ++ middle ∧ c.after = middle ++ d.after ∧
      d.offset = c.offset + byteLength middle := by
  rcases List.append_eq_append_iff.mp ht.symm with ⟨m, hd, hc⟩ | ⟨m, hc, hd⟩
  · refine ⟨m, hd, hc, ?_⟩
    rw [← d.byteLength_before_reverse, hd, byteLength_append, c.byteLength_before_reverse]
  · have hlen := c.byteLength_before_reverse
    rw [hc, byteLength_append, d.byteLength_before_reverse] at hlen
    have hm : m = [] := byteLength_eq_zero.mp (by omega)
    subst hm
    refine ⟨[], by simpa using hc.symm, by simpa using hd.symm, ?_⟩
    simpa using hlen

lemma dropBytes_offset (c : Cursor) : dropBytes c.offset c.text = c.after := by
  rw [← c.byteLength_before_reverse, text_eq_append, dropBytes_byteLength_append]

lemma offset_add_byteLength_after (c : Cursor) :
    c.offset + byteLength c.after = byteLength c.text := by
  rw [text_eq_append, byteLength_append, c.byteLength_before_reverse]

lemma offset_le (c : Cursor) : c.offset ≤ byteLength c.text := c.isBoundary_offset.le

/-! ### Ends and steps -/

lemma atEnd_iff (c : Cursor) : c.atEnd = true ↔ c.after = [] := by
  simp [atEnd]

lemma atEnd_iff_offset (c : Cursor) : c.atEnd = true ↔ c.offset = byteLength c.text := by
  have h := c.offset_add_byteLength_after
  rw [atEnd_iff, ← byteLength_eq_zero]
  omega

lemma next?_eq_none_iff (c : Cursor) : c.next? = none ↔ c.atEnd = true := by
  rw [atEnd_iff]
  obtain ⟨before, after, offset, h⟩ := c
  cases after <;> simp [next?]

/-- One character further is at the next offset. -/
lemma offset_of_next? {c d : Cursor} (h : c.next? = some d) :
    d.offset = nextOffset c.text c.offset := by
  rw [nextOffset, dropBytes_offset]
  obtain ⟨before, after, offset, hc⟩ := c
  cases after with
  | nil => simp [next?] at h
  | cons ch after =>
    simp only [next?, Option.some.injEq] at h
    rw [← h]

lemma nextOffset_of_next? {text : List Char} {c d : Cursor} (ht : c.text = text)
    (h : c.next? = some d) : nextOffset text c.offset = d.offset := by
  rw [← ht, offset_of_next? h]

lemma offset_lt_of_next? {c d : Cursor} (h : c.next? = some d) : c.offset < d.offset := by
  rw [offset_of_next? h]
  exact lt_nextOffset _ _

/-- No boundary lies inside the character after a cursor. -/
lemma next?_offset_le {c d : Cursor} (h : c.next? = some d) {offset : Nat}
    (hb : IsBoundary c.text offset) (hlt : c.offset < offset) : d.offset ≤ offset := by
  obtain ⟨e, het, rfl⟩ := exists_of_isBoundary hb
  obtain ⟨middle, -, hc, he⟩ := exists_middle het (by omega)
  rw [offset_of_next? h, nextOffset, dropBytes_offset, hc]
  cases middle with
  | nil => simp at he; omega
  | cons ch middle => simp [he]

/-- The next offset is the least boundary after a boundary. -/
lemma nextOffset_le {text : List Char} {offset later : Nat} (h : IsBoundary text offset)
    (hl : IsBoundary text later) (hlt : offset < later) : nextOffset text offset ≤ later := by
  obtain ⟨c, rfl, rfl⟩ := exists_of_isBoundary h
  cases hnext : c.next? with
  | none =>
    have hend := (c.atEnd_iff_offset).mp (c.next?_eq_none_iff.mp hnext)
    have hle := hl.le
    omega
  | some d =>
    rw [← offset_of_next? hnext]
    exact next?_offset_le hnext hl hlt

lemma distance_of_next? {c d : Cursor} (h : c.next? = some d) :
    d.distance + 1 = c.distance := by
  obtain ⟨before, after, offset, hc⟩ := c
  cases after with
  | nil => simp [next?] at h
  | cons ch after =>
    simp only [next?, Option.some.injEq] at h
    rw [← h]
    rfl

/-- What holds at the end of a text and, if it holds one character further, here, holds
everywhere. -/
@[elab_as_elim]
theorem next_induction {motive : Cursor → Prop}
    (last : ∀ here : Cursor, here.next? = none → motive here)
    (step : ∀ here next : Cursor, here.next? = some next → motive next → motive here)
    (here : Cursor) : motive here := by
  obtain ⟨before, after, offset, h⟩ := here
  induction after generalizing before offset with
  | nil => exact last _ rfl
  | cons c after ih => exact step _ _ rfl (ih _ _ _)

lemma distance_le_of_offset_le {c d : Cursor} (ht : d.text = c.text)
    (hle : c.offset ≤ d.offset) : d.distance ≤ c.distance := by
  obtain ⟨middle, -, hc, -⟩ := exists_middle ht hle
  rw [distance, distance, hc, List.length_append]
  omega

lemma distance_lt_of_offset_lt {c d : Cursor} (ht : d.text = c.text)
    (hlt : c.offset < d.offset) : d.distance < c.distance := by
  obtain ⟨middle, -, hc, hd⟩ := exists_middle ht (by omega)
  cases middle with
  | nil => simp at hd; omega
  | cons ch middle =>
    rw [distance, distance, hc, List.length_append, List.length_cons]
    omega

/-! ### Seeking -/

private lemma seekRight?_append (target : Nat) (middle rest before : List Char) (offset : Nat)
    (h : offset = byteLength before) (htarget : target = offset + byteLength middle) :
    ∃ d, seekRight? target (middle ++ rest) before offset h = some d := by
  induction middle generalizing before offset with
  | nil =>
    simp only [byteLength_nil, Nat.add_zero] at htarget
    cases rest <;> simp [seekRight?, htarget]
  | cons c middle ih =>
    have hc := c.utf8Size_pos
    rw [byteLength_cons] at htarget
    rw [List.cons_append, seekRight?, if_neg (by omega), if_neg (by omega)]
    exact ih _ _ _ (by omega)

private lemma seekLeft?_append (target : Nat) (middle before after : List Char) (offset : Nat)
    (h : offset = byteLength (middle ++ before)) (htarget : target = byteLength before) :
    ∃ d, seekLeft? target (middle ++ before) after offset h = some d := by
  induction middle generalizing after offset with
  | nil =>
    simp only [List.nil_append] at h
    cases before <;> simp [seekLeft?, h, htarget]
  | cons c middle ih =>
    have hc := c.utf8Size_pos
    have hlen := h
    rw [List.cons_append, byteLength_cons, byteLength_append] at hlen
    simp only [List.cons_append]
    rw [seekLeft?, if_neg (by omega), if_neg (by omega)]
    exact ih _ _ _

private lemma seekRight?_sound {target : Nat} {after before : List Char} {offset : Nat}
    {h : offset = byteLength before} {d : Cursor}
    (hd : seekRight? target after before offset h = some d) :
    d.text = before.reverse ++ after ∧ d.offset = target := by
  induction after generalizing before offset with
  | nil =>
    rw [seekRight?] at hd
    split at hd
    · next heq =>
      obtain rfl := Option.some.inj hd
      exact ⟨rfl, heq⟩
    · simp at hd
  | cons c after ih =>
    rw [seekRight?] at hd
    split at hd
    · next heq =>
      obtain rfl := Option.some.inj hd
      exact ⟨rfl, heq⟩
    · split at hd
      · simp at hd
      · simpa using ih hd

private lemma seekLeft?_sound {target : Nat} {before after : List Char} {offset : Nat}
    {h : offset = byteLength before} {d : Cursor}
    (hd : seekLeft? target before after offset h = some d) :
    d.text = before.reverse ++ after ∧ d.offset = target := by
  induction before generalizing after offset with
  | nil =>
    rw [seekLeft?] at hd
    split at hd
    · next heq =>
      obtain rfl := Option.some.inj hd
      exact ⟨rfl, heq⟩
    · simp at hd
  | cons c before ih =>
    rw [seekLeft?] at hd
    split at hd
    · next heq =>
      obtain rfl := Option.some.inj hd
      exact ⟨rfl, heq⟩
    · split at hd
      · simp at hd
      · simpa using ih hd

/-- Seeking finds the cursor of the same text at an offset, wherever it starts from. -/
theorem seek?_eq_some_iff {c d : Cursor} {target : Nat} :
    c.seek? target = some d ↔ d.text = c.text ∧ d.offset = target := by
  constructor
  · intro h
    unfold seek? at h
    split at h
    · exact seekRight?_sound h
    · exact seekLeft?_sound h
  · rintro ⟨ht, rfl⟩
    have hsome : ∃ e, c.seek? d.offset = some e := by
      unfold seek?
      split
      · next hle =>
        obtain ⟨middle, -, hc, hd⟩ := exists_middle ht hle
        simp only [hc]
        exact seekRight?_append _ _ _ _ _ _ hd
      · next hlt =>
        obtain ⟨middle, hd, -, -⟩ := exists_middle ht.symm (by omega)
        have hb : c.before = middle.reverse ++ d.before := by
          have h := congrArg List.reverse hd
          simpa using h
        simp only [hb]
        exact seekLeft?_append _ _ _ _ _ _ d.offset_eq
    obtain ⟨e, he⟩ := hsome
    -- the cursor that is found has the text and the offset of `d`
    have hsound : e.text = c.text ∧ e.offset = d.offset := by
      unfold seek? at he
      split at he
      · exact seekRight?_sound he
      · exact seekLeft?_sound he
    rw [he, eq_of_offset_eq (hsound.1.trans ht.symm) hsound.2]

lemma seek?_offset {c d : Cursor} (ht : d.text = c.text) : c.seek? d.offset = some d :=
  seek?_eq_some_iff.mpr ⟨ht, rfl⟩

/-! ### Cutting -/

private lemma takeBytes?_append (middle rest : List Char) :
    takeBytes? (byteLength middle) (middle ++ rest) = some middle := by
  induction middle with
  | nil => cases rest <;> rfl
  | cons c middle ih =>
    have hc := c.utf8Size_pos
    obtain ⟨n, hn⟩ : ∃ n, c.utf8Size + byteLength middle = n + 1 :=
      ⟨c.utf8Size + byteLength middle - 1, by omega⟩
    rw [byteLength_cons, List.cons_append, hn, takeBytes?, if_pos (by omega)]
    rw [show n + 1 - c.utf8Size = byteLength middle from by omega, ih]
    rfl

/-- The text from one cursor to a later one. -/
theorem textTo?_offset {c d : Cursor} (ht : d.text = c.text) (hle : c.offset ≤ d.offset) :
    ∃ chars, c.textTo? d.offset = some chars ∧
      String.ofList chars = between c.text c.offset d.offset := by
  obtain ⟨middle, -, hc, hd⟩ := exists_middle ht hle
  refine ⟨middle, ?_, ?_⟩
  · rw [textTo?, if_pos hle, hd, Nat.add_sub_cancel_left, hc, takeBytes?_append]
  · rw [between, dropBytes_offset, hd, Nat.add_sub_cancel_left, hc, takeBytes_byteLength_append]

/-- The part of a text that a span between cursors covers. -/
theorem slice?_offset {c d e : Cursor} (hd : d.text = c.text) (he : e.text = c.text)
    (hle : d.offset ≤ e.offset) :
    c.slice? ⟨d.offset, e.offset⟩ = some (between c.text d.offset e.offset) := by
  obtain ⟨chars, hchars, hbetween⟩ := textTo?_offset (he.trans hd.symm) hle
  rw [slice?, seek?_offset hd]
  simp [hchars, hbetween, hd]

lemma remaining_eq (c : Cursor) :
    c.remaining = between c.text c.offset (byteLength c.text) := by
  have h := takeBytes_byteLength_append c.after []
  rw [List.append_nil] at h
  rw [remaining, between, dropBytes_offset, ← c.offset_add_byteLength_after,
    Nat.add_sub_cancel_left, h]

end Cursor

end TextExpr
