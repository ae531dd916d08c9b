import TextExpr.Linear.Engine
import TextExpr.Proofs.Contract

/-!
# Matches of the linear engine

A thread only ever moves forward, and a group is closed at or after the offset at which it was
opened last. `Thread.Fits` is what follows for a thread at a position, whatever automaton it runs
on; it is kept by `follow` and by `run`, so all matches are well-formed.
-/

namespace TextExpr

namespace Linear

/-! ## Threads -/

/-- The thread started at or after `least`, and all it has noted lies between boundaries before
`offset`. -/
structure Thread.Fits (text : List Char) (least count offset : Nat) (thread : Thread) : Prop where
  /-- The match starts at or after `least`. -/
  least_le : least ≤ thread.origin
  /-- The match starts at or before `offset`. -/
  origin_le : thread.origin ≤ offset
  /-- The match starts at a boundary. -/
  origin_boundary : IsBoundary text thread.origin
  /-- Groups were opened at boundaries at or before `offset`. -/
  opened : ∀ start ∈ thread.opened, start ≤ offset ∧ IsBoundary text start
  /-- What the groups cover lies in the text. -/
  groups : ∀ span, some span ∈ thread.groups → span.In text
  /-- There is an entry for each group. -/
  size : thread.groups.size = count

namespace Thread.Fits

variable {text : List Char} {least count offset : Nat} {thread : Thread}

lemma mono (h : thread.Fits text least count offset) {later : Nat} (hle : offset ≤ later) :
    thread.Fits text least count later where
  least_le := h.least_le
  origin_le := Nat.le_trans h.origin_le hle
  origin_boundary := h.origin_boundary
  opened start hstart := ⟨Nat.le_trans (h.opened start hstart).1 hle, (h.opened start hstart).2⟩
  groups := h.groups
  size := h.size

lemma goto (h : thread.Fits text least count offset) (node : Nat) :
    (thread.goto node).Fits text least count offset :=
  ⟨h.least_le, h.origin_le, h.origin_boundary, h.opened, h.groups, h.size⟩

lemma openGroup (h : thread.Fits text least count offset) (hb : IsBoundary text offset)
    (index : Nat) : (thread.openGroup index offset).Fits text least count offset where
  least_le := h.least_le
  origin_le := h.origin_le
  origin_boundary := h.origin_boundary
  opened start hstart := by
    rcases Array.mem_or_eq_of_mem_setIfInBounds hstart with hstart | rfl
    · exact h.opened start hstart
    · exact ⟨Nat.le_refl _, hb⟩
  groups := h.groups
  size := h.size

lemma closeGroup (h : thread.Fits text least count offset) (hb : IsBoundary text offset)
    (index : Nat) : (thread.closeGroup index offset).Fits text least count offset where
  least_le := h.least_le
  origin_le := h.origin_le
  origin_boundary := h.origin_boundary
  opened := h.opened
  groups span hspan := by
    rcases Array.mem_or_eq_of_mem_setIfInBounds hspan with hspan | heq
    · exact h.groups span hspan
    · obtain ⟨start, hstart, rfl⟩ := Option.map_eq_some_iff.mp heq.symm
      obtain ⟨hle, hstartb⟩ := h.opened start (Array.mem_of_getElem? hstart)
      exact ⟨hle, hstartb, hb⟩
  size := by rw [Thread.closeGroup, Array.size_setIfInBounds, h.size]

/-- A thread that fits comes to a well-formed match. -/
lemma captures (h : thread.Fits text least count offset) (hb : IsBoundary text offset) :
    (thread.captures offset).WellFormed text least (count + 1) where
  length := by rw [Thread.captures, List.length_cons, Array.length_toList, h.size]
  within := ⟨_, _, rfl, h.least_le, h.origin_le, h.origin_boundary, hb⟩
  spans span hspan := by
    rcases List.mem_cons.mp hspan with heq | hspan
    · obtain rfl := Option.some.inj heq
      exact ⟨h.origin_le, h.origin_boundary, hb⟩
    · exact h.groups span (Array.mem_toList_iff.mp hspan)

end Thread.Fits

/-! ## The search -/

namespace Program

variable {text : List Char} {least count : Nat}

/-- Threads that are followed keep fitting, and a match that is found is well-formed. -/
theorem follow_fits (p : Program) (here : Cursor) (ht : here.text = text) (mark fuel : Nat)
    {threads : List Thread} {waiting : List (CharSet × Thread)} {seen : Array Nat}
    (hthreads : ∀ t ∈ threads, t.Fits text least count here.offset)
    (hwaiting : ∀ w ∈ waiting, w.2.Fits text least count here.offset) :
    (∀ captures, (p.follow here mark fuel threads waiting seen).found = some captures →
      captures.WellFormed text least (count + 1)) ∧
    ∀ w ∈ (p.follow here mark fuel threads waiting seen).waiting,
      w.2.Fits text least count here.offset := by
  have hb : IsBoundary text here.offset := ht ▸ here.isBoundary_offset
  induction fuel generalizing threads waiting seen with
  | zero => exact ⟨by simp [follow], hwaiting⟩
  | succ fuel ih =>
    cases threads with
    | nil => exact ⟨by simp [follow], hwaiting⟩
    | cons thread threads =>
      have hthread := hthreads thread List.mem_cons_self
      have hrest : ∀ t ∈ threads, t.Fits text least count here.offset :=
        fun t h => hthreads t (List.mem_cons_of_mem _ h)
      -- one more thread that fits in front of the others
      have hcons : ∀ {t : Thread} {ts : List Thread}, t.Fits text least count here.offset →
          (∀ t ∈ ts, t.Fits text least count here.offset) →
          ∀ t' ∈ t :: ts, t'.Fits text least count here.offset := by
        intro t ts h hs t' ht'
        rcases List.mem_cons.mp ht' with rfl | ht'
        · exact h
        · exact hs t' ht'
      rw [follow]
      split
      · -- the node was visited before
        exact ih hrest hwaiting
      · -- one case for each kind of node
        split
        · exact ih hrest hwaiting
        · refine ih hrest fun w hw => ?_
          rcases List.mem_cons.mp hw with rfl | hw
          · exact hthread.goto _
          · exact hwaiting w hw
        · split
          · exact ih (hcons (hthread.goto _) hrest) hwaiting
          · exact ih hrest hwaiting
        · exact ih (hcons (hthread.goto _) (hcons (hthread.goto _) hrest)) hwaiting
        · exact ih (hcons ((hthread.openGroup hb _).goto _) hrest) hwaiting
        · exact ih (hcons ((hthread.closeGroup hb _).goto _) hrest) hwaiting
        · refine ⟨fun captures h => ?_, hwaiting⟩
          obtain rfl := Option.some.inj h
          exact hthread.captures hb

/-- The same for the threads at a position, before any of them waits. -/
lemma closure_fits (p : Program) {here : Cursor} (ht : here.text = text)
    (mark fuel : Nat) (seen : Array Nat) {threads : List Thread}
    (hthreads : ∀ t ∈ threads, t.Fits text least count here.offset) :
    (∀ captures, (p.follow here mark fuel threads [] seen).found = some captures →
      captures.WellFormed text least (count + 1)) ∧
    ∀ w ∈ (p.follow here mark fuel threads [] seen).waiting,
      w.2.Fits text least count here.offset :=
  p.follow_fits here ht mark fuel hthreads fun _ hw => absurd hw List.not_mem_nil

lemma thread_fits (p : Program) (here : Cursor) (ht : here.text = text)
    (hle : least ≤ here.offset) :
    (p.thread here).Fits text least p.groupCount here.offset where
  least_le := hle
  origin_le := Nat.le_refl _
  origin_boundary := ht ▸ here.isBoundary_offset
  opened start hstart := by
    obtain ⟨-, rfl⟩ := Array.mem_replicate.mp hstart
    exact ⟨Nat.le_refl _, ht ▸ here.isBoundary_offset⟩
  groups span hspan := by
    obtain ⟨-, h⟩ := Array.mem_replicate.mp hspan
    exact absurd h (by simp)
  size := Array.size_replicate

/-- The threads that take a character are among those that wait. -/
lemma mem_stepped {c : Char} {waiting : List (CharSet × Thread)} {later : List Thread}
    {thread : Thread}
    (h : thread ∈ waiting.foldl
      (fun later entry => if entry.1.contains c then entry.2 :: later else later) later) :
    thread ∈ later ∨ ∃ entry ∈ waiting, entry.2 = thread := by
  induction waiting generalizing later with
  | nil => exact Or.inl h
  | cons entry waiting ih =>
    rw [List.foldl_cons] at h
    rcases ih h with hlater | ⟨entry', hmem, rfl⟩
    · split at hlater
      · rcases List.mem_cons.mp hlater with rfl | hlater
        · exact Or.inr ⟨entry, List.mem_cons_self, rfl⟩
        · exact Or.inl hlater
      · exact Or.inl hlater
    · exact Or.inr ⟨entry', List.mem_cons_of_mem _ hmem, rfl⟩

/-- A match that is found at a position, or was found before it, is well-formed. -/
lemma found_wellFormed (p : Program) {here : Cursor} (ht : here.text = text) {mark fuel : Nat}
    {threads : List Thread} {found : Option Captures} {seen : Array Nat}
    (hthreads : ∀ t ∈ threads, t.Fits text least count here.offset)
    (hfound : ∀ captures, found = some captures → captures.WellFormed text least (count + 1)) :
    ∀ captures, (p.follow here mark fuel threads [] seen).found.or found = some captures →
      captures.WellFormed text least (count + 1) := by
  intro captures h
  have hfollow := p.closure_fits ht mark fuel seen hthreads
  rcases Option.or_eq_some_iff.mp h with h | ⟨-, h⟩
  · exact hfollow.1 captures h
  · exact hfound captures h

/-- The threads that have taken a character fit at the next position. -/
lemma stepped_fits (p : Program) {here next : Cursor} (ht : here.text = text)
    (hnext : here.next? = some next) (mark fuel : Nat) (c : Char) (seen : Array Nat)
    {threads : List Thread} (hthreads : ∀ t ∈ threads, t.Fits text least count here.offset) :
    ∀ t ∈ (p.follow here mark fuel threads [] seen).waiting.foldl
      (fun later entry => if entry.1.contains c then entry.2 :: later else later) [],
      t.Fits text least count next.offset := by
  intro t hmem
  have hfollow := p.closure_fits ht mark fuel seen hthreads
  have hlt := Cursor.offset_lt_of_next? hnext
  rcases mem_stepped hmem with hnil | ⟨entry, hentry, rfl⟩
  · exact absurd hnil List.not_mem_nil
  · exact (hfollow.2 entry hentry).mono (by omega)

/-- Threads that are run from a position on find well-formed matches. -/
theorem run_wellFormed (p : Program) (anchored : Bool) (ahead : List Char) {here : Cursor}
    (ht : here.text = text) (hle : least ≤ here.offset) {threads : List Thread}
    {found : Option Captures} {seen : Array Nat}
    (hthreads : ∀ t ∈ threads, t.Fits text least p.groupCount here.offset)
    (hfound : ∀ captures, found = some captures →
      captures.WellFormed text least (p.groupCount + 1))
    {captures : Captures} (h : p.run anchored ahead here threads found seen = some captures) :
    captures.WellFormed text least (p.groupCount + 1) := by
  induction ahead generalizing here threads found seen with
  | nil =>
    unfold run at h
    exact p.found_wellFormed ht hthreads hfound _ h
  | cons c ahead ih =>
    unfold run at h
    cases hnext : here.next? with
    | none =>
      simp only [hnext] at h
      exact p.found_wellFormed ht hthreads hfound _ h
    | some next =>
      have hlt := Cursor.offset_lt_of_next? hnext
      have hnextText := (Cursor.text_next? hnext).trans ht
      have hstepped := p.stepped_fits ht hnext (here.offset + 1)
        (2 * p.nodes.size + threads.length + 1) c seen hthreads
      simp only [hnext] at h
      -- without a thread left the search is over, with or without a new one
      split at h
      · split at h
        · exact p.found_wellFormed ht hthreads hfound _ h
        · exact ih hnextText (by omega) hstepped (p.found_wellFormed ht hthreads hfound) h
      · split at h
        · exact p.found_wellFormed ht hthreads hfound _ h
        · refine ih hnextText (by omega) (fun t hmem => ?_)
            (p.found_wellFormed ht hthreads hfound) h
          rcases List.mem_append.mp hmem with hmem | hmem
          · exact hstepped t hmem
          · obtain rfl := List.mem_singleton.mp hmem
            exact p.thread_fits next hnextText (by omega)

/-- A search of the linear engine finds well-formed matches. -/
theorem search_wellFormed (p : Program) {anchored : Bool} {here : Cursor} {captures : Captures}
    (h : p.search anchored here = some captures) :
    captures.WellFormed here.text here.offset (p.groupCount + 1) := by
  refine run_wellFormed p anchored here.after rfl (Nat.le_refl _) (fun t hmem => ?_) (by simp) h
  obtain rfl := List.mem_singleton.mp hmem
  exact p.thread_fits here rfl (Nat.le_refl _)

end Program

theorem keepsContract_matcher (p : Program) : (matcher p).KeepsContract :=
  ⟨p.groupCount + 1, fun _ _ h => p.search_wellFormed (Except.ok.inj h)⟩

end Linear

lemma exists_program_of_linear {source : String} {flags : Flags} {m : Matcher}
    (h : linearEngine.compile source flags = .ok m) : ∃ p, m = Linear.matcher p := by
  simp only [linearEngine] at h
  split at h
  · exact ⟨_, (Except.ok.inj h).symm⟩
  · simp at h

/-- The linear engine keeps the contract, whatever the pattern. -/
theorem keepsContract_of_linear {source : String} {flags : Flags} {m : Matcher}
    (h : linearEngine.compile source flags = .ok m) : m.KeepsContract := by
  obtain ⟨p, rfl⟩ := exists_program_of_linear h
  exact Linear.keepsContract_matcher p

end TextExpr
