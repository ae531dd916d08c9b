import Mathlib.Data.List.Induction
import Mathlib.Logic.Function.Basic
import Mathlib.Tactic.Lemma
import TextExpr.Expr.Evaluate
import TextExpr.Expr.Host
import TextExpr.Expr.Workspace

/-!
# Histories of registries

Registries that are made, copied and changed in any order. `registry_step` says that a table which
several registries have is not to be told from a table for each of them, and `holds_run` that a
registry holds under a name what was written there last, whatever is done to other registries.
-/

namespace TextExpr

namespace Registry

/-! ## Names -/

/-- The names stand in increasing order. -/
def Sorted (r : Registry) : Prop := r.names.Pairwise (· < ·)

lemma sorted_empty : Sorted .empty := List.Pairwise.nil

lemma mem_names_insert {i : Interpreter} {l : List Interpreter} {name : String} :
    name ∈ (insert i l).map (·.name) ↔ name = i.name ∨ name ∈ l.map (·.name) := by
  induction l with
  | nil => simp [insert]
  | cons j rest ih =>
    rw [insert]
    split
    · next heq => simp [heq]
    · split
      · simp
      · rw [List.map_cons, List.mem_cons, ih, List.map_cons, List.mem_cons, or_left_comm]

lemma pairwise_insert (i : Interpreter) {l : List Interpreter}
    (h : (l.map (·.name)).Pairwise (· < ·)) : ((insert i l).map (·.name)).Pairwise (· < ·) := by
  induction l with
  | nil => exact List.pairwise_singleton _ _
  | cons j rest ih =>
    obtain ⟨hfirst, hrest⟩ := List.pairwise_cons.mp h
    rw [insert]
    split
    · next heq =>
      rw [List.map_cons, heq]
      exact h
    · next hne =>
      split
      · next hlt =>
        refine List.pairwise_cons.mpr ⟨fun name hname => ?_, h⟩
        rcases List.mem_cons.mp hname with rfl | hname
        · exact hlt
        · exact String.lt_trans hlt (hfirst name hname)
      · next hge =>
        have hgt : j.name < i.name := Std.lt_of_le_of_ne (String.not_lt.mp hge) (Ne.symm hne)
        refine List.pairwise_cons.mpr ⟨fun name hname => ?_, ih hrest⟩
        rcases mem_names_insert.mp hname with rfl | hname
        · exact hgt
        · exact hfirst name hname

lemma Sorted.register {r : Registry} (h : r.Sorted) (i : Interpreter) : (r.register i).Sorted :=
  pairwise_insert i h

lemma Sorted.foldl_register {r : Registry} (h : r.Sorted) (l : List Interpreter) :
    (l.foldl Registry.register r).Sorted := by
  induction l generalizing r with
  | nil => exact h
  | cons i rest ih => exact ih (h.register i)

lemma Sorted.extend {r : Registry} (h : r.Sorted) (other : Registry) : (r.extend other).Sorted :=
  h.foldl_register other.interpreters

lemma Sorted.nodup {r : Registry} (h : r.Sorted) : r.names.Nodup := by
  refine List.Pairwise.imp (fun {a b} hlt => ?_) h
  rintro rfl
  exact String.lt_irrefl _ hlt

/-- Exactly the names that are listed are found. -/
lemma isSome_get? (r : Registry) (name : String) : (r.get? name).isSome ↔ name ∈ r.names := by
  obtain ⟨interpreters⟩ := r
  unfold get? names
  induction interpreters with
  | nil => simp [find?]
  | cons i rest ih =>
    rw [find?]
    split
    · next heq => simp [heq]
    · next hne => rw [ih, List.map_cons, List.mem_cons, or_iff_right (Ne.symm hne)]

/-! ## Interpreters registered one after another -/

/-- The last of some interpreters that has a name. -/
def last? (name : String) (l : List Interpreter) : Option Interpreter := l.findRev? (·.name = name)

lemma last?_cons (name : String) (i : Interpreter) (rest : List Interpreter) :
    last? name (i :: rest) = (last? name rest).or (if i.name = name then some i else none) := by
  rw [last?, List.findRev?, ← last?]
  cases last? name rest <;> simp

lemma last?_append (name : String) (l l' : List Interpreter) :
    last? name (l ++ l') = (last? name l').or (last? name l) := by
  induction l with
  | nil => simp [last?, List.findRev?]
  | cons i rest ih => rw [List.cons_append, last?_cons, ih, last?_cons, Option.or_assoc]

lemma last?_eq_none {name : String} {l : List Interpreter} (h : name ∉ l.map (·.name)) :
    last? name l = none := by
  induction l with
  | nil => rfl
  | cons i rest ih =>
    obtain ⟨hfirst, hrest⟩ := not_or.mp (List.mem_cons.not.mp h)
    rw [last?_cons, ih hrest, if_neg (Ne.symm hfirst), Option.or_none]

/-- In a registry the last interpreter of a name is the only one. -/
lemma Sorted.last?_interpreters {r : Registry} (h : r.Sorted) (name : String) :
    last? name r.interpreters = r.get? name := by
  have hnodup := h.nodup
  obtain ⟨interpreters⟩ := r
  unfold names at hnodup
  rw [get?]
  induction interpreters with
  | nil => rfl
  | cons i rest ih =>
    obtain ⟨hfirst, hrest⟩ := List.nodup_cons.mp hnodup
    rw [last?_cons, find?]
    split
    · next heq =>
      subst heq
      rw [last?_eq_none hfirst, Option.none_or]
    · rw [Option.or_none, ih (List.pairwise_cons.mp h).2 hrest]

lemma get?_foldl_register (r : Registry) (l : List Interpreter) (name : String) :
    (l.foldl register r).get? name = (last? name l).or (r.get? name) := by
  induction l generalizing r with
  | nil => rfl
  | cons i rest ih =>
    rw [List.foldl_cons, ih, get?_register, last?_cons, Option.or_assoc]
    split <;> rfl

/-- An extension writes the names that the other registry holds and leaves the rest. -/
lemma get?_extend (r : Registry) {other : Registry} (h : other.Sorted) (name : String) :
    (r.extend other).get? name = (other.get? name).or (r.get? name) := by
  rw [extend, get?_foldl_register, h.last?_interpreters]

lemma sorted_ofList (l : List Interpreter) : (ofList l).Sorted := sorted_empty.foldl_register l

lemma get?_ofList (l : List Interpreter) (name : String) : (ofList l).get? name = last? name l := by
  rw [ofList, get?_foldl_register]
  exact Option.or_none

/-- The interpreters that are registered in a new registry, in that order. -/
def Start.interpreters : Start → List Interpreter
  | empty => []
  | builtins => Builtin.all
  | operations engine => PatternOp.all engine
  | withBuiltins engine => Builtin.all ++ PatternOp.all engine

lemma Start.sorted_registry (start : Start) : start.registry.Sorted := by
  cases start with
  | empty => exact sorted_empty
  | builtins => exact sorted_ofList _
  | operations engine => exact sorted_ofList _
  | withBuiltins engine => exact (sorted_ofList _).extend _

lemma Start.get?_registry (start : Start) (name : String) :
    start.registry.get? name = last? name start.interpreters := by
  cases start with
  | empty => rfl
  | builtins => exact get?_ofList _ name
  | operations engine => exact get?_ofList _ name
  | withBuiltins engine =>
    rw [registry, PatternOp.withBuiltins, Builtin.registry, PatternOp.registry,
      get?_extend _ (sorted_ofList _), get?_ofList, get?_ofList, interpreters, last?_append]

/-! ## What a registry holds -/

/-- A registry holds the given interpreters under their names and no others. -/
structure Holds (r : Registry) (given : String → Option Interpreter) : Prop where
  /-- What is found under a name is what is given for it. -/
  get?_eq : ∀ name, r.get? name = given name
  /-- No name is listed twice. -/
  nodup : r.names.Nodup
  /-- A name is listed if an interpreter is found under it, which has that name. -/
  mem_names : ∀ name, name ∈ r.names ↔ ∃ i, r.get? name = some i ∧ i.name = name
  /-- A call goes to the interpreter that is given for its name. -/
  evaluate_call : ∀ name args scope i, given name = some i →
    evaluate r (.arr (.str name :: args)) scope = i.call (r.context scope) args
  /-- Without one it stands for itself. -/
  evaluate_literal : ∀ name args scope, given name = none →
    evaluate r (.arr (.str name :: args)) scope = .ok (.arr (.str name :: args))

lemma Sorted.holds {r : Registry} (h : r.Sorted) {given : String → Option Interpreter}
    (hgiven : ∀ name, r.get? name = given name) : Holds r given where
  get?_eq := hgiven
  nodup := h.nodup
  mem_names name := by
    rw [← isSome_get?, Option.isSome_iff_exists]
    exact exists_congr fun i => ⟨fun hfound => ⟨hfound, name_of_get? hfound⟩, And.left⟩
  evaluate_call name args scope _ hi := TextExpr.evaluate_call ((hgiven name).trans hi) args scope
  evaluate_literal name args scope hnone :=
    evaluate_of_get?_eq_none ((hgiven name).trans hnone) args scope

end Registry

namespace Workspace

/-! ## Tables

Each step has the effect that it would have if every registry had a table of its own.
-/

lemma table?_of_others (w : Workspace) {slot other : String} (h : other ≠ slot) :
    (w.others slot).lookup other = w.table? other := by
  rw [others, table?]
  induction w.held with
  | nil => rfl
  | cons entry rest ih =>
    obtain ⟨first, table⟩ := entry
    by_cases hfirst : first = slot
    · -- the entry is left out, and it is not the one that is looked for
      have hne : (other == first) = false := by simpa [hfirst] using h
      rw [List.filter_cons_of_neg (by simpa using hfirst), ih, List.lookup_cons, hne]
    · rw [List.filter_cons_of_pos (by simpa using hfirst), List.lookup_cons, List.lookup_cons, ih]

lemma registry_of_table?_eq_none {w : Workspace} {slot : String} (h : w.table? slot = none) :
    w.registry slot = .empty := by
  rw [registry, h]
  rfl

lemma getElem?_tables {w : Workspace} {slot : String} {table : Nat}
    (h : w.table? slot = some table) : w.tables[table]? = some (w.registry slot) := by
  have hmade := List.getElem?_eq_getElem (table?_lt_length h)
  rw [registry, h, Option.bind_some, hmade, Option.getD_some]

lemma registry_addTable (w : Workspace) (r : Registry) : (w.addTable r).registry = w.registry := by
  funext slot
  have htable : (w.addTable r).table? slot = w.table? slot := rfl
  rw [registry, registry, htable]
  cases hfound : w.table? slot with
  | none => rfl
  | some table => simp [addTable, List.getElem?_append_left (table?_lt_length hfound)]

lemma registry_hold {w : Workspace} {table : Nat} {r : Registry} (hr : w.tables[table]? = some r)
    (slot : String) (h : table < w.tables.length) :
    (w.hold slot table h).registry = Function.update w.registry slot r := by
  funext other
  rw [registry, table?, hold, List.lookup_cons]
  by_cases hother : other = slot
  · subst hother
    simp [hr]
  · rw [beq_false_of_ne hother, Function.update_of_ne hother, w.table?_of_others hother, registry]

lemma registry_place (w : Workspace) (slot : String) (r : Registry) :
    (w.place slot r).registry = Function.update w.registry slot r := by
  have hlast : (w.addTable r).tables[w.tables.length]? = some r := by simp [addTable]
  rw [place, registry_hold hlast, registry_addTable]

lemma registry_share (w : Workspace) (slot source : String) :
    (w.share slot source).registry = Function.update w.registry slot (w.registry source) := by
  rw [share]
  split
  · next table hsource => exact registry_hold (getElem?_tables hsource) slot _
  · next hsource => rw [registry_place, registry_of_table?_eq_none hsource]

lemma table?_ne_of_ownTable? {w : Workspace} {slot other : String} {table : Nat}
    (h : w.ownTable? slot = some table) (hother : other ≠ slot) : w.table? other ≠ some table := by
  intro hfound
  obtain ⟨before, after, hothers, -⟩ :=
    List.lookup_eq_some_iff.mp ((w.table?_of_others hother).trans hfound)
  have halone := List.all_eq_true.mp (Option.filter_eq_some_iff.mp h).2 (other, table)
  simp [hothers] at halone

/-- A change that is made in a table is seen under the one name that has the table. -/
lemma registry_modifyTable {w : Workspace} {slot : String} {table : Nat}
    (h : w.ownTable? slot = some table) (f : Registry → Registry) :
    (w.modifyTable table f).registry = Function.update w.registry slot (f (w.registry slot)) := by
  have hslot : w.table? slot = some table := (Option.filter_eq_some_iff.mp h).1
  funext other
  have htable : (w.modifyTable table f).table? other = w.table? other := rfl
  rw [registry, htable, modifyTable]
  by_cases hother : other = slot
  · subst hother
    rw [Function.update_self, hslot, Option.bind_some, List.getElem?_modify_eq,
      getElem?_tables hslot]
    rfl
  · rw [Function.update_of_ne hother, registry]
    cases hfound : w.table? other with
    | none => rfl
    | some number =>
      have hne : table ≠ number := by
        rintro rfl
        exact table?_ne_of_ownTable? h hother hfound
      rw [Option.bind_some, Option.bind_some, List.getElem?_modify_ne _ _ hne]

lemma registry_change (w : Workspace) (slot : String) (f : Registry → Registry) :
    (w.change slot f).registry = Function.update w.registry slot (f (w.registry slot)) := by
  rw [change]
  split
  · next table hown => exact registry_modifyTable hown f
  · exact registry_place w slot _

/-- What a change puts under its name if every registry has a table of its own. -/
def outcome (registries : String → Registry) : Change → Registry
  | .create _ start => start.registry
  | .copy _ source => registries source
  | .register slot interpreter => (registries slot).register interpreter
  | .extend slot source => (registries slot).extend (registries source)

/-- Whether registries have one table cannot be told from what changes do to them. -/
theorem registry_step (w : Workspace) (change : Change) :
    (w.step change).registry =
      Function.update w.registry change.slot (outcome w.registry change) := by
  cases change with
  | create slot start => exact registry_place w slot _
  | copy slot source => exact registry_share w slot source
  | register slot interpreter => exact registry_change w slot _
  | extend slot source => exact registry_change w slot _

/-- A registry stays as it is while others change. -/
lemma registry_foldl_step {later : List Change} {slot : String}
    (h : ∀ change ∈ later, change.slot ≠ slot) (w : Workspace) :
    (later.foldl step w).registry slot = w.registry slot := by
  induction later generalizing w with
  | nil => rfl
  | cons change rest ih =>
    obtain ⟨hfirst, hrest⟩ := List.forall_mem_cons.mp h
    rw [List.foldl_cons, ih hrest, registry_step, Function.update_of_ne (Ne.symm hfirst)]

lemma run_append (changes later : List Change) :
    run (changes ++ later) = later.foldl step (run changes) := List.foldl_append

lemma run_append_cons (changes later : List Change) (change : Change) :
    run (changes ++ change :: later) = later.foldl step ((run changes).step change) := by
  rw [run_append, List.foldl_cons]

/-! ## Histories -/

/-- The interpreter that was written last for a name under a slot, if anything was. The changes so
far are given with the latest first. -/
def written : List Change → String → String → Option Interpreter
  | [], _, _ => none
  | change :: earlier, slot, name =>
    if change.slot ≠ slot then written earlier slot name
    else match change with
      | .create _ start => Registry.last? name start.interpreters
      | .copy _ source => written earlier source name
      | .register _ interpreter =>
        if interpreter.name = name then some interpreter else written earlier slot name
      | .extend _ source => (written earlier source name).or (written earlier slot name)

lemma written_cons_of_ne {change : Change} {slot : String} (h : change.slot ≠ slot)
    (earlier : List Change) (name : String) :
    written (change :: earlier) slot name = written earlier slot name := by
  rw [written.eq_def]
  exact if_pos h

lemma written_cons_self (change : Change) (earlier : List Change) (name : String) :
    written (change :: earlier) change.slot name =
      match change with
      | .create _ start => Registry.last? name start.interpreters
      | .copy _ source => written earlier source name
      | .register slot interpreter =>
        if interpreter.name = name then some interpreter else written earlier slot name
      | .extend slot source => (written earlier source name).or (written earlier slot name) := by
  rw [written.eq_def]
  cases change <;> exact if_neg (not_not.mpr rfl)

/-- Registries hold what was written last, each in the order of the names. -/
structure Records (history : List Change) (registries : String → Registry) : Prop where
  sorted : ∀ slot, (registries slot).Sorted
  get?_eq : ∀ slot name, (registries slot).get? name = written history slot name

lemma Records.sorted_outcome {earlier : List Change} {registries : String → Registry}
    (h : Records earlier registries) (change : Change) : (outcome registries change).Sorted := by
  cases change with
  | create slot start => exact start.sorted_registry
  | copy slot source => exact h.sorted source
  | register slot interpreter => exact (h.sorted slot).register interpreter
  | extend slot source => exact (h.sorted slot).extend _

lemma Records.get?_outcome {earlier : List Change} {registries : String → Registry}
    (h : Records earlier registries) (change : Change) (name : String) :
    (outcome registries change).get? name = written (change :: earlier) change.slot name := by
  rw [written_cons_self]
  cases change with
  | create slot start => exact start.get?_registry name
  | copy slot source => exact h.get?_eq source name
  | register slot interpreter =>
    rw [outcome, Registry.get?_register, h.get?_eq]
  | extend slot source =>
    rw [outcome, Registry.get?_extend _ (h.sorted source), h.get?_eq, h.get?_eq]

lemma Records.step {earlier : List Change} {registries : String → Registry}
    (h : Records earlier registries) (change : Change) :
    Records (change :: earlier)
      (Function.update registries change.slot (outcome registries change)) where
  sorted slot := by
    by_cases hslot : slot = change.slot
    · rw [hslot, Function.update_self]
      exact h.sorted_outcome change
    · rw [Function.update_of_ne hslot]
      exact h.sorted slot
  get?_eq slot name := by
    by_cases hslot : slot = change.slot
    · rw [hslot, Function.update_self]
      exact h.get?_outcome change name
    · rw [Function.update_of_ne hslot, written_cons_of_ne (Ne.symm hslot)]
      exact h.get?_eq slot name

lemma records_run (changes : List Change) : Records changes.reverse (run changes).registry := by
  induction changes using List.reverseRecOn with
  | nil => exact ⟨fun _ => Registry.sorted_empty, fun _ _ => rfl⟩
  | append_singleton earlier change ih =>
    rw [List.reverse_concat, run_append_cons, List.foldl_nil, registry_step]
    exact ih.step change

/-- After any changes a registry holds what was written last under each name. It does so for as
long as it is not changed itself: a copy keeps what the original held when it was copied, and an
extended registry what the other one held then, whatever becomes of the original and the other. -/
theorem holds_run (changes : List Change) (slot : String) :
    ((run changes).registry slot).Holds (written changes.reverse slot) ∧
      ∀ later : List Change, (∀ change ∈ later, change.slot ≠ slot) →
        (run (changes ++ later)).registry slot = (run changes).registry slot ∧
        ∀ source,
          (run (changes ++ .copy slot source :: later)).registry slot =
            (run changes).registry source ∧
          ∀ name, ((run (changes ++ .extend slot source :: later)).registry slot).get? name =
            (((run changes).registry source).get? name).or
              (((run changes).registry slot).get? name) := by
  have hrecords := records_run changes
  refine ⟨(hrecords.sorted slot).holds (hrecords.get?_eq slot), fun later hlater => ⟨?_, ?_⟩⟩
  · rw [run_append, registry_foldl_step hlater]
  · intro source
    -- the change itself, and then the others that do not reach the registry
    have hafter (change : Change) (hslot : change.slot = slot) :
        (run (changes ++ change :: later)).registry slot =
          outcome (run changes).registry change := by
      rw [run_append_cons, registry_foldl_step hlater, registry_step, ← hslot,
        Function.update_self]
    refine ⟨hafter (.copy slot source) rfl, fun name => ?_⟩
    rw [hafter (.extend slot source) rfl]
    exact Registry.get?_extend _ (hrecords.sorted source) name

/-- A copy that has the table of the original keeps a built-in interpreter that is replaced in the
original and, by an extension, in another registry. -/
theorem holds_run_copy :
    let changes : List Change := [.create "a" .builtins, .copy "b" "a"]
    let later : List Change :=
      [.register "a" (Host.constant "$value" (.bool true)), .extend "c" "a"]
    let value (slot : String) := evaluate ((run (changes ++ later)).registry slot)
      (.arr [.str "$value"]) (.withValue (.str "x"))
    (run changes).table? "b" = (run changes).table? "a" ∧
      (∀ change ∈ later, change.slot ≠ "b") ∧
      (run (changes ++ later)).registry "b" = (run changes).registry "b" ∧
      value "a" = .ok (.bool true) ∧ value "b" = .ok (.str "x") ∧
      value "c" = .ok (.bool true) := by
  intro changes later value
  have hlater : ∀ change ∈ later, change.slot ≠ "b" := by simp [later, Change.slot]
  have hkept := ((holds_run changes "b").2 later hlater).1
  refine ⟨rfl, hlater, hkept, ?_, ?_, ?_⟩
  · exact (holds_run (changes ++ later) "a").1.evaluate_call "$value" [] _ _ rfl
  · exact (holds_run (changes ++ later) "b").1.evaluate_call "$value" [] _ _ rfl
  · exact (holds_run (changes ++ later) "c").1.evaluate_call "$value" [] _ _ rfl

end Workspace

end TextExpr
