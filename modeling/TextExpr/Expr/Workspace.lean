import TextExpr.Expr.PatternOp

/-!
# Workspaces

Registries under names, which are made, copied and changed one after another. A copy has the table
of the original. A registry is changed in its table if it is the only one to have it, and in a table
of its own otherwise.
-/

namespace TextExpr

/-- What a new registry holds. -/
inductive Registry.Start where
  /-- No interpreters. -/
  | empty
  /-- The built-in interpreters. -/
  | builtins
  /-- The operations by patterns of an engine. -/
  | operations (engine : Engine)
  /-- The built-in interpreters and the operations by patterns of an engine. -/
  | withBuiltins (engine : Engine)

/-- The new registry. -/
def Registry.Start.registry : Start → Registry
  | empty => .empty
  | builtins => Builtin.registry
  | operations engine => PatternOp.registry engine
  | withBuiltins engine => PatternOp.withBuiltins engine

/-- A step that changes what is under one name. -/
inductive Workspace.Change where
  /-- Put a new registry there. -/
  | create (slot : String) (start : Registry.Start)
  /-- Put a copy of the registry under another name there. -/
  | copy (slot source : String)
  /-- Register an interpreter there. -/
  | register (slot : String) (interpreter : Interpreter)
  /-- Register all interpreters there that the registry under another name holds. -/
  | extend (slot source : String)

/-- The name under which something changes. -/
def Workspace.Change.slot : Change → String
  | create slot _ | copy slot _ | register slot _ | extend slot _ => slot

/-- Registries under names. Several of them may have one table. -/
structure Workspace where
  /-- The tables that were made so far, whether some name has them or not. -/
  tables : List Registry := []
  /-- The number of the table that a name has. -/
  held : List (String × Nat) := []
  /-- No name has a table that was not made. -/
  lt_length : ∀ entry ∈ held, entry.2 < tables.length := by simp

namespace Workspace

/-- The number of the table that a name has. -/
def table? (w : Workspace) (slot : String) : Option Nat := w.held.lookup slot

/-- The registry under a name. It is empty as long as nothing was put there. -/
def registry (w : Workspace) (slot : String) : Registry :=
  ((w.table? slot).bind (w.tables[·]?)).getD .empty

/-- The tables that other names have. -/
def others (w : Workspace) (slot : String) : List (String × Nat) :=
  w.held.filter (·.1 != slot)

/-- The number of the table that a name has and no other name has. -/
def ownTable? (w : Workspace) (slot : String) : Option Nat :=
  (w.table? slot).filter fun table => (w.others slot).all (·.2 != table)

theorem table?_lt_length {w : Workspace} {slot : String} {table : Nat}
    (h : w.table? slot = some table) : table < w.tables.length := by
  obtain ⟨before, after, hheld, -⟩ := List.lookup_eq_some_iff.mp h
  exact w.lt_length (slot, table) (by simp [hheld])

/-- The workspace with one more table, which no name has. -/
def addTable (w : Workspace) (r : Registry) : Workspace where
  tables := w.tables ++ [r]
  held := w.held
  lt_length := by
    intro entry hentry
    rw [List.length_append]
    exact Nat.lt_add_right _ (w.lt_length entry hentry)

/-- The workspace with a table under a name, in place of the one that the name had. -/
def hold (w : Workspace) (slot : String) (table : Nat) (h : table < w.tables.length) :
    Workspace where
  tables := w.tables
  held := (slot, table) :: w.others slot
  lt_length := by
    intro entry hentry
    rcases List.mem_cons.mp hentry with rfl | hother
    · exact h
    · exact w.lt_length entry (List.mem_filter.mp hother).1

/-- A registry under a name, in a new table. -/
def place (w : Workspace) (slot : String) (r : Registry) : Workspace :=
  (w.addTable r).hold slot w.tables.length (by simp [addTable])

/-- The table of one name under another name as well. -/
def share (w : Workspace) (slot source : String) : Workspace :=
  match h : w.table? source with
  | some table => w.hold slot table (table?_lt_length h)
  | none => w.place slot .empty

/-- The workspace with a change made in a table. -/
def modifyTable (w : Workspace) (table : Nat) (f : Registry → Registry) : Workspace where
  tables := w.tables.modify table f
  held := w.held
  lt_length := by simpa using w.lt_length

/-- The registry under a name changed, in its table if no other name has it. -/
def change (w : Workspace) (slot : String) (f : Registry → Registry) : Workspace :=
  match w.ownTable? slot with
  | some table => w.modifyTable table f
  | none => w.place slot (f (w.registry slot))

/-- The workspace after a change. -/
def step (w : Workspace) : Change → Workspace
  | .create slot start => w.place slot start.registry
  | .copy slot source => w.share slot source
  | .register slot interpreter => w.change slot (·.register interpreter)
  | .extend slot source => w.change slot (·.extend (w.registry source))

/-- The workspace after changes, the first of which is made to one without registries. -/
def run (changes : List Change) : Workspace := changes.foldl step {}

end Workspace

end TextExpr
