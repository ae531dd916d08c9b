import Mathlib.Data.List.TakeWhile
import TextExpr.Expr.Scope

/-!
# Paths

A path is followed through a chain of scopes, or through the JSON object that shows the chain. The
first way looks at one scope after the other and the second one at the members of one object;
`resolve_eq_at?` says that they come to the same. `resolve_outward` says what a path finds from
inside scopes that were opened one in the other, as replacements within replacements do.
-/

namespace TextExpr

namespace Scope

/-! ## Outwards -/

/-- The scope a number of levels further out. -/
def outward? : (levels : Nat) → Scope → Option Scope
  | 0, s => some s
  | levels + 1, s => s.parent?.bind (outward? levels)

lemma depth_of_parent? {s outer : Scope} (h : s.parent? = some outer) :
    s.depth = outer.depth + 1 := by
  obtain ⟨bindings, rest⟩ := s
  cases rest with
  | nil => simp [parent?] at h
  | cons next rest =>
    obtain rfl := Option.some.inj h
    rfl

lemma parent?_eq_none {s : Scope} : s.parent? = none ↔ s.depth = 0 := by
  obtain ⟨bindings, rest⟩ := s
  cases rest <;> simp [parent?, depth]

/-- There are as many scopes further out as the scope is deep. -/
lemma outward?_eq_none {levels : Nat} {s : Scope} :
    s.outward? levels = none ↔ s.depth < levels := by
  induction levels generalizing s with
  | zero => simp [outward?]
  | succ levels ih =>
    rw [outward?]
    cases hp : s.parent? with
    | none =>
      have hd := parent?_eq_none.mp hp
      simp [hd]
    | some outer =>
      have hd := depth_of_parent? hp
      rw [Option.bind_some, ih]
      omega

/-- Leading segments that name the outer scope lead outwards, one level each. -/
lemma follow_replicate (levels : Nat) (rest : List String) (s : Scope) :
    follow (List.replicate levels parentName ++ rest) s =
      (s.outward? levels).bind (follow rest) := by
  induction levels generalizing s with
  | zero => rfl
  | succ levels ih =>
    rw [List.replicate_succ, List.cons_append, follow, if_pos rfl, outward?, Option.bind_assoc]
    exact congrArg s.parent?.bind (funext ih)

/-! ## The scope as an object -/

/-- Under the name of the outer scope a scope shows that one, whatever it binds to the name. -/
lemma step?_toJson_parentName {s outer : Scope} (h : s.parent? = some outer) :
    s.toJson.step? parentName = some outer.toJson := by
  obtain ⟨bindings, rest⟩ := s
  cases rest with
  | nil => simp [parent?] at h
  | cons next rest =>
    obtain rfl := Option.some.inj h
    exact Members.get?_insert_self _ _ _

/-- Under any other name a scope shows what it binds to the name. -/
lemma step?_toJson_of_ne {s : Scope} {name : String} (h : name ≠ parentName) :
    s.toJson.step? name = s.get? name := by
  obtain ⟨bindings, rest⟩ := s
  cases rest with
  | nil => rfl
  | cons next rest => exact Members.get?_insert_of_ne h _ _

/-- In the object that shows a scope the same segments lead to the scopes around it. -/
lemma at?_toJson_replicate {levels : Nat} {s outer : Scope} (h : s.outward? levels = some outer)
    (rest : List String) :
    Json.at? (List.replicate levels parentName ++ rest) s.toJson = Json.at? rest outer.toJson := by
  induction levels generalizing s with
  | zero =>
    obtain rfl := Option.some.inj h
    rfl
  | succ levels ih =>
    rw [outward?, Option.bind_eq_some_iff] at h
    obtain ⟨next, hnext, hrest⟩ := h
    rw [List.replicate_succ, List.cons_append, Json.at?, step?_toJson_parentName hnext]
    exact ih hrest

/-! ## Paths -/

/-- How many segments at the start of a path name the outer scope. -/
def levelsOf (segments : List String) : Nat := (segments.takeWhile (· = parentName)).length

/-- What remains of a path after the segments that name the outer scope. -/
def inner (segments : List String) : List String := segments.dropWhile (· = parentName)

/-- The way from an object that shows a scope to what a path without segments for the outer scope
means: the path itself if it is empty or begins with the name of a binding, and otherwise a way into
the current value. -/
def shownPath : List String → List String
  | [] => []
  | first :: rest => if namesBinding first then first :: rest else valueName :: first :: rest

lemma eq_replicate_append_inner (segments : List String) :
    segments = List.replicate (levelsOf segments) parentName ++ inner segments := by
  have hsame : segments.takeWhile (· = parentName) =
      List.replicate (levelsOf segments) parentName := by
    refine List.eq_replicate_iff.mpr ⟨rfl, fun segment hmem => ?_⟩
    simpa using List.mem_takeWhile_imp hmem
  rw [← hsame]
  exact List.takeWhile_append_dropWhile.symm

lemma inner_ne_parentName {segments : List String} {first : String} {rest : List String}
    (h : inner segments = first :: rest) : first ≠ parentName := by
  have hnot := List.head?_dropWhile_not (fun segment => decide (segment = parentName)) segments
  rw [show segments.dropWhile (fun segment => decide (segment = parentName)) = first :: rest from h]
    at hnot
  simpa using hnot

/-- What is found from a scope without going outwards is found in the object that shows it. -/
lemma follow_eq_at?_toJson {s : Scope} {rest : List String}
    (h : ∀ first later, rest = first :: later → first ≠ parentName) :
    follow rest s = Json.at? (shownPath rest) s.toJson := by
  cases rest with
  | nil => rfl
  | cons first later =>
    have hne := h first later rfl
    rw [follow, if_neg hne, shownPath]
    split
    · rw [Json.at?, step?_toJson_of_ne hne]
    · rw [Json.at?, step?_toJson_of_ne (by decide), value?]

/-- A path finds nothing if it leads further out than the outermost scope. Otherwise it finds what
stands in the object that shows the scope: outwards by the segments that name the outer scope, and
from there at the binding that the path names or, if it names none, inside the current value. -/
theorem resolve_eq_at? (s : Scope) (path : String) :
    s.resolve path =
      if s.depth < levelsOf (textFields '.' path) then none
      else Json.at? (List.replicate (levelsOf (textFields '.' path)) parentName ++
        shownPath (inner (textFields '.' path))) s.toJson := by
  set segments := textFields '.' path with hsegments
  have hsplit := eq_replicate_append_inner segments
  have hfollow : s.resolve path =
      (s.outward? (levelsOf segments)).bind (follow (inner segments)) := by
    rw [← follow_replicate, ← hsplit]
    rfl
  rw [hfollow]
  cases hout : s.outward? (levelsOf segments) with
  | none =>
    have hdeep := outward?_eq_none.mp hout
    rw [if_pos hdeep]
    rfl
  | some outer =>
    have hdeep : ¬s.depth < levelsOf segments := by
      rw [← outward?_eq_none, hout]
      simp
    rw [if_neg hdeep, at?_toJson_replicate hout, Option.bind_some]
    exact follow_eq_at?_toJson fun first later => inner_ne_parentName

/-! ## Scopes inside one another -/

/-- The scope that texts open one inside the other, the innermost first. -/
def within (s : Scope) : (texts : List String) → Scope
  | [] => s
  | text :: texts => (s.within texts).child (.str text)

/-- The path that leads a number of levels outwards before it goes on. -/
def outwardPath : (levels : Nat) → (path : String) → String
  | 0, path => path
  | levels + 1, path => parentName ++ "." ++ outwardPath levels path

lemma fields_append {separator : Char} {first : List Char} (h : separator ∉ first)
    (rest : List Char) :
    fields separator (first ++ separator :: rest) = first :: fields separator rest := by
  induction first with
  | nil => simp [fields]
  | cons c first ih =>
    rw [List.mem_cons, not_or] at h
    rw [List.cons_append, fields, if_neg (Ne.symm h.1), ih h.2]

lemma textFields_parentName (path : String) :
    textFields '.' (parentName ++ "." ++ path) = parentName :: textFields '.' path := by
  have hdot : '.' ∉ parentName.toList := by decide
  have hfields := fields_append hdot path.toList
  rw [textFields, String.toList_append, String.toList_append, List.append_assoc]
  simp only [show ".".toList = ['.'] from rfl, List.singleton_append]
  rw [hfields, List.map_cons, String.ofList_toList, textFields]

/-- A path that begins with the name of the outer scope means there what the rest of it means. -/
theorem resolve_child_outward (s : Scope) (value : Json) (path : String) :
    (s.child value).resolve (outwardPath 1 path) = s.resolve path := by
  rw [outwardPath, outwardPath, resolve, textFields_parentName, follow, if_pos rfl]
  rfl

/-- From inside any number of scopes a path leads outwards level by level. -/
theorem resolve_within_outward (s : Scope) (texts : List String) {levels : Nat}
    (h : levels ≤ texts.length) (path : String) :
    (s.within texts).resolve (outwardPath levels path) =
      (s.within (texts.drop levels)).resolve path := by
  induction levels generalizing texts with
  | zero => rfl
  | succ levels ih =>
    cases texts with
    | nil => simp at h
    | cons text texts =>
      have hstep := resolve_child_outward (s.within texts) (.str text) (outwardPath levels path)
      rw [List.drop_succ_cons, ← ih texts (Nat.le_of_succ_le_succ h), ← hstep]
      rfl

/-- The current value at a level is the text that opened the scope of that level. -/
lemma value?_within_drop (s : Scope) (texts : List String) (levels : Nat) :
    (s.within (texts.drop levels)).value? =
      if levels < texts.length then (texts[levels]?).map Json.str else s.value? := by
  cases hdrop : texts.drop levels with
  | nil =>
    have hle : texts.length ≤ levels := List.drop_eq_nil_iff.mp hdrop
    rw [if_neg (by omega)]
    rfl
  | cons text later =>
    have hget : texts[levels]? = some text := by
      rw [← List.head?_drop, hdrop]
      rfl
    have hlt : levels < texts.length := (List.getElem?_eq_some_iff.mp hget).1
    rw [if_pos hlt, hget]
    rfl

lemma resolve_valueName (s : Scope) : s.resolve valueName = s.value? := by
  have hfields : textFields '.' valueName = [valueName] := by decide
  rw [resolve, hfields, follow, if_neg (by decide), if_pos (by decide), value?]
  cases s.get? valueName <;> rfl

end Scope

end TextExpr
