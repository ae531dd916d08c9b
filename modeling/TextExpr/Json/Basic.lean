/-!
# JSON values

Numbers are integers of at most 64 bits or binary64 numbers. The members of an object are kept
in increasing order of their keys; `Members.insert` keeps that order.
-/

namespace TextExpr

/-- A JSON number. -/
inductive JsonNumber where
  /-- An integer. -/
  | int (value : Int)
  /-- A finite binary64 number, by its bits. -/
  | float (bits : UInt64)
deriving DecidableEq, Repr

/-- A JSON value. -/
inductive Json where
  /-- The null value. -/
  | null
  /-- A truth value. -/
  | bool (value : Bool)
  /-- A number. -/
  | number (value : JsonNumber)
  /-- A string. -/
  | str (value : String)
  /-- An array. -/
  | arr (items : List Json)
  /-- An object. -/
  | obj (members : List (String × Json))
deriving Inhabited, Repr

/-- The type of a JSON value. -/
inductive Kind where
  /-- The type of null. -/
  | null
  /-- The type of truth values. -/
  | boolean
  /-- The type of numbers. -/
  | number
  /-- The type of strings. -/
  | string
  /-- The type of arrays. -/
  | array
  /-- The type of objects. -/
  | object
deriving DecidableEq, Repr

namespace Kind

/-- The name of a type. -/
def name : Kind → String
  | null => "null"
  | boolean => "boolean"
  | number => "number"
  | string => "string"
  | array => "array"
  | object => "object"

end Kind

namespace Json

/-- The type of a value. -/
def kind : Json → Kind
  | null => .null
  | bool _ => .boolean
  | number _ => .number
  | str _ => .string
  | arr _ => .array
  | obj _ => .object

/-- The text of a string value, and the empty text for any other value. -/
def text : Json → String
  | str s => s
  | _ => ""

end Json

/-- The members of an object, or the bindings of a scope: values by name, in increasing order of
the names. -/
abbrev Members := List (String × Json)

namespace Members

/-- The value under a name. -/
def get? (members : Members) (name : String) : Option Json := members.lookup name

/-- The members with `value` under `name`, in place of what was there. -/
def insert (name : String) (value : Json) : Members → Members
  | [] => [(name, value)]
  | (n, v) :: rest =>
    if name = n then (name, value) :: rest
    else if name < n then (name, value) :: (n, v) :: rest
    else (n, v) :: insert name value rest

/-- Members given in any order; of two under one name the later counts. -/
def ofList (entries : List (String × Json)) : Members :=
  entries.foldl (fun members entry => insert entry.1 entry.2 members) []

@[simp] theorem get?_nil (name : String) : get? [] name = none := rfl

theorem get?_cons (entry : String × Json) (rest : Members) (name : String) :
    get? (entry :: rest) name = if name = entry.1 then some entry.2 else get? rest name := by
  obtain ⟨n, v⟩ := entry
  by_cases h : name = n
  · subst h
    simp [get?]
  · have hne : (name == n) = false := by simpa using h
    simp [get?, List.lookup_cons, h, hne]

/-- An inserted value is found under its name. -/
@[simp] theorem get?_insert_self (name : String) (value : Json) (members : Members) :
    get? (insert name value members) name = some value := by
  induction members with
  | nil => simp [insert, get?_cons]
  | cons entry rest ih =>
    obtain ⟨n, v⟩ := entry
    by_cases h : name = n
    · simp [insert, h, get?_cons]
    · by_cases hlt : name < n
      · simp [insert, h, hlt, get?_cons]
      · simp [insert, h, hlt, get?_cons, ih]

/-- An insertion changes nothing under other names. -/
theorem get?_insert_of_ne {name other : String} (h : other ≠ name) (value : Json)
    (members : Members) : get? (insert name value members) other = get? members other := by
  induction members with
  | nil => simp [insert, get?_cons, h]
  | cons entry rest ih =>
    obtain ⟨n, v⟩ := entry
    by_cases hn : name = n
    · subst hn
      simp [insert, get?_cons, h]
    · by_cases hlt : name < n
      · simp [insert, hn, hlt, get?_cons, h]
      · simp [insert, hn, hlt, get?_cons, ih]

end Members

end TextExpr
