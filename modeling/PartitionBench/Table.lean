/-!
Contract: look-up tables with string keys.

Owns:
- the order in which the entries of a table are listed: keys that are canonical
  array indexes come first, by their number, the others follow in the order of
  their first appearance;
- the names that every table answers, whatever it was filled with, and the text
  of what is found under them.

Does not own: the values; a table is a list of keys with values of any type.
-/

namespace PartitionBench.Table

/-- A key is a canonical array index when it is the plain decimal text of a number
up to 4294967294. -/
def index? (key : String) : Option Nat :=
  match key.toNat? with
  | some n => if n ≤ 4294967294 ∧ toString n = key then some n else none
  | none => none

/-- Put a value under a key. A key that is already there keeps its place. -/
def put {α : Type} (entries : List (String × α)) (key : String) (value : α) :
    List (String × α) :=
  match entries with
  | [] => [(key, value)]
  | entry :: rest =>
      if entry.1 = key then (key, value) :: rest else entry :: put rest key value

/-- Insert an indexed entry into indexed entries that are in ascending order. -/
def insertIndexed {α : Type} (index : Nat) (entry : String × α) :
    List (Nat × String × α) → List (Nat × String × α)
  | [] => [(index, entry)]
  | first :: rest =>
      if index < first.1 then (index, entry) :: first :: rest
      else first :: insertIndexed index entry rest

/-- The entries whose keys are array indexes, in ascending order. -/
def indexed {α : Type} (entries : List (String × α)) : List (String × α) :=
  (entries.foldl
    (fun sorted entry =>
      match index? entry.1 with
      | some index => insertIndexed index entry sorted
      | none => sorted)
    []).map (·.2)

/-- Entries in the order in which a table lists them. -/
def listed {α : Type} (entries : List (String × α)) : List (String × α) :=
  indexed entries ++ entries.filter (fun entry => (index? entry.1).isNone)

/-- The table of entries given in order; a later value for a key replaces the
earlier one in its place. -/
def ofEntries {α : Type} (entries : List (String × α)) : List (String × α) :=
  listed (entries.foldl (fun table entry => put table entry.1 entry.2) [])

/-- The value under a key, among the entries that the table was filled with. -/
def find? {α : Type} (entries : List (String × α)) (key : String) : Option α :=
  (entries.find? (fun entry => entry.1 = key)).map (·.2)

/-- The names that every table answers, each with the name that its entry goes
by. -/
def builtinNames : List (String × String) :=
  [("constructor", "Object"), ("hasOwnProperty", "hasOwnProperty"),
    ("isPrototypeOf", "isPrototypeOf"), ("propertyIsEnumerable", "propertyIsEnumerable"),
    ("toLocaleString", "toLocaleString"), ("toString", "toString"), ("valueOf", "valueOf"),
    ("__defineGetter__", "__defineGetter__"), ("__defineSetter__", "__defineSetter__"),
    ("__lookupGetter__", "__lookupGetter__"), ("__lookupSetter__", "__lookupSetter__")]

/-- The text of the entry that every table has under a name, if it has one. Such an
entry is never itself a text. -/
def builtinText? (key : String) : Option String :=
  if key = "__proto__" then some "[object Object]"
  else
    (find? builtinNames key).map
      (fun name => "function " ++ name ++ "() \x7b [native code] \x7d")

/-- What a look-up finds: nothing, a value that the table was filled with, or one
of the entries that every table has. -/
inductive Found (α : Type) where
  | nothing
  | value (value : α)
  | builtin
  deriving DecidableEq, Repr

/-- Look a key up. The entries of the table itself come before those that every
table has. -/
def lookUp {α : Type} (entries : List (String × α)) (key : String) : Found α :=
  match find? entries key with
  | some value => .value value
  | none => if (builtinText? key).isSome then .builtin else .nothing

end PartitionBench.Table
