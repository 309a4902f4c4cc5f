/-!
# Values of a settings document

A settings document is written in the TOML format.  Its values are texts, truth values, numbers,
moments, arrays and tables.  What a number or a moment stands for is settled when it is read, but a
number that no format can hold only matters when it is used.

## Main definitions

* `Toml` : the values.
* `Toml.Node`, `Toml.Node.assign`, `Toml.Node.openTable`, `Toml.Node.openArray` : a document under
  construction, which remembers how each of its tables came about.
-/

namespace SceneLoop

/-- A value of a settings document. -/
inductive Toml where
  /-- A text. -/
  | text (s : String)
  /-- A truth value. -/
  | bool (b : Bool)
  /-- An integer. -/
  | integer (n : Int)
  /-- A number with a fraction or an exponent. -/
  | real (x : Float)
  /-- A number too large for its format. -/
  | outOfRange
  /-- A date, a time or both. -/
  | moment (s : String)
  /-- An array. -/
  | array (items : List Toml)
  /-- A table, as a list of named values. -/
  | table (entries : List (String × Toml))

instance : Inhabited Toml := ⟨.table []⟩

namespace Toml

/-- How a table came about. -/
inductive Origin where
  /-- Under a heading of its own. -/
  | heading
  /-- As part of the name in a longer heading. -/
  | implied
  /-- As part of a dotted key. -/
  | dotted
deriving DecidableEq

/-- A part of a document under construction. -/
inductive Node where
  /-- A value after an equals sign, which is complete. -/
  | leaf (v : Toml)
  /-- A table. -/
  | table (origin : Origin) (entries : List (String × Node))
  /-- An array of tables, the last one first. -/
  | tables (items : List (List (String × Node)))

namespace Node

/-- Give an entry a new value, or add it at the end. -/
def put (key : String) (v : Node) : List (String × Node) → List (String × Node)
  | [] => [(key, v)]
  | (k, w) :: rest => if k = key then (k, v) :: rest else (k, w) :: put key v rest

/-- Change the table that a heading names, with the tables on the way to it. -/
def within (change : List (String × Node) → Option (List (String × Node))) :
    List String → List (String × Node) → Option (List (String × Node))
  | [], entries => change entries
  | key :: rest, entries =>
    match entries.lookup key with
    | none => (within change rest []).map fun t => put key (.table .implied t) entries
    | some (.table origin t) =>
      (within change rest t).map fun t => put key (.table origin t) entries
    | some (.tables (t :: earlier)) =>
      (within change rest t).map fun t => put key (.tables (t :: earlier)) entries
    | some (.tables []) | some (.leaf _) => none

/-- Set a dotted key in a table.  A table on the way must not have a heading of its own, and the
last one must come from dotted keys alone; `isOpen` says whether it does. -/
def assign (v : Toml) : Bool → List String → List (String × Node) → Option (List (String × Node))
  | _, [], _ => none
  | isOpen, [key], entries =>
    if isOpen && (entries.lookup key).isNone then some (put key (.leaf v) entries) else none
  | _, key :: rest, entries =>
    match entries.lookup key with
    | none => (assign v true rest []).map fun t => put key (.table .dotted t) entries
    | some (.table .heading _) => none
    | some (.table origin t) =>
      (assign v (origin = .dotted) rest t).map fun t => put key (.table origin t) entries
    | some (.tables (t :: earlier)) =>
      (assign v false rest t).map fun t => put key (.tables (t :: earlier)) entries
    | some (.tables []) | some (.leaf _) => none

/-- Begin the table of a heading. -/
def openTable (key : String) (entries : List (String × Node)) : Option (List (String × Node)) :=
  match entries.lookup key with
  | none => some (put key (.table .heading []) entries)
  | some (.table .implied t) => some (put key (.table .heading t) entries)
  | some _ => none

/-- Begin one more table of an array of tables. -/
def openArray (key : String) (entries : List (String × Node)) : Option (List (String × Node)) :=
  match entries.lookup key with
  | none => some (put key (.tables [[]]) entries)
  | some (.tables items) => some (put key (.tables ([] :: items)) entries)
  | some _ => none

mutual

/-- The value of a finished part. -/
def value : Node → Toml
  | .leaf v => v
  | .table _ entries => .table (valueEntries entries)
  | .tables items => .array (valueTables items).reverse

/-- The values of the entries of a table. -/
def valueEntries : List (String × Node) → List (String × Toml)
  | [] => []
  | (k, v) :: rest => (k, v.value) :: valueEntries rest

/-- The values of the tables of an array. -/
def valueTables : List (List (String × Node)) → List Toml
  | [] => []
  | t :: rest => .table (valueEntries t) :: valueTables rest

end

end Node

mutual

/-- Whether all numbers in a value are in range. -/
def isReadable : Toml → Bool
  | .outOfRange => false
  | .array items => areReadable items
  | .table entries => entriesReadable entries
  | _ => true

/-- Whether all numbers in some values are in range. -/
def areReadable : List Toml → Bool
  | [] => true
  | v :: rest => isReadable v && areReadable rest

/-- Whether all numbers in some entries are in range. -/
def entriesReadable : List (String × Toml) → Bool
  | [] => true
  | (_, v) :: rest => isReadable v && entriesReadable rest

end

end Toml

end SceneLoop
