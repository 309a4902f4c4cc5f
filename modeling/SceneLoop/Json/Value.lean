import SceneLoop.Number.Binary

/-!
# Values of the data format

A value is null, a truth value, a number, a text, an array or an object.  A number without a
fraction and an exponent that fits a 64-bit word is kept as an integer, every other number as a
double.  The fields of an object that was read are sorted by name and have distinct names; a
document that is about to be written may have its fields in any order.

## Main definitions

* `Json` : the values.
* `Fields` : the fields of an object, with `Fields.get?` and `Fields.insert`.
* `Json.sorted` : a value with the fields of all its objects sorted, the last of equal names kept.
* `Json.same` : equality of values, where numbers are compared as numbers.

## Main results

* `Fields.get?_insert` : a field reads back, and the others stay.
-/

namespace SceneLoop

/-- A number of the data format. -/
inductive Json.Number where
  /-- An integer in the range of a signed or an unsigned 64-bit word. -/
  | integer (n : Int)
  /-- Any other number. -/
  | real (x : Float)
deriving DecidableEq

/-- A value of the data format. -/
inductive Json where
  /-- The null value. -/
  | null
  /-- A truth value. -/
  | bool (b : Bool)
  /-- A number. -/
  | number (n : Json.Number)
  /-- A text. -/
  | text (s : String)
  /-- An array. -/
  | array (items : List Json)
  /-- An object, as a list of named values. -/
  | object (fields : List (String × Json))

instance : Inhabited Json := ⟨.null⟩

/-- The fields of an object. -/
abbrev Fields := List (String × Json)

namespace Fields

/-- The value of a field. -/
def get? (name : String) : Fields → Option Json
  | [] => none
  | (k, v) :: rest => if k = name then some v else get? name rest

/-- Set a field, before the first field with a greater name. -/
def insert (name : String) (value : Json) : Fields → Fields
  | [] => [(name, value)]
  | (k, v) :: rest =>
    if name < k then (name, value) :: (k, v) :: rest
    else if name = k then (name, value) :: rest
    else (k, v) :: insert name value rest

/-- Sorted fields with the given names and values; the last of equal names is kept. -/
def ofList (fields : List (String × Json)) : Fields :=
  fields.foldl (fun acc f => acc.insert f.1 f.2) []

/-- Fields are sorted when every name is less than the names after it. -/
def Sorted (fields : Fields) : Prop :=
  fields.Pairwise fun a b => a.1 < b.1

theorem mem_insert {name : String} {value : Json} {fields : Fields} {f : String × Json}
    (h : f ∈ fields.insert name value) : f = (name, value) ∨ f ∈ fields := by
  induction fields with
  | nil => simpa [insert] using h
  | cons a rest ih =>
    obtain ⟨k, v⟩ := a
    simp only [insert] at h
    split at h
    · simpa using h
    · split at h
      · rcases List.mem_cons.1 h with h | h
        · exact .inl h
        · exact .inr (List.mem_cons_of_mem _ h)
      · rcases List.mem_cons.1 h with h | h
        · exact .inr (h ▸ List.mem_cons_self)
        · rcases ih h with h | h
          · exact .inl h
          · exact .inr (List.mem_cons_of_mem _ h)

/-- Setting a field keeps the fields sorted. -/
theorem Sorted.insert {fields : Fields} (h : fields.Sorted) (name : String) (value : Json) :
    (fields.insert name value).Sorted := by
  induction fields with
  | nil => simp [Fields.insert, Sorted]
  | cons a rest ih =>
    obtain ⟨k, v⟩ := a
    have hk := List.pairwise_cons.1 h
    simp only [Fields.insert]
    split
    · next hlt =>
      refine List.pairwise_cons.2 ⟨fun f hf => ?_, h⟩
      rcases List.mem_cons.1 hf with rfl | hf
      · exact hlt
      · exact String.lt_trans hlt (hk.1 f hf)
    · next hnlt =>
      split
      · next heq =>
        subst heq
        exact List.pairwise_cons.2 ⟨hk.1, hk.2⟩
      · next hne =>
        refine List.pairwise_cons.2 ⟨fun f hf => ?_, ih hk.2⟩
        rcases mem_insert hf with rfl | hf
        · exact Decidable.byContradiction fun hn =>
            hne (String.le_antisymm (String.not_lt.1 hn) (String.not_lt.1 hnlt))
        · exact hk.1 f hf

/-- The fields of a list are sorted once they are collected. -/
theorem sorted_ofList (fields : List (String × Json)) : (ofList fields).Sorted := by
  suffices h : ∀ acc : Fields, acc.Sorted →
      (fields.foldl (fun acc f => acc.insert f.1 f.2) acc).Sorted from
    h [] List.Pairwise.nil
  induction fields with
  | nil => exact fun _ h => h
  | cons f rest ih => exact fun acc h => ih _ (h.insert f.1 f.2)

/-- A field reads back after it is set, and the others stay. -/
theorem get?_insert (name other : String) (value : Json) (fields : Fields) :
    (fields.insert name value).get? other =
      if name = other then some value else fields.get? other := by
  induction fields with
  | nil => simp [insert, get?]
  | cons a rest ih =>
    obtain ⟨k, v⟩ := a
    simp only [insert]
    split
    · simp [get?]
    · split
      · next h => subst h; simp only [get?]; split <;> simp_all
      · simp only [get?, ih]
        split
        · next h =>
          split
          · next h' => subst h h'; simp_all
          · rfl
        · rfl

end Fields

namespace Json

/-- The number as a double. -/
def Number.toDouble : Number → Float
  | .integer n => .ofInt n
  | .real x => x

/-- Two numbers are the same when they are of the same kind and compare as equal. -/
def Number.same : Number → Number → Bool
  | .integer m, .integer n => m == n
  | .real x, .real y => x == y
  | _, _ => false

/-- The number for a double, or null if the double has no written form. -/
def ofDouble (x : Float) : Json :=
  if x.isFinite then .number (.real x) else .null

/-- The number for a natural number. -/
def ofNat (n : Nat) : Json :=
  .number (.integer n)

/-- The fields of an object. -/
def fields? : Json → Option Fields
  | .object fields => some fields
  | _ => none

/-- The items of an array. -/
def items? : Json → Option (List Json)
  | .array items => some items
  | _ => none

/-- A text. -/
def text? : Json → Option String
  | .text s => some s
  | _ => none

/-- Whether a value is null. -/
def isNull : Json → Bool
  | .null => true
  | _ => false

/-- The name of the kind of a value. -/
def kindName : Json → String
  | .null => "null"
  | .bool _ => "boolean"
  | .number _ => "number"
  | .text _ => "string"
  | .array _ => "array"
  | .object _ => "object"

mutual

/-- A value with the fields of all its objects sorted by name. -/
def sorted : Json → Json
  | .array items => .array (sortedItems items)
  | .object fields => .object (Fields.ofList (sortedFields fields))
  | v => v

/-- Sort within each item. -/
def sortedItems : List Json → List Json
  | [] => []
  | v :: rest => sorted v :: sortedItems rest

/-- Sort within the value of each field. -/
def sortedFields : List (String × Json) → List (String × Json)
  | [] => []
  | (k, v) :: rest => (k, sorted v) :: sortedFields rest

end

mutual

/-- Equality of values. -/
def same : Json → Json → Bool
  | .null, .null => true
  | .bool a, .bool b => a == b
  | .number a, .number b => a.same b
  | .text a, .text b => a == b
  | .array a, .array b => sameItems a b
  | .object a, .object b => sameFields a b
  | _, _ => false

/-- Equality of arrays, item by item. -/
def sameItems : List Json → List Json → Bool
  | [], [] => true
  | v :: vs, w :: ws => same v w && sameItems vs ws
  | _, _ => false

/-- Equality of sorted fields, field by field. -/
def sameFields : List (String × Json) → List (String × Json) → Bool
  | [], [] => true
  | (k, v) :: vs, (l, w) :: ws => k == l && same v w && sameFields vs ws
  | _, _ => false

end

end Json

end SceneLoop
