import SceneLoop.Scene.Property

/-!
# The properties of one layer

A layer carries values for some of the known keys, and all other fields of its payload as they
came.  The other fields are written back, but drawing never reads them.

## Main definitions

* `Props` : values by key, and the other fields.
* `Props.ofFields` : the properties in the fields of an object.
* `Props.set`, `Props.setNumber` : changing a property by key and by name.
* `Props.toFields` : the fields that the properties are written as.

## Main results

* `Props.get?_set` : a property reads back, and the others stay.
-/

namespace SceneLoop

/-- The properties of one layer. -/
structure Props where
  /-- The values of the known keys. -/
  known : Vector (Option PropValue) 21
  /-- The other fields, sorted by name. -/
  extra : Fields

namespace Props

/-- No properties. -/
def empty : Props := ⟨.replicate 21 none, []⟩

instance : Inhabited Props := ⟨empty⟩

/-- The value of a key. -/
def get? (p : Props) (k : PropKey) : Option PropValue :=
  p.known[k.index]

/-- Give a key a value. -/
def set (p : Props) (k : PropKey) (v : PropValue) : Props :=
  { p with known := p.known.set k.index (some v) }

/-- A property reads back after it is set, and the others stay. -/
theorem get?_set (p : Props) (k l : PropKey) (v : PropValue) :
    (p.set k v).get? l = if k = l then some v else p.get? l := by
  by_cases h : k = l
  · subst h
    simp [get?, set]
  · have hi : k.index.val ≠ l.index.val := fun e => h (PropKey.index_inj (Fin.ext e))
    simp [get?, set, h, Vector.getElem_set_ne, hi]

/-- Keep a field as it came. -/
def keep (p : Props) (name : String) (value : Json) : Props :=
  { p with extra := p.extra.insert name value }

/-- Take in one field of a payload.  A scalar under a known name is the value of its key, unless the
name is another spelling and the key has a value; null is dropped, and all else is kept. -/
def takeField (p : Props) (name : String) (value : Json) : Props :=
  match PropKey.lookup name, PropValue.ofJson? value with
  | some (k, isAlias), some v => if isAlias && (p.get? k).isSome then p else p.set k v
  | _, _ => if value.isNull then p else p.keep name value

/-- The properties in the fields of an object, without the excluded names. -/
def ofFields (fields : Fields) (excluded : List String) : Props :=
  fields.foldl (fun p f => if excluded.contains f.1 then p else p.takeField f.1 f.2) empty

/-- The known properties in the order of their keys. -/
def entries (p : Props) : List (PropKey × PropValue) :=
  PropKey.all.filterMap fun k => (p.get? k).map (k, ·)

/-- Whether there are no properties at all. -/
def isEmpty (p : Props) : Bool :=
  p.entries.isEmpty && p.extra.isEmpty

/-- The number that a key stands for. -/
def number? (p : Props) (k : PropKey) : Option Float :=
  (p.get? k).bind PropValue.asNumber

/-- The first number among some keys. -/
def firstNumber? (p : Props) (keys : List PropKey) : Option Float :=
  keys.findSome? p.number?

/-- The text of a key; numbers and truth values are none. -/
def text? (p : Props) (k : PropKey) : Option String :=
  match p.get? k with
  | some (.text s) => some s
  | _ => none

/-- The first value among some keys, as it is shown. -/
def firstDisplay? (p : Props) (keys : List PropKey) : Option String :=
  (keys.findSome? p.get?).map PropValue.display

/-- Give a number to a name: to its key, or among the other fields. -/
def setNumber (p : Props) (name : String) (v : Float) : Props :=
  match PropKey.lookup name with
  | some (k, _) => p.set k (.number v)
  | none => p.keep name (.ofDouble v)

/-- The number among the other fields. -/
def extraNumber? (p : Props) (name : String) : Option Float :=
  (p.extra.get? name).bind Json.coerceNumber

/-- The fields that the properties are written as: the known keys in order, then the others. -/
def toFields (p : Props) : List (String × Json) :=
  p.entries.map (fun e => (e.1.name, e.2.toJson)) ++ p.extra

/-- Equality of properties, where numbers are compared as numbers. -/
def same (p q : Props) : Bool :=
  (PropKey.all.all fun k =>
    match p.get? k, q.get? k with
    | some v, some w => v.same w
    | none, none => true
    | _, _ => false) && Json.sameFields p.extra q.extra

end Props

end SceneLoop
