import SceneLoop.Proofs.Json.Sorted
import SceneLoop.Scene.Props

/-!
# What the properties of a layer are read from

The fields of an object are taken in one by one, but with distinct names their order does not
matter: the value of a key comes from the field under its name and, for the font size, from the
field under its other spelling if the first is missing; the other fields are kept as they came,
except null and those that gave a value.

## Main definitions

* `Fields.without` : the fields whose names are not excluded.
* `Fields.scalar?` : the property value under a name.
* `Props.isKept` : whether a field is kept as it came.

## Main results

* `Props.get?_ofFields` : the value of a key.
* `Props.get?_extra_ofFields` : the other fields.
* `Props.ext_get?` : properties are determined by their values and other fields.
-/

namespace SceneLoop

namespace PropKey

theorem lookup_name (k : PropKey) : lookup k.name = some (k, false) := by
  cases k <;> rfl

theorem lookup_fontSizeAlias : lookup fontSizeAlias = some (.fontSize, true) :=
  rfl

theorem name_inj {k l : PropKey} (h : k.name = l.name) : k = l := by
  have := congrArg lookup h
  rw [lookup_name, lookup_name] at this
  cases this
  rfl

theorem name_ne_fontSizeAlias (k : PropKey) : k.name ≠ fontSizeAlias := by
  cases k <;> decide

/-- A name stands for a key as its own name or as the other spelling of the font size. -/
theorem lookup_eq_some {name : String} {k : PropKey} {isAlias : Bool}
    (h : lookup name = some (k, isAlias)) :
    isAlias = false ∧ name = k.name ∨ isAlias = true ∧ name = fontSizeAlias ∧ k = .fontSize := by
  rw [lookup] at h
  split at h
  · next halias =>
    cases h
    exact .inr ⟨rfl, halias, rfl⟩
  · obtain ⟨l, hl, h⟩ := Option.map_eq_some_iff.1 h
    cases h
    have hname := List.find?_some hl
    exact .inl ⟨rfl, (of_decide_eq_true hname).symm⟩

theorem exists_index_eq (i : Fin 21) : ∃ k : PropKey, k.index = i :=
  ⟨all[i], by revert i; decide⟩

end PropKey

namespace Fields

/-- The fields whose names are not excluded. -/
def without (excluded : List String) (fields : Fields) : Fields :=
  List.filter (fun f => !excluded.contains f.1) fields

theorem Distinct.without {fields : Fields} (h : fields.Distinct) (excluded : List String) :
    (fields.without excluded).Distinct :=
  List.Pairwise.filter _ h

theorem without_nil (fields : Fields) : fields.without [] = fields := by
  simp [without]

/-- The property value under a name. -/
def scalar? (name : String) (fields : Fields) : Option PropValue :=
  (fields.get? name).bind PropValue.ofJson?

end Fields

namespace Props

/-- Whether a field is kept as it came: it is not null, and gives no key a value. -/
def isKept (name : String) (value : Json) : Bool :=
  !value.isNull && ((PropKey.lookup name).isNone || (PropValue.ofJson? value).isNone)

/-! ### One field -/

theorem takeField_of_scalar (p : Props) {name : String} {value : Json} {k : PropKey}
    {isAlias : Bool} {v : PropValue} (hname : PropKey.lookup name = some (k, isAlias))
    (hv : PropValue.ofJson? value = some v) :
    p.takeField name value = if isAlias && (p.get? k).isSome then p else p.set k v := by
  simp only [takeField, hname, hv]

theorem takeField_of_other (p : Props) {name : String} {value : Json}
    (h : PropKey.lookup name = none ∨ PropValue.ofJson? value = none) :
    p.takeField name value = if value.isNull then p else p.keep name value := by
  simp only [takeField]
  split
  · next hname hv => simp [hname, hv] at h
  · rfl

theorem get?_ite_keep (p : Props) (c : Prop) [Decidable c] (name : String) (value : Json)
    (k : PropKey) : (if c then p else p.keep name value).get? k = p.get? k := by
  split <;> rfl

/-- The value of a key after one field: the field under its name decides it, and the one under the
other spelling of the font size gives way. -/
theorem get?_takeField (p : Props) (name : String) (value : Json) (k : PropKey) :
    (p.takeField name value).get? k =
      if name = k.name then (PropValue.ofJson? value).or (p.get? k)
      else if name = PropKey.fontSizeAlias ∧ k = .fontSize then
        (p.get? k).or (PropValue.ofJson? value)
      else p.get? k := by
  cases hv : PropValue.ofJson? value with
  | none => simp [takeField_of_other p (.inr hv), get?_ite_keep]
  | some v =>
    cases hname : PropKey.lookup name with
    | none =>
      have hne : name ≠ k.name := fun h => by simp [h, PropKey.lookup_name] at hname
      have hne' : name ≠ PropKey.fontSizeAlias := fun h => by
        simp [h, PropKey.lookup_fontSizeAlias] at hname
      simp [takeField_of_other p (.inl hname), get?_ite_keep, hne, hne']
    | some found =>
      obtain ⟨l, isAlias⟩ := found
      rw [takeField_of_scalar p hname hv]
      rcases PropKey.lookup_eq_some hname with ⟨rfl, rfl⟩ | ⟨rfl, rfl, rfl⟩
      · have hinj : l.name = k.name ↔ l = k := ⟨PropKey.name_inj, congrArg PropKey.name⟩
        simp [get?_set, hinj, PropKey.name_ne_fontSizeAlias]
      · have hne := (PropKey.name_ne_fontSizeAlias k).symm
        by_cases hk : k = .fontSize
        · subst hk
          cases hp : p.get? .fontSize <;> simp [get?_set, hp, hne]
        · cases hp : p.get? .fontSize <;> simp [get?_set, hne, hk, Ne.symm hk]

theorem get?_extra_keep (p : Props) (name other : String) (value : Json) :
    (p.keep name value).extra.get? other =
      if name = other then some value else p.extra.get? other :=
  Fields.get?_insert name other value p.extra

/-- The other fields after one field. -/
theorem get?_extra_takeField (p : Props) (name other : String) (value : Json) :
    (p.takeField name value).extra.get? other =
      if name = other ∧ isKept name value then some value else p.extra.get? other := by
  by_cases hother : PropKey.lookup name = none ∨ PropValue.ofJson? value = none
  · have hkept : isKept name value = !value.isNull := by
      simpa [isKept, Option.isNone_iff_eq_none] using fun _ => hother
    rw [takeField_of_other p hother, hkept]
    cases value.isNull <;> simp [get?_extra_keep]
  · obtain ⟨hname, hv⟩ := not_or.1 hother
    obtain ⟨⟨l, isAlias⟩, hname⟩ := Option.ne_none_iff_exists'.1 hname
    obtain ⟨v, hv⟩ := Option.ne_none_iff_exists'.1 hv
    have hkept : isKept name value = false := by simp [isKept, hname, hv]
    rw [takeField_of_scalar p hname hv, hkept]
    split <;> simp [set]

theorem sorted_extra_takeField {p : Props} (h : p.extra.Sorted) (name : String) (value : Json) :
    (p.takeField name value).extra.Sorted := by
  simp only [takeField]
  split
  · split <;> exact h
  · split
    · exact h
    · exact h.insert name value

/-! ### All fields of an object -/

theorem ofFields_eq_foldl (fields : Fields) (excluded : List String) :
    ofFields fields excluded =
      List.foldl (fun p f => p.takeField f.1 f.2) empty (fields.without excluded) := by
  rw [Fields.without, List.foldl_filter, ofFields]
  congr 1
  funext p f
  cases excluded.contains f.1 <;> rfl

/-- The value of a key after fields with distinct names. -/
theorem get?_foldl_takeField {fields : Fields} (h : fields.Distinct) (p : Props) (k : PropKey) :
    (List.foldl (fun p f => p.takeField f.1 f.2) p fields).get? k =
      (fields.scalar? k.name).or ((p.get? k).or
        (if k = .fontSize then fields.scalar? PropKey.fontSizeAlias else none)) := by
  induction fields generalizing p with
  | nil => simp [Fields.scalar?]
  | cons f rest ih =>
    obtain ⟨hne, hrest⟩ := List.pairwise_cons.1 h
    have hdone : ∀ name, f.1 = name → Fields.get? name rest = none := fun name hf =>
      Fields.get?_eq_none_iff.2 fun g hg heq => hne g hg (hf.trans heq.symm)
    rw [List.foldl_cons, ih hrest, get?_takeField]
    simp only [Fields.scalar?, Fields.get?_cons]
    by_cases hname : f.1 = k.name
    · have halias : f.1 ≠ PropKey.fontSizeAlias := hname ▸ k.name_ne_fontSizeAlias
      simp [hname, hdone k.name hname, Option.or_assoc, hname ▸ halias]
    by_cases halias : f.1 = PropKey.fontSizeAlias
    · by_cases hk : k = .fontSize
      · simp [halias, hk, hdone _ halias, (PropKey.name_ne_fontSizeAlias _).symm]
      · simp [hname, hk]
    · simp [hname, halias]

/-- The other fields after fields with distinct names. -/
theorem get?_extra_foldl_takeField {fields : Fields} (h : fields.Distinct) (p : Props)
    (name : String) :
    (List.foldl (fun p f => p.takeField f.1 f.2) p fields).extra.get? name =
      ((fields.get? name).filter (isKept name)).or (p.extra.get? name) := by
  induction fields generalizing p with
  | nil => simp
  | cons f rest ih =>
    obtain ⟨hne, hrest⟩ := List.pairwise_cons.1 h
    rw [List.foldl_cons, ih hrest, get?_extra_takeField, Fields.get?_cons]
    by_cases hname : f.1 = name
    · have hdone : Fields.get? name rest = none :=
        Fields.get?_eq_none_iff.2 fun g hg heq => hne g hg (hname.trans heq.symm)
      cases hkept : isKept name f.2 <;> simp [hname, hdone, hkept, Option.filter]
    · simp [hname]

theorem sorted_extra_foldl_takeField (fields : Fields) {p : Props} (h : p.extra.Sorted) :
    (List.foldl (fun p f => p.takeField f.1 f.2) p fields).extra.Sorted := by
  induction fields generalizing p with
  | nil => exact h
  | cons f rest ih => exact ih (sorted_extra_takeField h f.1 f.2)

theorem get?_empty (k : PropKey) : empty.get? k = none := by
  simp [get?, empty]

/-- **The value of a key.** It is what the field under its name gives or else, for the font size,
what the field under the other spelling gives. -/
theorem get?_ofFields {fields : Fields} (h : fields.Distinct) (excluded : List String)
    (k : PropKey) :
    (ofFields fields excluded).get? k =
      ((fields.without excluded).scalar? k.name).or
        (if k = .fontSize then (fields.without excluded).scalar? PropKey.fontSizeAlias
          else none) := by
  rw [ofFields_eq_foldl, get?_foldl_takeField (h.without excluded), get?_empty, Option.none_or]

/-- **The other fields.** A field is kept as it came if it is not null and gives no key a value. -/
theorem get?_extra_ofFields {fields : Fields} (h : fields.Distinct) (excluded : List String)
    (name : String) :
    (ofFields fields excluded).extra.get? name =
      ((fields.without excluded).get? name).filter (isKept name) := by
  rw [ofFields_eq_foldl, get?_extra_foldl_takeField (h.without excluded)]
  exact Option.or_none

theorem sorted_extra_ofFields (fields : Fields) (excluded : List String) :
    (ofFields fields excluded).extra.Sorted := by
  rw [ofFields_eq_foldl]
  exact sorted_extra_foldl_takeField _ .nil

/-- Properties are equal if every key has the same value and the other fields are the same. -/
theorem ext_get? {p q : Props} (hknown : ∀ k, p.get? k = q.get? k) (hextra : p.extra = q.extra) :
    p = q := by
  obtain ⟨known, extra⟩ := p
  obtain ⟨known', extra'⟩ := q
  obtain rfl : extra = extra' := hextra
  congr 1
  refine Vector.ext fun i hi => ?_
  obtain ⟨k, hk⟩ := PropKey.exists_index_eq ⟨i, hi⟩
  have := hknown k
  simpa [get?, hk] using this

end Props

end SceneLoop
