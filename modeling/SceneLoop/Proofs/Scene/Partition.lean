import SceneLoop.Proofs.Scene.Props

/-!
# Every field of an object has its place

The properties in the fields of an object do not depend on the order in which the fields are taken.
A scalar under the name of a key is the value of the key, a scalar under the other spelling of the
font size is its value if there is none under the first, and every other field but null is kept as
it came.  So a field is lost only if it is null, or the second of two spellings.

## Main definitions

* `Json.IsScalar`, `Json.IsCompound` : values that a property may have, and arrays and objects.
* `Fields.HasFiniteNumbers` : fields as those of a payload, where no number is infinite.
* `Fields.Gives` : the property value that the field under a name has.

## Main results

* `Props.ofFields_perm` : the order of the fields does not matter.
* `Props.ofFields_partition` : the place of every field.
-/

namespace SceneLoop

/-! ### Values of fields -/

namespace Json

/-- A finite number, a text or a truth value, with the property value that it is. -/
inductive IsScalar : Json → PropValue → Prop
  | number {n : Number} (h : n.toDouble.isFinite) : IsScalar (.number n) (.number n.toDouble)
  | text (s : String) : IsScalar (.text s) (.text s)
  | bool (b : Bool) : IsScalar (.bool b) (.bool b)

/-- An array or an object. -/
def IsCompound : Json → Prop
  | .array _ | .object _ => True
  | _ => False

theorem isScalar_iff {value : Json} {v : PropValue} :
    value.IsScalar v ↔ PropValue.ofJson? value = some v := by
  constructor
  · intro h
    cases h with
    | number h => rw [PropValue.ofJson?, if_pos h]
    | text | bool => rfl
  · intro h
    cases value with
    | null | array | object => cases h
    | text | bool => cases h; constructor
    | number n =>
      rw [PropValue.ofJson?] at h
      split at h
      · next hfinite => cases h; exact .number hfinite
      · cases h

/-- A value whose number, if it is one, is finite is null, a property value or compound. -/
theorem isCompound_iff {value : Json} (hfinite : ∀ n, value = .number n → n.toDouble.isFinite)
    (hnull : value ≠ .null) : value.IsCompound ↔ PropValue.ofJson? value = none := by
  cases value with
  | null => exact absurd rfl hnull
  | text | bool => simp [IsCompound, PropValue.ofJson?]
  | array | object => simp [IsCompound, PropValue.ofJson?]
  | number n => simp [IsCompound, PropValue.ofJson?, hfinite n rfl]

theorem isNull_eq_false_iff {value : Json} : value.isNull = false ↔ value ≠ .null := by
  cases value <;> simp [isNull]

end Json

namespace Fields

/-- The numbers among the values of some fields are finite. -/
def HasFiniteNumbers (fields : Fields) : Prop :=
  ∀ name n, (name, Json.number n) ∈ fields → n.toDouble.isFinite

/-- The field under a name is a scalar, with a given property value. -/
def Gives (fields : Fields) (name : String) (v : PropValue) : Prop :=
  ∃ value, (name, value) ∈ fields ∧ value.IsScalar v

variable {fields visited : Fields}

theorem Distinct.gives_iff (h : fields.Distinct) {name : String} {v : PropValue} :
    fields.Gives name v ↔ fields.scalar? name = some v := by
  simp only [Gives, scalar?, Option.bind_eq_some_iff, h.get?_eq_some_iff, Json.isScalar_iff]

theorem Distinct.perm (h : fields.Distinct) (hperm : visited.Perm fields) : visited.Distinct :=
  (hperm.pairwise_iff fun hne => hne.symm).2 h

/-- What is read from fields with distinct names does not depend on their order. -/
theorem Distinct.get?_perm (h : fields.Distinct) (hperm : visited.Perm fields) (name : String) :
    visited.get? name = fields.get? name := by
  refine Option.ext fun value => ?_
  rw [(h.perm hperm).get?_eq_some_iff, h.get?_eq_some_iff, hperm.mem_iff]

end Fields

/-! ### Places of fields -/

namespace Props

variable {fields visited : Fields}

/-- The properties in some fields do not depend on the order in which these are taken. -/
theorem ofFields_perm (h : fields.Distinct) (hperm : visited.Perm fields) (excluded : List String) :
    ofFields visited excluded = ofFields fields excluded := by
  have hvisited : visited.Distinct := h.perm hperm
  have hget : ∀ name, (visited.without excluded).get? name = (fields.without excluded).get? name :=
    (h.without excluded).get?_perm (hperm.filter _)
  refine ext_get? (fun k => ?_) ?_
  · simp only [get?_ofFields hvisited, get?_ofFields h, Fields.scalar?, hget]
  · refine (sorted_extra_ofFields visited excluded).ext (sorted_extra_ofFields fields excluded) ?_
    intro name
    rw [get?_extra_ofFields hvisited, get?_extra_ofFields h, hget]

/-- The value of a key, by the fields that may give it. -/
theorem get?_ofFields_eq_some_iff (h : fields.Distinct) (excluded : List String) {k : PropKey}
    {v : PropValue} :
    (ofFields fields excluded).get? k = some v ↔
      (fields.without excluded).Gives k.name v ∨
        k = .fontSize ∧ (∀ w, ¬(fields.without excluded).Gives k.name w) ∧
          (fields.without excluded).Gives PropKey.fontSizeAlias v := by
  have hdistinct := h.without excluded
  simp only [hdistinct.gives_iff, ← Option.eq_none_iff_forall_ne_some]
  rw [get?_ofFields h, Option.or_eq_some_iff]
  by_cases hk : k = .fontSize <;> simp [hk]

/-- The other fields are the fields that are not null and give no key a value. -/
theorem mem_extra_ofFields (h : fields.Distinct) (excluded : List String) {name : String}
    {value : Json} :
    (name, value) ∈ (ofFields fields excluded).extra ↔
      (name, value) ∈ fields.without excluded ∧ isKept name value := by
  rw [← (sorted_extra_ofFields fields excluded).distinct.get?_eq_some_iff, get?_extra_ofFields h,
    Option.filter_eq_some_iff, (h.without excluded).get?_eq_some_iff]

theorem isKept_iff {name : String} {value : Json}
    (hfinite : ∀ n, value = .number n → n.toDouble.isFinite) :
    isKept name value ↔
      value ≠ .null ∧ (PropKey.lookup name = none ∨ value.IsCompound) := by
  rw [isKept, Bool.and_eq_true, Bool.not_eq_true', Json.isNull_eq_false_iff, Bool.or_eq_true,
    Option.isNone_iff_eq_none, Option.isNone_iff_eq_none]
  exact and_congr_right fun hnull => or_congr_right (Json.isCompound_iff hfinite hnull).symm

/-- A field that is not null and is not kept as it came gives a key its value, unless it is the
second spelling of a font size. -/
theorem gives_of_not_isKept (h : fields.Distinct) (excluded : List String) {name : String}
    {value : Json} (hmem : (name, value) ∈ fields.without excluded) (hnull : value ≠ .null)
    (hkept : ¬isKept name value) :
    (∃ k isAlias v, PropKey.lookup name = some (k, isAlias) ∧ value.IsScalar v ∧
        (ofFields fields excluded).get? k = some v) ∨
      name = PropKey.fontSizeAlias ∧ (∃ v, value.IsScalar v) ∧
        ∃ w, (fields.without excluded).Gives PropKey.fontSize.name w := by
  rw [isKept, Json.isNull_eq_false_iff.2 hnull] at hkept
  simp only [Bool.not_false, Bool.true_and, Bool.or_eq_true, not_or, Option.isNone_iff_eq_none]
    at hkept
  obtain ⟨⟨k, isAlias⟩, hname⟩ := Option.ne_none_iff_exists'.1 hkept.1
  obtain ⟨v, hv⟩ := Option.ne_none_iff_exists'.1 hkept.2
  have hscalar := Json.isScalar_iff.2 hv
  rcases PropKey.lookup_eq_some hname with ⟨-, rfl⟩ | ⟨-, rfl, rfl⟩
  · exact .inl ⟨k, isAlias, v, hname, hscalar,
      (get?_ofFields_eq_some_iff h excluded).2 (.inl ⟨value, hmem, hscalar⟩)⟩
  · by_cases hfirst : ∃ w, (fields.without excluded).Gives PropKey.fontSize.name w
    · exact .inr ⟨rfl, ⟨v, hscalar⟩, hfirst⟩
    · refine .inl ⟨.fontSize, isAlias, v, hname, hscalar, ?_⟩
      exact (get?_ofFields_eq_some_iff h excluded).2
        (.inr ⟨rfl, fun w hw => hfirst ⟨w, hw⟩, value, hmem, hscalar⟩)

/-- **Every field has its place.** Take fields with distinct names and finite numbers, as those of a
payload are, in any order.  The properties in them are always the same.  A key has the scalar value
of the field under its name that is not excluded or else, for the font size, of the field under the
other spelling.  Kept as they came are exactly the fields that are neither excluded nor null, and
whose name stands for no key or whose value is an array or object.  So of the fields that are
neither excluded nor null the only ones without a place are scalars under the other spelling of the
font size, next to one under the first. -/
theorem ofFields_partition (h : fields.Distinct) (hfinite : fields.HasFiniteNumbers)
    (excluded : List String) :
    (∀ visited : Fields, visited.Perm fields →
      ofFields visited excluded = ofFields fields excluded) ∧
    (∀ (k : PropKey) (v : PropValue), (ofFields fields excluded).get? k = some v ↔
      (fields.without excluded).Gives k.name v ∨
        k = .fontSize ∧ (∀ w, ¬(fields.without excluded).Gives k.name w) ∧
          (fields.without excluded).Gives PropKey.fontSizeAlias v) ∧
    (∀ name value, (name, value) ∈ (ofFields fields excluded).extra ↔
      (name, value) ∈ fields.without excluded ∧ value ≠ .null ∧
        (PropKey.lookup name = none ∨ value.IsCompound)) ∧
    (∀ name value, (name, value) ∈ fields.without excluded → value ≠ .null →
      (name, value) ∈ (ofFields fields excluded).extra ∨
      (∃ k isAlias v, PropKey.lookup name = some (k, isAlias) ∧ value.IsScalar v ∧
        (ofFields fields excluded).get? k = some v) ∨
      name = PropKey.fontSizeAlias ∧ (∃ v, value.IsScalar v) ∧
        ∃ w, (fields.without excluded).Gives PropKey.fontSize.name w) := by
  have hnumber : ∀ {name value}, (name, value) ∈ fields.without excluded →
      ∀ n, value = .number n → n.toDouble.isFinite := by
    rintro name _ hmem n rfl
    exact hfinite name n (List.mem_filter.1 hmem).1
  refine ⟨fun visited hperm => ofFields_perm h hperm excluded,
    fun k v => get?_ofFields_eq_some_iff h excluded, fun name value => ?_, ?_⟩
  · rw [mem_extra_ofFields h]
    exact and_congr_right fun hmem => isKept_iff (hnumber hmem)
  · intro name value hmem hnull
    by_cases hkept : isKept name value
    · exact .inl ((mem_extra_ofFields h excluded).2 ⟨hmem, hkept⟩)
    · exact .inr (gives_of_not_isKept h excluded hmem hnull hkept)

/-- The fields of a label with both spellings of its size, a fill that is no color, and a null. -/
def labelFields : Fields :=
  [("fill", .array []), ("font-size", .number (.integer 30)), ("fontSize", .text "18"),
    ("note", .bool true), ("type", .text "label"), ("x", .null)]

/-- In any order, the label has the size under the first spelling, and the fill is kept. -/
theorem ofFields_partition_label :
    ofFields labelFields.reverse ["type"] = ofFields labelFields ["type"] ∧
      (ofFields labelFields ["type"]).get? .fontSize = some (.text "18") ∧
      ("fill", .array []) ∈ (ofFields labelFields ["type"]).extra ∧
      ("type", .text "label") ∉ (ofFields labelFields ["type"]).extra := by
  have hdistinct : labelFields.Distinct := by simp [labelFields, Fields.Distinct]
  have hfinite : labelFields.HasFiniteNumbers := by
    intro name n hmem
    simp only [labelFields, List.mem_cons, Prod.mk.injEq, reduceCtorEq, and_false, false_or,
      List.not_mem_nil, or_false, Json.number.injEq] at hmem
    rw [hmem.2]
    decide
  obtain ⟨hperm, hknown, hextra, -⟩ := ofFields_partition hdistinct hfinite ["type"]
  refine ⟨hperm _ (List.reverse_perm _), ?_, ?_, ?_⟩
  · exact (hknown _ _).2 (.inl ⟨_, Fields.mem_of_get? rfl, .text "18"⟩)
  · exact (hextra _ _).2 ⟨Fields.mem_of_get? rfl, by simp, .inr trivial⟩
  · intro hmem
    have hget := (hdistinct.without ["type"]).get?_eq_some_iff.2 ((hextra _ _).1 hmem).1
    cases hget

end Props

end SceneLoop
