import SceneLoop.Proofs.Scene.Partition
import SceneLoop.Proofs.Scene.Resolved
import SceneLoop.Proofs.Scene.Written

/-!
# Names that are written twice

Properties are written as the values of their keys and then their other fields.  An array or object
under the name of a key is such another field, and stays one when the key gets a value all the same:
from the other spelling of the font size, or from a change.  Then the name is written twice, and the
value of the key is not read back.  In every other case all names are distinct, and all values are
read back.

## Main definitions

* `Props.Change`, `Props.changed` : properties after some changes by key or by name.
* `Props.Clashes` : a key with a value whose name another field has.

## Main results

* `Layer.propsAt_eq_changed` : the properties at a scene time are changed properties.
* `Props.clashes_changed_iff` : which keys clash.
* `Props.distinct_toFields_iff` : names are distinct just if no key clashes.
* `Props.written_names_distinct_iff` : which names are written twice, and what is read back.
-/

namespace SceneLoop

namespace Props

/-- A change of one property. -/
inductive Change where
  /-- A key gets a value. -/
  | set (k : PropKey) (v : PropValue)
  /-- A name gets a number. -/
  | setNumber (name : String) (x : Float)

/-- The properties after a change. -/
def change (p : Props) : Change → Props
  | .set k v => p.set k v
  | .setNumber name x => p.setNumber name x

/-- The properties after some changes in order. -/
def changed (p : Props) (cs : List Change) : Props :=
  cs.foldl change p

/-- Whether a change gives a key a value. -/
def Change.gives (k : PropKey) : Change → Bool
  | .set l _ => l = k
  | .setNumber name _ => k.hasName name

/-- A key has a value, and another field has its name. -/
def Clashes (p : Props) (k : PropKey) : Prop :=
  (p.get? k).isSome ∧ (p.extra.get? k.name).isSome

/-! ### Changes -/

theorem isSome_get?_change (p : Props) (c : Change) (k : PropKey) :
    ((p.change c).get? k).isSome = (c.gives k || (p.get? k).isSome) := by
  cases c with
  | set l v => by_cases h : l = k <;> simp [change, Change.gives, get?_set, h]
  | setNumber name x =>
    cases h : k.hasName name <;> simp [change, Change.gives, get?_setNumber, h]

/-- After some changes a key has a value if one of them gives it one, or if it had one before. -/
theorem isSome_get?_changed (p : Props) (cs : List Change) (k : PropKey) :
    ((p.changed cs).get? k).isSome = (cs.any (Change.gives k) || (p.get? k).isSome) := by
  induction cs generalizing p with
  | nil => rfl
  | cons c cs ih =>
    rw [changed, List.foldl_cons, ← changed, ih, isSome_get?_change, List.any_cons,
      Bool.or_left_comm, Bool.or_assoc]

theorem get?_extra_change (p : Props) (c : Change) (k : PropKey) :
    (p.change c).extra.get? k.name = p.extra.get? k.name := by
  cases c with
  | set l v => rfl
  | setNumber name x =>
    rw [change, get?_extra_setNumber, if_neg]
    rintro ⟨hnone, rfl⟩
    simp [PropKey.lookup_name] at hnone

/-- Changes leave a field under the name of a key alone. -/
theorem get?_extra_changed (p : Props) (cs : List Change) (k : PropKey) :
    (p.changed cs).extra.get? k.name = p.extra.get? k.name := by
  induction cs generalizing p with
  | nil => rfl
  | cons c cs ih => rw [changed, List.foldl_cons, ← changed, ih, get?_extra_change]

theorem sorted_extra_changed {p : Props} (h : p.extra.Sorted) (cs : List Change) :
    (p.changed cs).extra.Sorted := by
  refine List.foldlRecOn (motive := fun q : Props => q.extra.Sorted) _ _ h fun q hq c _ => ?_
  cases c with
  | set => exact hq
  | setNumber name x => exact sorted_extra_setNumber hq name x

end Props

/-- What the animations of a layer change at a scene time. -/
def Layer.changesAt (l : Layer) (t : Float) : List Props.Change :=
  l.animations.filterMap fun a => (a.valueAt t).map (.setNumber a.property)

/-- The properties of a layer at a scene time are its own after the changes of the animations. -/
theorem Layer.propsAt_eq_changed (l : Layer) (t : Float) :
    l.propsAt t = l.props.changed (l.changesAt t) := by
  rw [propsAt, changesAt, Props.changed, List.foldl_filterMap]
  congr 1
  funext p a
  rw [animate]
  cases a.valueAt t <;> rfl

namespace Props

/-! ### Written names -/

theorem noClash_iff {p : Props} : p.NoClash ↔ ∀ k, ¬p.Clashes k := by
  simp [NoClash, Clashes]

/-- The names that properties are written under are distinct just if no key clashes. -/
theorem distinct_toFields_iff {p : Props} (h : p.extra.Sorted) :
    Fields.Distinct p.toFields ↔ ∀ k, ¬p.Clashes k := by
  refine ⟨fun hdistinct k hk => ?_, fun hclash => distinct_toFields h (noClash_iff.2 hclash)⟩
  obtain ⟨v, hv⟩ := Option.isSome_iff_exists.1 hk.1
  obtain ⟨value, hvalue⟩ := Option.isSome_iff_exists.1 hk.2
  have hne := (List.pairwise_append.1 hdistinct).2.2
  exact hne (k.name, v.toJson) (List.mem_map.2 ⟨(k, v), mem_entries.2 hv, rfl⟩) (k.name, value)
    (Fields.mem_of_get? hvalue) rfl

theorem get?_map_entries (p : Props) (k : PropKey) :
    Fields.get? k.name (p.entries.map fun e => (e.1.name, e.2.toJson)) =
      (p.get? k).map PropValue.toJson := by
  refine Option.ext fun value => ?_
  rw [p.distinct_map_entries.get?_eq_some_iff, List.mem_map, Option.map_eq_some_iff]
  constructor
  · rintro ⟨⟨l, v⟩, hmem, heq⟩
    obtain ⟨hname, rfl⟩ := Prod.mk.inj heq
    obtain rfl := PropKey.name_inj hname
    exact ⟨v, mem_entries.1 hmem, rfl⟩
  · rintro ⟨v, hv, rfl⟩
    exact ⟨(k, v), mem_entries.2 hv, rfl⟩

/-- Under the name of a key another field is read back, if there is one, and else the value of the
key. -/
theorem get?_ofList_toFields {p : Props} (h : p.extra.Sorted) (k : PropKey) :
    (Fields.ofList p.toFields).get? k.name =
      (p.extra.get? k.name).or ((p.get? k).map PropValue.toJson) := by
  rw [Fields.ofList, Fields.get?_foldl_insert, Fields.get?_nil, Option.or_none, toFields,
    List.reverse_append, Fields.get?_append, h.distinct.get?_perm (List.reverse_perm _),
    p.distinct_map_entries.get?_perm (List.reverse_perm _), get?_map_entries]

/-- A field that is kept under the name of a key gives the key no value. -/
theorem ofJson?_eq_none_of_isKept {k : PropKey} {value : Json} (hkept : isKept k.name value) :
    PropValue.ofJson? value = none := by
  rw [isKept, PropKey.lookup_name, Bool.and_eq_true] at hkept
  simpa using hkept.2

/-- What a property is written as gives its key a value again, or is null. -/
theorem not_isKept_toJson (k : PropKey) (v : PropValue) : ¬isKept k.name v.toJson := by
  rw [isKept, PropKey.lookup_name]
  cases v with
  | text | bool => simp [PropValue.toJson, PropValue.ofJson?]
  | number x =>
    cases hfinite : x.isFinite <;>
      simp [PropValue.toJson, Json.ofDouble, hfinite, Json.isNull, PropValue.ofJson?,
        Json.Number.toDouble]

/-! ### Clashes -/

variable {fields : Fields}

/-- Another field has the name of a key just if it came as an array or object. -/
theorem isSome_get?_extra_ofFields (h : fields.Distinct) (hfinite : fields.HasFiniteNumbers)
    (excluded : List String) (k : PropKey) :
    ((ofFields fields excluded).extra.get? k.name).isSome ↔
      ∃ value, (k.name, value) ∈ fields.without excluded ∧ value.IsCompound := by
  obtain ⟨-, -, hextra, -⟩ := ofFields_partition h hfinite excluded
  simp only [Option.isSome_iff_exists,
    (sorted_extra_ofFields fields excluded).distinct.get?_eq_some_iff, hextra, PropKey.lookup_name,
    reduceCtorEq, false_or]
  refine exists_congr fun value => and_congr_right fun _ => ⟨And.right, fun hvalue => ⟨?_, hvalue⟩⟩
  rintro rfl
  exact hvalue

/-- A key whose name stands before an array or object has no value, unless it is the font size and
the other spelling gives one. -/
theorem isSome_get?_ofFields_of_isCompound (h : fields.Distinct) (excluded : List String)
    {k : PropKey} {value : Json} (hmem : (k.name, value) ∈ fields.without excluded)
    (hvalue : value.IsCompound) :
    ((ofFields fields excluded).get? k).isSome ↔
      k = .fontSize ∧ ∃ v, (fields.without excluded).Gives PropKey.fontSizeAlias v := by
  have hnone : ∀ v, ¬(fields.without excluded).Gives k.name v := by
    rintro v ⟨other, hother, hv⟩
    have hget := (h.without excluded).get?_eq_some_iff.2 hmem
    rw [(h.without excluded).get?_eq_some_iff.2 hother, Option.some_inj] at hget
    subst hget
    cases hv <;> exact hvalue
  simp [Option.isSome_iff_exists, get?_ofFields_eq_some_iff h, hnone]

/-- After some changes a key clashes if an array or object came under its name, and it has a value
from one of the changes or from the other spelling of the font size. -/
theorem clashes_changed_iff (h : fields.Distinct) (hfinite : fields.HasFiniteNumbers)
    (excluded : List String) (cs : List Change) (k : PropKey) :
    ((ofFields fields excluded).changed cs).Clashes k ↔
      (∃ value, (k.name, value) ∈ fields.without excluded ∧ value.IsCompound) ∧
        (cs.any (Change.gives k) ∨
          k = .fontSize ∧ ∃ v, (fields.without excluded).Gives PropKey.fontSizeAlias v) := by
  rw [Clashes, and_comm, get?_extra_changed, isSome_get?_extra_ofFields h hfinite,
    isSome_get?_changed, Bool.or_eq_true]
  refine and_congr_right fun ⟨value, hmem, hvalue⟩ => ?_
  rw [isSome_get?_ofFields_of_isCompound h excluded hmem hvalue]

/-- After some changes another field under the name of a key is still one that was kept. -/
theorem isKept_of_get?_extra_changed (h : fields.Distinct) {excluded : List String}
    {cs : List Change} {k : PropKey} {value : Json}
    (hget : ((ofFields fields excluded).changed cs).extra.get? k.name = some value) :
    isKept k.name value := by
  rw [get?_extra_changed, get?_extra_ofFields h, Option.filter_eq_some_iff] at hget
  exact hget.2

/-- Under the name of a key stands what its value is written as, just if the key does not clash. -/
theorem get?_ofList_toFields_changed (h : fields.Distinct) (excluded : List String)
    (cs : List Change) {k : PropKey} {v : PropValue}
    (hv : ((ofFields fields excluded).changed cs).get? k = some v) :
    (Fields.ofList ((ofFields fields excluded).changed cs).toFields).get? k.name =
        some v.toJson ↔
      ¬((ofFields fields excluded).changed cs).Clashes k := by
  have hsorted := sorted_extra_changed (sorted_extra_ofFields fields excluded) cs
  rw [get?_ofList_toFields hsorted, Clashes, hv, Option.map_some, Option.isSome_some]
  cases hextra : ((ofFields fields excluded).changed cs).extra.get? k.name with
  | none => simp
  | some value =>
    simp only [Option.some_or, Option.some_inj, Option.isSome_some, and_self, not_true, iff_false]
    rintro rfl
    exact not_isKept_toJson k v (isKept_of_get?_extra_changed h hextra)

/-- The value of a key is read back just if the key does not clash, and the value is not a number
without a written form. -/
theorem scalar?_ofList_toFields_changed (h : fields.Distinct) (excluded : List String)
    (cs : List Change) {k : PropKey} {v : PropValue}
    (hv : ((ofFields fields excluded).changed cs).get? k = some v) :
    (Fields.ofList ((ofFields fields excluded).changed cs).toFields).scalar? k.name = some v ↔
      ¬((ofFields fields excluded).changed cs).Clashes k ∧ v.IsRead := by
  have hsorted := sorted_extra_changed (sorted_extra_ofFields fields excluded) cs
  rw [Fields.scalar?, get?_ofList_toFields hsorted, Clashes, hv, Option.map_some,
    Option.isSome_some]
  cases hextra : ((ofFields fields excluded).changed cs).extra.get? k.name with
  | none => simp [PropValue.ofJson?_toJson_eq_some_iff]
  | some value =>
    simp [ofJson?_eq_none_of_isKept (isKept_of_get?_extra_changed h hextra)]

/-- **Which names are written twice.** Take the properties in fields with distinct names and finite
numbers, as those of a payload are, after any changes by key or by name.  A key clashes if an array
or object came under its name, which is kept as it came, and the key has a value all the same: from
one of the changes or, for the font size, from a scalar under the other spelling.  The names that
the properties are written under are distinct just if no key clashes.  What the value of a key is
written as stands under its name just if that key does not clash, and then the value is read back,
unless it is a number that has no written form. -/
theorem written_names_distinct_iff (h : fields.Distinct) (hfinite : fields.HasFiniteNumbers)
    (excluded : List String) (cs : List Change) :
    let p := (ofFields fields excluded).changed cs
    (∀ k, p.Clashes k ↔
      (∃ value, (k.name, value) ∈ fields.without excluded ∧ value.IsCompound) ∧
        (cs.any (Change.gives k) ∨
          k = .fontSize ∧ ∃ v, (fields.without excluded).Gives PropKey.fontSizeAlias v)) ∧
    (Fields.Distinct p.toFields ↔ ∀ k, ¬p.Clashes k) ∧
    (∀ k v, p.get? k = some v →
      ((Fields.ofList p.toFields).get? k.name = some v.toJson ↔ ¬p.Clashes k) ∧
      ((Fields.ofList p.toFields).scalar? k.name = some v ↔ ¬p.Clashes k ∧ v.IsRead)) :=
  ⟨clashes_changed_iff h hfinite excluded cs,
    distinct_toFields_iff (sorted_extra_changed (sorted_extra_ofFields fields excluded) cs),
    fun _ _ hv => ⟨get?_ofList_toFields_changed h excluded cs hv,
      scalar?_ofList_toFields_changed h excluded cs hv⟩⟩

/-- The fields of a rectangle with an array in the place of its width. -/
def boxFields : Fields :=
  [("height", .number (.integer 5)), ("width", .array [.null])]

/-- A rectangle with an array in the place of its width, which it widens from. -/
def wideningBox : Layer :=
  ⟨.rect, .ofFields boxFields [], [⟨"width", 0, 1000, 0, 8⟩]⟩

/-- A change of the height leaves all names distinct, and an animation of the width does not. -/
theorem written_names_distinct_iff_box :
    Fields.Distinct ((ofFields boxFields []).changed [.set .height (.number 7)]).toFields ∧
      (Fields.ofList ((ofFields boxFields []).changed [.set .height (.number 7)]).toFields).get?
        "height" = some (PropValue.number 7).toJson ∧
      ¬Fields.Distinct (wideningBox.propsAt 500).toFields := by
  have hdistinct : boxFields.Distinct := by simp [boxFields, Fields.Distinct]
  have hfinite : boxFields.HasFiniteNumbers := by
    intro name n hmem
    simp only [boxFields, List.mem_cons, Prod.mk.injEq, reduceCtorEq, and_false, or_false,
      List.not_mem_nil, Json.number.injEq] at hmem
    rw [hmem.2]
    decide
  have hbox := written_names_distinct_iff hdistinct hfinite []
  obtain ⟨hclashes, hnames, hread⟩ := hbox [.set .height (.number 7)]
  obtain ⟨hclashes', hnames', -⟩ := hbox (wideningBox.changesAt 500)
  -- Only the width has an array in its place, and only the animation gives it a value.
  have hnone : ∀ k, ¬((ofFields boxFields []).changed [.set .height (.number 7)]).Clashes k := by
    intro k hk
    obtain ⟨⟨value, hmem, hvalue⟩, hgiven | ⟨rfl, -⟩⟩ := (hclashes k).1 hk
    · obtain rfl : PropKey.height = k := by simpa [Change.gives] using hgiven
      have hget := (hdistinct.without []).get?_eq_some_iff.2 hmem
      cases hget
      exact hvalue
    · cases (hdistinct.without []).get?_eq_some_iff.2 hmem
  refine ⟨hnames.2 hnone, (hread .height _ rfl).1.2 (hnone _), ?_⟩
  have hprops : wideningBox.props = ofFields boxFields [] := rfl
  rw [Layer.propsAt_eq_changed, hprops, hnames']
  exact fun h => h .width ((hclashes' .width).2 ⟨⟨_, Fields.mem_of_get? rfl, trivial⟩, .inl rfl⟩)

/-- The fields of a text with its size under the other spelling, and an array under the first. -/
def twoSizes : Fields :=
  [("font-size", .number (.integer 12)), ("fontSize", .array [.number (.integer 1)])]

/-- Without any change, the size of the text is written under the same name as the array, and it is
the array that is read back. -/
theorem twoSizes_written_twice :
    twoSizes.Distinct ∧ (ofFields twoSizes []).get? .fontSize = some (.number 12) ∧
      ("fontSize", .array [.number (.integer 1)]) ∈ (ofFields twoSizes []).extra ∧
      ¬Fields.Distinct (ofFields twoSizes []).toFields ∧
      (Fields.ofList (ofFields twoSizes []).toFields).get? "fontSize" =
        some (.array [.number (.integer 1)]) := by
  have hclash : (ofFields twoSizes []).Clashes .fontSize := ⟨rfl, rfl⟩
  refine ⟨by simp [twoSizes, Fields.Distinct], rfl, Fields.mem_of_get? rfl, ?_, ?_⟩
  · rw [distinct_toFields_iff (sorted_extra_ofFields twoSizes [])]
    exact fun h => h _ hclash
  · exact get?_ofList_toFields (sorted_extra_ofFields twoSizes []) .fontSize

end Props

end SceneLoop
