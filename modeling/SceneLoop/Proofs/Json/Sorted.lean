import SceneLoop.Json.Value

/-!
# Sorted objects

The fields of an object that was read are sorted by name, in the object itself and in all objects
inside it.  Sorting such a value changes nothing, and its fields are determined by what they read.

## Main definitions

* `Fields.Distinct` : no two fields have the same name.
* `Json.IsSorted` : the fields of every object in a value are sorted.

## Main results

* `Fields.get?_ofList` : sorting fields with distinct names changes nothing that is read.
* `Fields.Sorted.ext` : sorted fields are equal if they read the same.
* `Json.sorted_eq_self` : sorting a sorted value changes nothing.
-/

namespace SceneLoop

namespace Fields

/-- No two fields have the same name. -/
def Distinct (fields : Fields) : Prop :=
  fields.Pairwise fun a b => a.1 ≠ b.1

theorem Sorted.distinct {fields : Fields} (h : fields.Sorted) : fields.Distinct := by
  refine List.Pairwise.imp ?_ h
  intro a b hlt heq
  rw [heq] at hlt
  exact String.lt_irrefl _ hlt

theorem Distinct.nodup {fields : Fields} (h : fields.Distinct) : List.Nodup fields :=
  List.Pairwise.imp (fun hne heq => hne (congrArg Prod.fst heq)) h

/-! ### What fields read -/

@[simp]
theorem get?_nil (name : String) : Fields.get? name [] = none :=
  rfl

theorem get?_cons (name : String) (f : String × Json) (fields : Fields) :
    Fields.get? name (f :: fields) = if f.1 = name then some f.2 else fields.get? name :=
  rfl

theorem mem_of_get? {name : String} {value : Json} {fields : Fields}
    (h : fields.get? name = some value) : (name, value) ∈ fields := by
  induction fields with
  | nil => cases h
  | cons f rest ih =>
    rw [get?_cons] at h
    split at h
    · next heq =>
      cases h
      exact heq ▸ List.mem_cons_self
    · exact List.mem_cons_of_mem _ (ih h)

theorem get?_eq_none_iff {name : String} {fields : Fields} :
    fields.get? name = none ↔ ∀ f ∈ fields, f.1 ≠ name := by
  induction fields with
  | nil => simp
  | cons f rest ih =>
    rw [get?_cons, List.forall_mem_cons, ← ih]
    split <;> simp_all

theorem Distinct.get?_eq_some_iff {fields : Fields} (h : fields.Distinct) {name : String}
    {value : Json} : fields.get? name = some value ↔ (name, value) ∈ fields := by
  refine ⟨mem_of_get?, fun hmem => ?_⟩
  induction fields with
  | nil => cases hmem
  | cons f rest ih =>
    obtain ⟨hne, hrest⟩ := List.pairwise_cons.1 h
    rw [get?_cons]
    rcases List.mem_cons.1 hmem with rfl | hmem
    · rw [if_pos rfl]
    · rw [if_neg (hne _ hmem), ih hrest hmem]

theorem get?_append (name : String) (fields others : Fields) :
    Fields.get? name (fields ++ others) = (fields.get? name).or (others.get? name) := by
  induction fields with
  | nil => rfl
  | cons f rest ih =>
    rw [List.cons_append, get?_cons, get?_cons, ih]
    split <;> rfl

/-- Collecting fields after other ones: what is read is the last of equal names. -/
theorem get?_foldl_insert (name : String) (fields acc : Fields) :
    Fields.get? name (fields.foldl (fun acc f => Fields.insert f.1 f.2 acc) acc) =
      (Fields.get? name fields.reverse).or (acc.get? name) := by
  induction fields generalizing acc with
  | nil => rfl
  | cons f rest ih =>
    rw [List.foldl_cons, ih, get?_insert, List.reverse_cons, get?_append, get?_cons, get?_nil,
      Option.or_assoc]
    split <;> simp

theorem Distinct.reverse {fields : Fields} (h : fields.Distinct) :
    Distinct (List.reverse fields) :=
  List.pairwise_reverse.2 (List.Pairwise.imp Ne.symm h)

/-- Sorting fields with distinct names changes nothing that is read. -/
theorem get?_ofList {fields : Fields} (h : fields.Distinct) (name : String) :
    (ofList fields).get? name = fields.get? name := by
  rw [ofList, get?_foldl_insert, get?_nil, Option.or_none]
  refine Option.ext fun value => ?_
  rw [h.reverse.get?_eq_some_iff, h.get?_eq_some_iff, List.mem_reverse]

/-- Sorted fields are equal if they read the same. -/
theorem Sorted.ext {fields others : Fields} (h : fields.Sorted) (h' : others.Sorted)
    (hget : ∀ name, fields.get? name = others.get? name) : fields = others := by
  have hperm : List.Perm fields others := by
    refine (List.perm_ext_iff_of_nodup h.distinct.nodup h'.distinct.nodup).2 fun f => ?_
    rw [← h.distinct.get?_eq_some_iff, ← h'.distinct.get?_eq_some_iff, hget]
  refine List.Perm.eq_of_pairwise (fun a b _ _ hab hba => ?_) h h' hperm
  exact absurd (String.lt_trans hab hba) (String.lt_irrefl _)

/-- Sorting sorted fields changes nothing. -/
theorem ofList_eq_self {fields : Fields} (h : fields.Sorted) : ofList fields = fields :=
  (sorted_ofList fields).ext h (get?_ofList h.distinct)

end Fields

namespace Json

mutual

/-- The fields of every object in a value are sorted by name. -/
def IsSorted : Json → Prop
  | .array items => AreSortedItems items
  | .object fields => Fields.Sorted fields ∧ AreSortedFields fields
  | _ => True

/-- The fields of every object in some items are sorted. -/
def AreSortedItems : List Json → Prop
  | [] => True
  | v :: rest => v.IsSorted ∧ AreSortedItems rest

/-- The fields of every object in the values of some fields are sorted. -/
def AreSortedFields : List (String × Json) → Prop
  | [] => True
  | (_, v) :: rest => v.IsSorted ∧ AreSortedFields rest

end

theorem areSortedItems_iff {items : List Json} :
    AreSortedItems items ↔ ∀ v ∈ items, v.IsSorted := by
  induction items with
  | nil => simp [AreSortedItems]
  | cons v rest ih => rw [AreSortedItems, ih, List.forall_mem_cons]

theorem areSortedFields_iff {fields : Fields} :
    AreSortedFields fields ↔ ∀ f ∈ fields, f.2.IsSorted := by
  induction fields with
  | nil => simp [AreSortedFields]
  | cons f rest ih => rw [AreSortedFields, ih, List.forall_mem_cons]

theorem isSorted_array {items : List Json} :
    (Json.array items).IsSorted ↔ ∀ v ∈ items, v.IsSorted := by
  rw [IsSorted, areSortedItems_iff]

theorem isSorted_object {fields : Fields} :
    (Json.object fields).IsSorted ↔ fields.Sorted ∧ ∀ f ∈ fields, f.2.IsSorted := by
  rw [IsSorted, areSortedFields_iff]

theorem IsSorted.of_get? {fields : Fields} (h : (Json.object fields).IsSorted) {name : String}
    {v : Json} (hv : fields.get? name = some v) : v.IsSorted :=
  (isSorted_object.1 h).2 _ (Fields.mem_of_get? hv)

mutual

/-- Sorting a sorted value changes nothing. -/
theorem sorted_eq_self : (v : Json) → v.IsSorted → v.sorted = v
  | .array items, h => by rw [sorted, sortedItems_eq_self items h]
  | .object fields, h => by
    rw [sorted, sortedFields_eq_self fields h.2, Fields.ofList_eq_self h.1]
  | .null, _ | .bool _, _ | .number _, _ | .text _, _ => by rw [sorted] <;> simp

theorem sortedItems_eq_self : (items : List Json) → AreSortedItems items →
    sortedItems items = items
  | [], _ => rfl
  | v :: rest, h => by rw [sortedItems, sorted_eq_self v h.1, sortedItems_eq_self rest h.2]

theorem sortedFields_eq_self : (fields : List (String × Json)) → AreSortedFields fields →
    sortedFields fields = fields
  | [], _ => rfl
  | (k, v) :: rest, h => by
    rw [sortedFields, sorted_eq_self v h.1, sortedFields_eq_self rest h.2]

end

/-! ### Sorting item by item and field by field -/

theorem sortedItems_eq_map (items : List Json) : sortedItems items = items.map sorted := by
  induction items with
  | nil => rfl
  | cons v rest ih => rw [sortedItems, ih, List.map_cons]

end Json

end SceneLoop
