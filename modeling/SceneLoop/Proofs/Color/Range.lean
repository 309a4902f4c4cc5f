import Mathlib
import SceneLoop.Proofs.Color.HexNotation
import SceneLoop.Proofs.Number.Single

/-!
# The range of the components

The components of a color that was read are in `[0, 1]`, in whichever form it is written: the
notations in 255ths cannot leave that range, and arguments are moved into it.  The one exception is
an argument that says that it is not a number, which is read as well and stays what it is.

## Main definitions

* `Color.InRange` : every component is a number in `[0, 1]`.
* `Color.IsUndefined` : an argument that says that it is not a number.
* `Color.IsFunction` : a text in one of the forms `rgb(…)` and `rgba(…)`.

## Main results

* `Color.ofCss_cases` : the forms of a color, with arguments and without.
* `Color.ofCss_inRange_iff` : which of the colors that were read are in range.
-/

namespace SceneLoop

namespace Color

/-- A number in `[0, 1]`. -/
def InUnit (v : Float32) : Prop :=
  0 ≤ v ∧ v ≤ 1

instance (v : Float32) : Decidable (InUnit v) :=
  inferInstanceAs (Decidable (_ ∧ _))

/-- All components. -/
def components (c : Color) : List Float32 :=
  [c.r, c.g, c.b, c.a]

/-- Every component is a number in `[0, 1]`. -/
def InRange (c : Color) : Prop :=
  ∀ v ∈ c.components, InUnit v

instance (c : Color) : Decidable c.InRange :=
  inferInstanceAs (Decidable (∀ v ∈ c.components, InUnit v))

/-- An argument that says that it is not a number, in any letter case and with or without a
sign. -/
def IsUndefined (cs : List Char) : Prop :=
  (Numeral.splitSign (Text.trimChars cs)).2.map Char.toLower = "nan".toList

instance (cs : List Char) : Decidable (IsUndefined cs) :=
  inferInstanceAs (Decidable (_ = _))

/-- A text in one of the forms `rgb(…)` and `rgba(…)`, and what is between its parentheses. -/
def IsFunction (cs args : List Char) : Prop :=
  ∃ name ∈ ["rgb(", "rgba("], cs = name.toList ++ args ++ [')']

/-! ### Components in 255ths -/

theorem inUnit_ofByte (v : UInt8) : InUnit (ofByte v) := by
  have hall : ∀ n < 256, InUnit (ofByte (UInt8.ofNat n)) := by decide +kernel
  rw [← UInt8.ofNat_toNat (x := v)]
  exact hall v.toNat v.toNat_lt

theorem inRange_ofByteList? {bs : List UInt8} {c : Color} (h : ofByteList? bs = some c) :
    c.InRange := by
  unfold ofByteList? at h
  split at h <;> cases h <;> simp [InRange, components, inUnit_ofByte]

theorem inRange_ofHex {s : String} {c : Color} (h : ofHex s = .ok c) : c.InRange := by
  obtain ⟨_, _, -, _, -, -, hc⟩ := ofHex_eq_ok_iff.1 h
  exact inRange_ofByteList? hc

theorem inRange_ofName? {name : String} {c : Color} (h : ofName? name = some c) : c.InRange := by
  obtain ⟨n, -, rfl⟩ := Option.map_eq_some_iff.1 h
  have hone : InUnit 1 := by decide
  simp [InRange, components, ofBytes, inUnit_ofByte, hone]

/-! ### Arguments -/

/-- What becomes of an argument: it is in range, unless it says that it is not a number. -/
structure IsComponentOf (cs : List Char) (v : Float32) : Prop where
  isNaN : IsUndefined cs → v.isNaN
  inUnit : ¬IsUndefined cs → InUnit v

theorem InUnit.isNaN_eq_false {v : Float32} (h : InUnit v) : v.isNaN = false :=
  (Binary32.isNaN_of_le h.1).2

theorem IsComponentOf.inUnit_iff {cs : List Char} {v : Float32} (h : IsComponentOf cs v) :
    InUnit v ↔ ¬IsUndefined cs :=
  ⟨fun hv hcs => Bool.eq_false_iff.1 hv.isNaN_eq_false (h.isNaN hcs), h.inUnit⟩

/-- A number that an argument denotes. -/
theorem isNaN_of_argument? {cs : List Char} {v : Float32} (h : argument? cs = some v) :
    v.isNaN ↔ IsUndefined cs := by
  obtain ⟨n, hn, rfl⟩ := Option.map_eq_some_iff.1 h
  rw [Numeral.isNaN_toSingle, IsUndefined, ← Numeral.ofChars?_eq_undefined_iff, hn, Option.some_inj]

theorem isComponentOf_clamp {cs : List Char} {v : Float32} (h : v.isNaN ↔ IsUndefined cs) :
    IsComponentOf cs (Binary32.clamp v 0 1) where
  isNaN hcs := by rwa [Binary32.clamp_of_isNaN (h.2 hcs), h]
  inUnit hcs := Binary32.clamp_mem (Bool.eq_false_iff.2 fun hv => hcs (h.1 hv)) (by decide)

theorem isComponentOf_opacity? {cs : List Char} {v : Float32} (h : opacity? cs = some v) :
    IsComponentOf cs v := by
  obtain ⟨w, hw, rfl⟩ := Option.map_eq_some_iff.1 h
  exact isComponentOf_clamp (isNaN_of_argument? hw)

theorem isComponentOf_channel? {cs : List Char} {v : Float32} (h : channel? cs = some v) :
    IsComponentOf cs v := by
  obtain ⟨w, hw, rfl⟩ := Option.map_eq_some_iff.1 h
  refine isComponentOf_clamp ?_
  rw [Binary32.isNaN_div ⟨_, _, _, _, rfl⟩]
  exact isNaN_of_argument? hw

/-- Arguments and what becomes of them. -/
theorem inUnit_of_forall₂ {parts : List (List Char)} {vs : List Float32}
    (h : List.Forall₂ IsComponentOf parts vs) :
    (∀ v ∈ vs, v.isNaN ∨ InUnit v) ∧
      ((∀ v ∈ vs, InUnit v) ↔ ∀ part ∈ parts, ¬IsUndefined part) := by
  induction h with
  | nil => simp
  | @cons part v _ _ hv _ ih =>
    have hcases : v.isNaN ∨ InUnit v := (em (IsUndefined part)).imp hv.isNaN hv.inUnit
    simp only [List.forall_mem_cons]
    exact ⟨⟨hcases, ih.1⟩, and_congr hv.inUnit_iff ih.2⟩

/-- The components of a color are those of its arguments and, if it is left out, full opacity. -/
theorem forall₂_of_ofArguments? {parts : List (List Char)} {c : Color}
    (h : ofArguments? parts = some c) :
    List.Forall₂ IsComponentOf parts [c.r, c.g, c.b] ∧ c.a = 1 ∨
      List.Forall₂ IsComponentOf parts c.components := by
  unfold ofArguments? at h
  split at h
  · split at h
    · next hr hg hb =>
      cases h
      refine .inl ⟨?_, rfl⟩
      exact .cons (isComponentOf_channel? hr) (.cons (isComponentOf_channel? hg)
        (.cons (isComponentOf_channel? hb) .nil))
    · cases h
  · split at h
    · next hr hg hb ha =>
      cases h
      refine .inr ?_
      exact .cons (isComponentOf_channel? hr) (.cons (isComponentOf_channel? hg)
        (.cons (isComponentOf_channel? hb) (.cons (isComponentOf_opacity? ha) .nil)))
    · cases h
  · cases h

theorem ofArguments?_inRange {parts : List (List Char)} {c : Color}
    (h : ofArguments? parts = some c) :
    (∀ v ∈ c.components, v.isNaN ∨ InUnit v) ∧
      (c.InRange ↔ ∀ part ∈ parts, ¬IsUndefined part) := by
  rcases forall₂_of_ofArguments? h with ⟨hparts, hopacity⟩ | hparts
  · have hone : InUnit 1 := by decide
    have hsplit : c.components = [c.r, c.g, c.b] ++ [1] := by rw [components, hopacity]; rfl
    obtain ⟨hcases, hrange⟩ := inUnit_of_forall₂ hparts
    rw [InRange, hsplit]
    simp only [List.forall_mem_append, List.forall_mem_singleton]
    exact ⟨⟨hcases, .inr hone⟩, (and_iff_left hone).trans hrange⟩
  · exact inUnit_of_forall₂ hparts

/-! ### All forms -/

theorem IsFunction.head? {cs args : List Char} (h : IsFunction cs args) : cs.head? = some 'r' := by
  obtain ⟨name, hname, rfl⟩ := h
  simp only [List.mem_cons, List.not_mem_nil, or_false] at hname
  rcases hname with rfl | rfl <;> rfl

/-- What follows the name is read up to a closing parenthesis at its end. -/
theorem arguments?_append {name : String} (h : name ∈ ["rgb(", "rgba("])
    (rest args : List Char) :
    arguments? (name.toList ++ rest) = some args ↔ rest = args ++ [')'] := by
  simp only [List.mem_cons, List.not_mem_nil, or_false] at h
  rcases List.eq_nil_or_concat rest with rfl | ⟨init, last, rfl⟩
  · rcases h with rfl | rfl <;> simp [arguments?, Text.stripStart?]
  · by_cases hlast : last = ')'
    · rcases h with rfl | rfl <;> simp [arguments?, Text.stripStart?, hlast]
    · rcases h with rfl | rfl <;> simp [arguments?, Text.stripStart?, hlast]

/-- Only what follows one of the two names is read. -/
theorem exists_name_of_arguments? {cs args : List Char} (h : arguments? cs = some args) :
    ∃ name ∈ ["rgb(", "rgba("], ∃ rest, cs = name.toList ++ rest := by
  obtain ⟨rest, hrest, -⟩ := Option.bind_eq_some_iff.1 h
  split at hrest
  · next hstrip => exact ⟨_, by simp, _, Text.stripStart?_eq_some_iff.1 hstrip⟩
  · exact ⟨_, by simp, _, Text.stripStart?_eq_some_iff.1 hrest⟩

theorem arguments?_eq_some_iff {cs args : List Char} :
    arguments? cs = some args ↔ IsFunction cs args := by
  constructor
  · intro h
    obtain ⟨name, hname, rest, rfl⟩ := exists_name_of_arguments? h
    rw [arguments?_append hname] at h
    exact ⟨name, hname, by rw [h, List.append_assoc]⟩
  · rintro ⟨name, hname, rfl⟩
    rw [List.append_assoc, arguments?_append hname]

theorem IsFunction.unique {cs args args' : List Char} (h : IsFunction cs args)
    (h' : IsFunction cs args') : args = args' := by
  rw [← arguments?_eq_some_iff] at h h'
  exact Option.some_inj.1 (h.symm.trans h')

/-- A color that was read is in one of the forms `rgb(…)` and `rgba(…)`, or it is in none of them
and its components are in range. -/
theorem ofCss_cases {s : String} {c : Color} (h : ofCss s = .ok c) :
    (∃ args, IsFunction ((Text.trimChars s.toList).map Char.toLower) args ∧
      ofArguments? (commaParts args) = some c) ∨
      (∀ args, ¬IsFunction ((Text.trimChars s.toList).map Char.toLower) args) ∧ c.InRange := by
  generalize hsmall : (Text.trimChars s.toList).map Char.toLower = small
  simp only [ofCss, hsmall] at h
  split at h
  · next hsign =>
    refine .inr ⟨fun args hargs => ?_, inRange_ofHex h⟩
    have hhead := hargs.head?
    rw [← hsmall, List.head?_map, hsign] at hhead
    cases hhead
  split at h
  · next htransparent =>
    cases h
    refine .inr ⟨fun args hargs => ?_, by decide⟩
    rw [htransparent] at hargs
    cases hargs.head?
  split at h
  · next args hargs =>
    split at h
    · next hc =>
      cases h
      exact .inl ⟨args, arguments?_eq_some_iff.1 hargs, hc⟩
    · cases h
  · next hargs =>
    split at h
    · next hc =>
      cases h
      refine .inr ⟨fun args hfunction => ?_, inRange_ofName? hc⟩
      rw [arguments?_eq_some_iff.2 hfunction] at hargs
      cases hargs
    · cases h

/-- **Components are in range unless an argument says that it is not a number.** Every component of
a color that was read is in `[0, 1]` or not a number.  All of them are in `[0, 1]`, unless the color
is written in one of the forms `rgb(…)` and `rgba(…)` and one of the arguments says that it is not a
number. -/
theorem ofCss_inRange_iff {s : String} {c : Color} (h : ofCss s = .ok c) :
    (∀ v ∈ c.components, v.isNaN ∨ InUnit v) ∧
      (c.InRange ↔ ∀ args, IsFunction ((Text.trimChars s.toList).map Char.toLower) args →
        ∀ part ∈ commaParts args, ¬IsUndefined part) := by
  rcases ofCss_cases h with ⟨args, hargs, hc⟩ | ⟨hargs, hc⟩
  · obtain ⟨hcases, hrange⟩ := ofArguments?_inRange hc
    refine ⟨hcases, hrange.trans ⟨fun hparts args' hargs' => ?_, fun hparts => hparts args hargs⟩⟩
    rwa [← hargs.unique hargs']
  · refine ⟨fun v hv => .inr (hc v hv), iff_of_true hc fun args hfunction => ?_⟩
    exact absurd hfunction (hargs args)

/-- Arguments outside the range are moved into it. -/
theorem ofCss_outside : ofCss "rgb(300,0,-1)" = .ok ⟨1, 0, 0, 1⟩ ∧
    ∀ args, IsFunction ((Text.trimChars "rgb(300,0,-1)".toList).map Char.toLower) args →
      ∀ part ∈ commaParts args, ¬IsUndefined part :=
  have hread : ofCss "rgb(300,0,-1)" = .ok ⟨1, 0, 0, 1⟩ := by decide +kernel
  ⟨hread, (ofCss_inRange_iff hread).2.1 (by decide)⟩

/-- A component that is not a number is read as such. -/
theorem ofCss_undefined : ofCss "rgb(nan,0,0)" = .ok ⟨Float32.nan, 0, 0, 1⟩ ∧
    ¬InRange ⟨Float32.nan, 0, 0, 1⟩ :=
  ⟨by decide +kernel, by decide⟩

end Color

end SceneLoop
