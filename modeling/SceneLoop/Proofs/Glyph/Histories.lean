import Mathlib
import SceneLoop.Glyph.FontBook

/-!
# Histories of loads

A font book remembers under which name the first face was loaded, and not that face.  So a name
without a face of its own stands for whatever was loaded last under the first name.  That name never
loses its face, and therefore one successful load is enough for every name to have one.  A load that
fails leaves the book as it is.

## Main definitions

* `FontLoad` : an attempt to load a face under a name.
* `FontLoad.IsLast`, `FontLoad.IsFirst` : the face that was last loaded under a name, and the name
  that was loaded first.
* `FontBook.afterLoads` : the book that some attempts leave.

## Main results

* `FontBook.named?_foldl_attempt`, `FontBook.first_foldl_attempt` : the face that is stored under a
  name, and the name that is stored.
* `FontBook.face?_afterLoads` : the face for a name after any attempts.
-/

namespace SceneLoop

/-- An attempt to load a face under a name. -/
structure FontLoad where
  /-- The name. -/
  name : String
  /-- What was read, which may be no face. -/
  read : Option Face

namespace FontLoad

/-- The last face that was read under a name. -/
def IsLast (loads : List FontLoad) (name : String) (face : Face) : Prop :=
  ∃ before after, loads = before ++ ⟨name, some face⟩ :: after ∧
    ∀ l ∈ after, l.name = name → l.read = none

/-- The name under which the first face was read. -/
def IsFirst (loads : List FontLoad) (name : String) : Prop :=
  ∃ before face after, loads = before ++ ⟨name, some face⟩ :: after ∧
    ∀ l ∈ before, l.read = none

variable {loads : List FontLoad} {l : FontLoad} {name : String} {face : Face}

theorem not_isLast_nil : ¬IsLast [] name face := by
  simp [IsLast]

theorem not_isFirst_nil : ¬IsFirst [] name := by
  simp [IsFirst]

theorem isLast_cons : IsLast (l :: loads) name face ↔
    IsLast loads name face ∨
      l = ⟨name, some face⟩ ∧ ∀ l' ∈ loads, l'.name = name → l'.read = none := by
  constructor
  · rintro ⟨_ | ⟨_, before⟩, after, heq, hafter⟩ <;> cases heq
    · exact .inr ⟨rfl, hafter⟩
    · exact .inl ⟨before, after, rfl, hafter⟩
  · rintro (⟨before, after, rfl, hafter⟩ | ⟨rfl, hafter⟩)
    · exact ⟨l :: before, after, rfl, hafter⟩
    · exact ⟨[], loads, rfl, hafter⟩

theorem isFirst_cons : IsFirst (l :: loads) name ↔
    (∃ face, l = ⟨name, some face⟩) ∨ l.read = none ∧ IsFirst loads name := by
  constructor
  · rintro ⟨_ | ⟨_, before⟩, face, after, heq, hbefore⟩ <;> cases heq
    · exact .inl ⟨face, rfl⟩
    · rw [List.forall_mem_cons] at hbefore
      exact .inr ⟨hbefore.1, before, face, after, rfl, hbefore.2⟩
  · rintro (⟨face, rfl⟩ | ⟨hl, before, face, after, rfl, hbefore⟩)
    · exact ⟨[], face, loads, rfl, by simp⟩
    · exact ⟨l :: before, face, after, rfl, List.forall_mem_cons.2 ⟨hl, hbefore⟩⟩

/-- There is a last face under a name if any was read under it. -/
theorem exists_isLast_iff :
    (∃ face, IsLast loads name face) ↔ ∃ l ∈ loads, l.name = name ∧ l.read.isSome := by
  constructor
  · rintro ⟨face, before, after, rfl, -⟩
    exact ⟨⟨name, some face⟩, by simp, rfl, rfl⟩
  · intro h
    induction loads with
    | nil => simp at h
    | cons l loads ih =>
      by_cases hlater : ∃ l ∈ loads, l.name = name ∧ l.read.isSome
      · exact (ih hlater).imp fun _ hface => isLast_cons.2 (.inl hface)
      · simp only [not_exists, not_and, Option.not_isSome_iff_eq_none] at hlater
        obtain ⟨l', hl', rfl, hread⟩ := h
        obtain ⟨face, hface⟩ := Option.isSome_iff_exists.1 hread
        rcases List.mem_cons.1 hl' with rfl | hl'
        · exact ⟨face, isLast_cons.2 (.inr ⟨by rw [← hface], hlater⟩)⟩
        · simp [hlater l' hl' rfl] at hface

/-- There is a first name if any face was read. -/
theorem exists_isFirst_iff : (∃ name, IsFirst loads name) ↔ ∃ l ∈ loads, l.read.isSome := by
  induction loads with
  | nil => simp [not_isFirst_nil]
  | cons l loads ih =>
    simp only [isFirst_cons, exists_or, exists_and_left, ih]
    obtain ⟨name, _ | face⟩ := l <;> simp

/-- The first name has a face. -/
theorem IsFirst.exists_isLast (h : IsFirst loads name) : ∃ face, IsLast loads name face := by
  obtain ⟨before, face, after, rfl, -⟩ := h
  exact exists_isLast_iff.2 ⟨⟨name, some face⟩, by simp, rfl, rfl⟩

end FontLoad

namespace FontBook

open FontLoad

/-- The book after an attempt, which leaves it as it is if it fails. -/
def attempt (book : FontBook) (l : FontLoad) : FontBook :=
  match book.loadRead l.name l.read with
  | .ok loaded => loaded
  | .error _ => book

/-- The book that some attempts leave. -/
def afterLoads (loads : List FontLoad) : FontBook :=
  loads.foldl attempt empty

theorem attempt_of_none (book : FontBook) (name : String) : book.attempt ⟨name, none⟩ = book :=
  rfl

theorem attempt_of_some (book : FontBook) (name : String) (face : Face) :
    book.attempt ⟨name, some face⟩ = book.load name face :=
  rfl

variable {loads : List FontLoad} {name : String} {face : Face}

/-- Under a name stands the face that was last read under it, or else the one before. -/
theorem named?_foldl_attempt (book : FontBook) :
    (loads.foldl attempt book).named? name = some face ↔
      IsLast loads name face ∨
        (∀ l ∈ loads, l.name = name → l.read = none) ∧ book.named? name = some face := by
  induction loads generalizing book with
  | nil => simp [not_isLast_nil]
  | cons l loads ih =>
    obtain ⟨other, _ | face'⟩ := l
    · simp [ih, isLast_cons, attempt_of_none]
    · rw [List.foldl_cons, ih, isLast_cons, attempt_of_some, named?_load]
      by_cases hname : name = other
      · simp [hname, and_comm, eq_comm]
      · simp [hname, Ne.symm hname]

/-- The first name is the one that was there before, or else the first one that a face was read
under. -/
theorem first_foldl_attempt (book : FontBook) :
    (loads.foldl attempt book).first = some name ↔
      book.first = some name ∨ book.first = none ∧ IsFirst loads name := by
  induction loads generalizing book with
  | nil => simp [not_isFirst_nil]
  | cons l loads ih =>
    obtain ⟨other, _ | face⟩ := l
    · simp [ih, isFirst_cons, attempt_of_none]
    · rw [List.foldl_cons, ih, isFirst_cons, attempt_of_some, load]
      cases book.first <;> simp [eq_comm]

theorem named?_afterLoads :
    (afterLoads loads).named? name = some face ↔ IsLast loads name face := by
  have hempty : empty.named? name = none := rfl
  rw [afterLoads, named?_foldl_attempt, hempty]
  simp

theorem first_afterLoads : (afterLoads loads).first = some name ↔ IsFirst loads name := by
  have hempty : empty.first = none := rfl
  rw [afterLoads, first_foldl_attempt, hempty]
  simp

/-- **The face for a name after any attempts.** It is the face that was last read under that name,
or, if there is none, the face that was last read under the name of the first face that was read at
all.  There is a face for every name as soon as one was read, and none before.  An attempt that
fails leaves no trace. -/
theorem face?_afterLoads (loads : List FontLoad) (family : String) :
    (∀ face, (afterLoads loads).face? family = some face ↔
      IsLast loads family face ∨ (∀ other, ¬IsLast loads family other) ∧
        ∃ name, IsFirst loads name ∧ IsLast loads name face) ∧
    (((afterLoads loads).face? family).isSome ↔ ∃ l ∈ loads, l.read.isSome) ∧
    ∀ name later, afterLoads (loads ++ ⟨name, none⟩ :: later) = afterLoads (loads ++ later) := by
  have hface (face : Face) : (afterLoads loads).face? family = some face ↔
      IsLast loads family face ∨ (∀ other, ¬IsLast loads family other) ∧
        ∃ name, IsFirst loads name ∧ IsLast loads name face := by
    simp only [face?, Option.or_eq_some_iff, Option.bind_eq_some_iff,
      Option.eq_none_iff_forall_ne_some, ne_eq, named?_afterLoads, first_afterLoads]
  refine ⟨hface, ?_, fun name later => ?_⟩
  · rw [Option.isSome_iff_exists, ← exists_isFirst_iff]
    constructor
    · rintro ⟨face, h⟩
      rcases (hface face).1 h with hlast | ⟨-, name, hfirst, -⟩
      · obtain ⟨l, hl, -, hread⟩ := exists_isLast_iff.1 ⟨face, hlast⟩
        exact exists_isFirst_iff.2 ⟨l, hl, hread⟩
      · exact ⟨name, hfirst⟩
    · rintro ⟨name, hfirst⟩
      by_cases hown : ∃ face, IsLast loads family face
      · exact hown.imp fun face hlast => (hface face).2 (.inl hlast)
      · obtain ⟨face, hlast⟩ := hfirst.exists_isLast
        exact ⟨face, (hface face).2 (.inr ⟨not_exists.1 hown, name, hfirst, hlast⟩)⟩
  · simp only [afterLoads, List.foldl_append, List.foldl_cons, attempt_of_none]

end FontBook

end SceneLoop
