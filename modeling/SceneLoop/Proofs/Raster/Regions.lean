import SceneLoop.Raster.Coverage
import SceneLoop.Proofs.Number.Undefined

/-!
# What a painted set of points depends on

A frame over which a set of points is painted depends on which sample points belong to the set, and
not on how its rows are found.  Of the edges of an outline or a line, a level one takes no part in
how often the outline winds around a point, and one with a coordinate that is not a number takes no
part in anything.

## Main definitions

* `Edge.IsUndefined` : an edge with a coordinate that is not a number.

## Main results

* `Frame.cover_congr` : sets of the same points paint the same.
* `Edge.turning_eq_zero_of_level`, `Edge.turning_eq_zero_of_isUndefined`,
  `Edge.not_distance_le_of_isUndefined` : edges that take no part.
-/

namespace SceneLoop

/-! ### Edges that take no part -/

namespace Edge

/-- An edge with a coordinate that is not a number. -/
def IsUndefined (e : Edge) : Prop :=
  e.x₀.isNaN ∨ e.y₀.isNaN ∨ e.x₁.isNaN ∨ e.y₁.isNaN

variable {e : Edge}

/-- A level edge does not cross any height. -/
theorem turning_eq_zero_of_level (h : e.y₀ = e.y₁) (x y : Float) : e.turning x y = 0 := by
  refine turning_eq_zero ?_ x
  rw [crosses, Bool.or_eq_false_iff, descends, ascends, h]
  constructor
  · have hexclusive : e.y₁ ≤ y → ¬y < e.y₁ := Binary64.not_lt_of_le
    simpa using hexclusive
  · simp

theorem isNaN_side_of_isUndefined (h : e.IsUndefined) (x y : Float) : (e.side x y).isNaN := by
  refine Binary64.isNaN_sub_of_isNaN ?_
  rcases h with h | h | h | h
  · exact .inl (Binary64.isNaN_mul_of_isNaN (.inl (Binary64.isNaN_sub_of_isNaN (.inr h))))
  · exact .inl (Binary64.isNaN_mul_of_isNaN (.inr (Binary64.isNaN_sub_of_isNaN (.inr h))))
  · exact .inl (Binary64.isNaN_mul_of_isNaN (.inl (Binary64.isNaN_sub_of_isNaN (.inl h))))
  · exact .inr (Binary64.isNaN_mul_of_isNaN (.inr (Binary64.isNaN_sub_of_isNaN (.inl h))))

theorem turning_eq_zero_of_isUndefined (h : e.IsUndefined) (x y : Float) :
    e.turning x y = 0 := by
  have hside := isNaN_side_of_isUndefined h x y
  have hpositive : ¬0 < e.side x y := Binary64.not_lt_of_isNaN (.inr hside)
  have hnegative : ¬e.side x y < 0 := Binary64.not_lt_of_isNaN (.inl hside)
  simp [turning, hpositive, hnegative]

theorem isNaN_distance_of_isUndefined (h : e.IsUndefined) (x y : Float) :
    (e.distance x y).isNaN := by
  have hoffset (z t : Float) {a b : Float} (h : a.isNaN ∨ b.isNaN) :
      (z - (a + t * (b - a))).isNaN := by
    have hchange : (t * (b - a)).isNaN :=
      Binary64.isNaN_mul_of_isNaN (.inr (Binary64.isNaN_sub_of_isNaN h.symm))
    exact Binary64.isNaN_sub_of_isNaN (.inr (Binary64.isNaN_add_of_isNaN (.inr hchange)))
  have hlength {a b : Float} (h : a.isNaN ∨ b.isNaN) : (a * a + b * b).sqrt.isNaN :=
    Binary64.isNaN_sqrt_of_isNaN (Binary64.isNaN_add_of_isNaN (h.imp
      (fun h => Binary64.isNaN_mul_of_isNaN (.inl h))
      fun h => Binary64.isNaN_mul_of_isNaN (.inl h)))
  rcases h with h | h | h | h
  · exact hlength (.inl (hoffset _ _ (.inl h)))
  · exact hlength (.inr (hoffset _ _ (.inl h)))
  · exact hlength (.inl (hoffset _ _ (.inr h)))
  · exact hlength (.inr (hoffset _ _ (.inr h)))

/-- No point is within any distance of an edge with a coordinate that is not a number. -/
theorem not_distance_le_of_isUndefined (h : e.IsUndefined) (x y half : Float) :
    ¬e.distance x y ≤ half :=
  Binary64.not_le_of_isNaN (.inl (isNaN_distance_of_isUndefined h x y))

end Edge

/-! ### Sets of the same points -/

namespace Coverage

variable {ρ σ : Type} {holds : ρ → Float → Bool} {holds' : σ → Float → Bool}

theorem hits_rows (r : Region ρ) (x y : Nat) :
    hits r.holds (rows r.row y) x = samples.foldl (fun n d =>
      n + samples.countP fun d' => r.contains (Float.ofNat x + d') (Float.ofNat y + d)) 0 := by
  rw [hits, rows, List.foldl_map]
  rfl

theorem paintRow_congr {rows : List ρ} {rows' : List σ}
    (h : ∀ x, hits holds rows x = hits holds' rows' x) (c : Color) (y n x : Nat) (f : Frame) :
    paintRow holds c rows y n x f = paintRow holds' c rows' y n x f := by
  induction n generalizing x f with
  | zero => rfl
  | succ n ih => rw [paintRow, paintRow, h, ih]

theorem paintRows_congr {r : Region ρ} {r' : Region σ}
    (h : ∀ x y, r.contains x y = r'.contains x y) (c : Color) (width x n y : Nat) (f : Frame) :
    paintRows r.row r.holds c width x n y f = paintRows r'.row r'.holds c width x n y f := by
  induction n generalizing y f with
  | zero => rfl
  | succ n ih =>
    have hhits (x : Nat) : hits r.holds (rows r.row y) x = hits r'.holds (rows r'.row y) x := by
      simp only [hits_rows, h]
    rw [paintRows, paintRows, paintRow_congr hhits, ih]

theorem paintRow_eq_self {rows : List ρ} (h : ∀ x, hits holds rows x = 0) (c : Color)
    (y n x : Nat) (f : Frame) : paintRow holds c rows y n x f = f := by
  induction n generalizing x f with
  | zero => rfl
  | succ n ih => rw [paintRow, h, ih]; rfl

theorem paintRows_eq_self {r : Region ρ} (h : ∀ x y, r.contains x y = false) (c : Color)
    (width x n y : Nat) (f : Frame) : paintRows r.row r.holds c width x n y f = f := by
  induction n generalizing y f with
  | zero => rfl
  | succ n ih =>
    have hhits (x : Nat) : hits r.holds (rows r.row y) x = 0 := by
      simp only [hits_rows, h]
      rfl
    rw [paintRows, paintRow_eq_self hhits, ih]

end Coverage

namespace Frame

variable {ρ σ : Type} (f : Frame) (b : Bounds) (c : Color)

/-- Sets of the same points paint the same. -/
theorem cover_congr {r : Region ρ} {r' : Region σ}
    (h : ∀ x y, r.contains x y = r'.contains x y) : f.cover b c r = f.cover b c r' := by
  rw [cover, cover]
  split
  · exact Coverage.paintRows_congr h c _ _ _ _ f
  · rfl

/-- A set without points paints nothing. -/
theorem cover_eq_self {r : Region ρ} (h : ∀ x y, r.contains x y = false) :
    f.cover b c r = f := by
  rw [cover]
  split
  · exact Coverage.paintRows_eq_self h c _ _ _ _ f
  · rfl

/-- An extent that is not finite leaves the frame as it is. -/
theorem cover_of_not_isFinite {b : Bounds} (h : ¬b.isFinite) (r : Region ρ) :
    f.cover b c r = f :=
  if_neg h

end Frame

/-! ### Insides and ribbons -/

namespace Path

theorem winding_append (edges edges' : List Edge) (x y : Float) :
    winding (edges ++ edges') x y = winding edges x y + winding edges' x y := by
  induction edges with
  | nil => exact (Int.zero_add _).symm
  | cons e rest ih =>
    simp only [winding, List.cons_append, List.foldr_cons] at ih ⊢
    rw [ih, Int.add_assoc]

theorem winding_cons (e : Edge) (edges : List Edge) (x y : Float) :
    winding (e :: edges) x y = e.turning x y + winding edges x y :=
  rfl

theorem winding_singleton (e : Edge) (x y : Float) : winding [e] x y = e.turning x y :=
  Int.add_zero _

theorem ribbon_contains (edges : List Edge) (half x y : Float) :
    (ribbon edges half).contains x y = edges.any fun e => e.distance x y ≤ half :=
  rfl

/-- An edge with a coordinate that is not a number may be left out of an outline. -/
theorem winding_cons_of_isUndefined {e : Edge} (h : e.IsUndefined) (edges : List Edge)
    (x y : Float) : winding (e :: edges) x y = winding edges x y := by
  rw [winding_cons, Edge.turning_eq_zero_of_isUndefined h, Int.zero_add]

theorem ribbon_contains_cons (e : Edge) (edges : List Edge) (half x y : Float) :
    (ribbon (e :: edges) half).contains x y =
      ((ribbon [e] half).contains x y || (ribbon edges half).contains x y) := by
  simp only [ribbon_contains, List.any_cons, List.any_nil, Bool.or_false]

/-- An edge with a coordinate that is not a number may be left out of a line. -/
theorem ribbon_contains_cons_of_isUndefined {e : Edge} (h : e.IsUndefined) (edges : List Edge)
    (half x y : Float) :
    (ribbon (e :: edges) half).contains x y = (ribbon edges half).contains x y := by
  have hdistance := Edge.not_distance_le_of_isUndefined h x y half
  simp only [ribbon_contains, List.any_cons, hdistance, decide_false, Bool.false_or]

/-- Paint what some edges wind around, within the extent of some corners. -/
def fillWithin (corners : List Point) (outline : List Edge) (c : Color) (f : Frame) : Frame :=
  match Bounds.ofPoints? corners with
  | some b => f.cover b c (interior outline)
  | none => f

theorem fillOn_singleton (s : Subpath) (c : Color) (f : Frame) :
    fillOn #[s] c f = fillWithin s.toList s.outline c f := by
  have hcorners : corners #[s] = s.toList := List.flatMap_singleton ..
  have houtline : outline #[s] = s.outline := List.flatMap_singleton ..
  change fillWithin (corners #[s]) (outline #[s]) c f = fillWithin s.toList s.outline c f
  rw [hcorners, houtline]

variable {corners corners' : List Point} {edges edges' : List Edge} {half : Float}

/-- Edges that wind around every point as often as others do paint the same. -/
theorem fillWithin_congr (hcorners : Bounds.ofPoints? corners = Bounds.ofPoints? corners')
    (hedges : ∀ x y, winding edges x y = winding edges' x y) (c : Color) (f : Frame) :
    fillWithin corners edges c f = fillWithin corners' edges' c f := by
  have hregion (b : Bounds) : f.cover b c (interior edges) = f.cover b c (interior edges') :=
    f.cover_congr b c fun x y => by rw [interior_contains, interior_contains, hedges]
  simp only [fillWithin, hcorners, hregion]

/-- Edges that do not wind around any point paint nothing. -/
theorem fillWithin_eq_self (c : Color) (f : Frame)
    (h : ∀ b, Bounds.ofPoints? corners = some b → b.isFinite → ∀ x y, winding edges x y = 0) :
    fillWithin corners edges c f = f := by
  rw [fillWithin]
  split
  · next b hb =>
    by_cases hfinite : b.isFinite
    · refine f.cover_eq_self b c fun x y => ?_
      rw [interior_contains, h b hb hfinite]
      rfl
    · exact f.cover_of_not_isFinite c hfinite _
  · rfl

/-- Edges that are not within the distance of any point paint nothing. -/
theorem strokeOn_eq_self (c : Color) (f : Frame)
    (h : ∀ b, Bounds.ofPoints? corners = some b → (b.grow half).isFinite →
      ∀ x y, (ribbon edges half).contains x y = false) :
    strokeOn corners edges half c f = f := by
  rw [strokeOn]
  split
  · next b hb =>
    by_cases hfinite : (b.grow half).isFinite
    · exact f.cover_eq_self _ c (h b hb hfinite)
    · exact f.cover_of_not_isFinite c hfinite _
  · rfl

/-- Edges within the same distance of every point as others are paint the same. -/
theorem strokeOn_congr (hcorners : Bounds.ofPoints? corners = Bounds.ofPoints? corners')
    (hedges : ∀ x y, (ribbon edges half).contains x y = (ribbon edges' half).contains x y)
    (c : Color) (f : Frame) :
    strokeOn corners edges half c f = strokeOn corners' edges' half c f := by
  have hregion (b : Bounds) : f.cover b c (ribbon edges half) = f.cover b c (ribbon edges' half) :=
    f.cover_congr b c hedges
  simp only [strokeOn, hcorners, hregion]

end Path

end SceneLoop
