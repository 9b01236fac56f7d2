import Mathlib.Data.List.Basic

namespace Library

/-!
# Painting rectangles on a canvas

A canvas gives every point a colour.  A stamp is a rectangle with a picture for
it, and painting a stamp replaces the points of its rectangle and keeps all the
others.  A list of stamps is painted in order, so a later stamp covers an
earlier one.

What a painted list shows at a point is the picture of the last stamp that covers
the point.  Where the stamps do not overlap every one of them is seen whole, and
where a list covers everything that was painted before, nothing of that is left.

A memory need not be a canvas: its cells have places on one, and painting on the
memory changes each cell as the canvas is changed at its place.
-/

namespace Raster

universe u v

/-- A rectangle of points: its left upper corner and its size. -/
structure Region where
  left : Nat
  top : Nat
  width : Nat
  height : Nat
deriving DecidableEq, Repr

def Region.Covers (region : Region) (column row : Nat) : Prop :=
  region.left ≤ column ∧ column < region.left + region.width ∧
    region.top ≤ row ∧ row < region.top + region.height

instance (region : Region) (column row : Nat) : Decidable (region.Covers column row) :=
  inferInstanceAs (Decidable (_ ∧ _))

/-- The two rectangles have no point in common. -/
def Region.Apart (first second : Region) : Prop :=
  ∀ column row, first.Covers column row → ¬ second.Covers column row

abbrev Canvas (Color : Type u) := Nat → Nat → Color

/-- A rectangle and the colours for it, counted from its corner. -/
structure Stamp (Color : Type u) where
  region : Region
  picture : Nat → Nat → Color

variable {Color : Type u}

def paint (canvas : Canvas Color) (stamp : Stamp Color) : Canvas Color :=
  fun column row =>
    if stamp.region.Covers column row then
      stamp.picture (column - stamp.region.left) (row - stamp.region.top)
    else canvas column row

def paintAll (canvas : Canvas Color) (stamps : List (Stamp Color)) : Canvas Color :=
  stamps.foldl paint canvas

/-! ## One stamp -/

section Stamp

variable {stamp : Stamp Color} {column row : Nat}

theorem paint_covered (canvas : Canvas Color) (covers : stamp.region.Covers column row) :
    paint canvas stamp column row =
      stamp.picture (column - stamp.region.left) (row - stamp.region.top) :=
  if_pos covers

theorem paint_kept (canvas : Canvas Color) (outside : ¬ stamp.region.Covers column row) :
    paint canvas stamp column row = canvas column row :=
  if_neg outside

/-- Stamps with the same picture on the same rectangle paint the same. -/
theorem paint_congr (canvas : Canvas Color) {first second : Stamp Color}
    (region : first.region = second.region)
    (picture : ∀ x < first.region.width, ∀ y < first.region.height,
      first.picture x y = second.picture x y) :
    paint canvas first = paint canvas second := by
  funext column row
  by_cases covers : first.region.Covers column row
  · have same := picture (column - first.region.left) (by unfold Region.Covers at covers; omega)
      (row - first.region.top) (by unfold Region.Covers at covers; omega)
    rw [paint_covered canvas covers, same, region]
    rw [region] at covers
    exact (paint_covered canvas covers).symm
  · rw [paint_kept canvas covers]
    rw [region] at covers
    exact (paint_kept canvas covers).symm

end Stamp

/-! ## Lists of stamps -/

variable {stamps : List (Stamp Color)} {column row : Nat}

theorem paintAll_append (canvas : Canvas Color) (first second : List (Stamp Color)) :
    paintAll canvas (first ++ second) = paintAll (paintAll canvas first) second :=
  List.foldl_append

/-- The frame rule: a point that no stamp covers is kept. -/
theorem paintAll_kept (canvas : Canvas Color)
    (outside : ∀ stamp ∈ stamps, ¬ stamp.region.Covers column row) :
    paintAll canvas stamps column row = canvas column row := by
  induction stamps generalizing canvas with
  | nil => rfl
  | cons first rest ih =>
      rw [List.forall_mem_cons] at outside
      have later := ih (paint canvas first) outside.2
      exact later.trans (paint_kept canvas outside.1)

/-- The last stamp that covers a point is seen there. -/
theorem paintAll_last (canvas : Canvas Color) (before : List (Stamp Color))
    {stamp : Stamp Color} {after : List (Stamp Color)}
    (covers : stamp.region.Covers column row)
    (outside : ∀ later ∈ after, ¬ later.region.Covers column row) :
    paintAll canvas (before ++ stamp :: after) column row =
      stamp.picture (column - stamp.region.left) (row - stamp.region.top) := by
  rw [paintAll_append]
  have later := paintAll_kept (paint (paintAll canvas before) stamp) outside
  exact later.trans (paint_covered _ covers)

/-- A point that some stamp covers shows the same on every canvas. -/
theorem paintAll_covered (first second : Canvas Color)
    (covered : ∃ stamp ∈ stamps, stamp.region.Covers column row) :
    paintAll first stamps column row = paintAll second stamps column row := by
  induction stamps generalizing first second with
  | nil =>
      rcases covered with ⟨stamp, member, _⟩
      cases member
  | cons head rest ih =>
      by_cases later : ∃ stamp ∈ rest, stamp.region.Covers column row
      · exact ih (paint first head) (paint second head) later
      · have outside : ∀ stamp ∈ rest, ¬ stamp.region.Covers column row := by
          intro stamp member covers
          exact later ⟨stamp, member, covers⟩
        have here : head.region.Covers column row := by
          rcases covered with ⟨stamp, member, covers⟩
          rcases List.mem_cons.mp member with same | inRest
          · rwa [← same]
          · exact absurd covers (outside stamp inRest)
        have shown (canvas : Canvas Color) : paintAll canvas (head :: rest) column row =
            head.picture (column - head.region.left) (row - head.region.top) :=
          paintAll_last canvas [] here outside
        rw [shown, shown]

/-- What is shown at a point depends on the canvas at this point only. -/
theorem paintAll_point {first second : Canvas Color}
    (same : first column row = second column row) :
    paintAll first stamps column row = paintAll second stamps column row := by
  by_cases covered : ∃ stamp ∈ stamps, stamp.region.Covers column row
  · exact paintAll_covered first second covered
  · have outside : ∀ stamp ∈ stamps, ¬ stamp.region.Covers column row := by
      intro stamp member covers
      exact covered ⟨stamp, member, covers⟩
    rw [paintAll_kept _ outside, paintAll_kept _ outside, same]

/-- What all pictures have, and the canvas at a point, the point has afterwards. -/
theorem paintAll_forall (property : Color → Prop) {canvas : Canvas Color}
    (here : property (canvas column row))
    (pictures : ∀ stamp ∈ stamps, ∀ x y, property (stamp.picture x y)) :
    property (paintAll canvas stamps column row) := by
  induction stamps generalizing canvas with
  | nil => exact here
  | cons stamp rest ih =>
      rw [List.forall_mem_cons] at pictures
      apply ih _ pictures.2
      by_cases covers : stamp.region.Covers column row
      · rw [paint_covered canvas covers]
        exact pictures.1 _ _
      · rw [paint_kept canvas covers]
        exact here

/-- Stamps that do not overlap are all seen whole. -/
theorem paintAll_apart (canvas : Canvas Color)
    (apart : stamps.Pairwise fun first second => first.region.Apart second.region)
    {stamp : Stamp Color} (member : stamp ∈ stamps) {x y : Nat}
    (inWidth : x < stamp.region.width) (inHeight : y < stamp.region.height) :
    paintAll canvas stamps (stamp.region.left + x) (stamp.region.top + y) =
      stamp.picture x y := by
  have covers : stamp.region.Covers (stamp.region.left + x) (stamp.region.top + y) := by
    unfold Region.Covers
    omega
  rcases List.append_of_mem member with ⟨before, after, shape⟩
  rw [shape, List.pairwise_append] at apart
  have outside := (List.pairwise_cons.mp apart.2.1).1
  rw [shape, paintAll_last canvas before covers, Nat.add_sub_cancel_left,
    Nat.add_sub_cancel_left]
  intro later inAfter
  exact outside later inAfter _ _ covers

/-- What is painted over completely later on leaves nothing behind, whatever was painted
in between. -/
theorem paintAll_over (canvas : Canvas Color) {first second : List (Stamp Color)}
    (between : List (Stamp Color))
    (covering : ∀ stamp ∈ first, ∀ column row, stamp.region.Covers column row →
      ∃ later ∈ second, later.region.Covers column row) :
    paintAll canvas (first ++ (between ++ second)) = paintAll canvas (between ++ second) := by
  funext column row
  rw [paintAll_append, paintAll_append, paintAll_append]
  by_cases covered : ∃ later ∈ second, later.region.Covers column row
  · exact paintAll_covered _ _ covered
  · apply paintAll_point
    apply paintAll_point
    apply paintAll_kept
    intro stamp member covers
    exact covered (covering stamp member column row covers)

/-! ## A stamp in bands -/

/-- The part of a stamp that consists of some of its rows. -/
def Stamp.band (stamp : Stamp Color) (y count : Nat) : Stamp Color where
  region := ⟨stamp.region.left, stamp.region.top + y, stamp.region.width, count⟩
  picture := fun x below => stamp.picture x (y + below)

theorem paint_band_covered (canvas : Canvas Color) (stamp : Stamp Color) {y count : Nat}
    (covers : (stamp.band y count).region.Covers column row) :
    paint canvas (stamp.band y count) column row =
      stamp.picture (column - stamp.region.left) (row - stamp.region.top) := by
  rw [paint_covered canvas covers]
  simp only [Region.Covers, Stamp.band] at covers ⊢
  congr 1
  omega

/-- Two bands below each other are one band. -/
theorem paint_band_band (canvas : Canvas Color) (stamp : Stamp Color) (y first second : Nat) :
    paint (paint canvas (stamp.band y first)) (stamp.band (y + first) second) =
      paint canvas (stamp.band y (first + second)) := by
  funext column row
  have either : (stamp.band y (first + second)).region.Covers column row ↔
      (stamp.band y first).region.Covers column row ∨
        (stamp.band (y + first) second).region.Covers column row := by
    simp only [Region.Covers, Stamp.band]
    omega
  by_cases below : (stamp.band (y + first) second).region.Covers column row
  · rw [paint_band_covered _ _ below, paint_band_covered _ _ (either.mpr (Or.inr below))]
  · rw [paint_kept _ below]
    by_cases above : (stamp.band y first).region.Covers column row
    · rw [paint_band_covered _ _ above, paint_band_covered _ _ (either.mpr (Or.inl above))]
    · have outside : ¬ (stamp.band y (first + second)).region.Covers column row := by
        rw [either]
        exact not_or.mpr ⟨above, below⟩
      rw [paint_kept _ above, paint_kept _ outside]

/-- Bands of the same height, one below the other. -/
def Stamp.bands (stamp : Stamp Color) (height : Nat) : Nat → Nat → List (Stamp Color)
  | _, 0 => []
  | y, count + 1 => stamp.band y height :: stamp.bands height (y + height) count

theorem paintAll_bands (canvas : Canvas Color) (stamp : Stamp Color) (height y count : Nat) :
    paintAll canvas (stamp.bands height y count) =
      paint canvas (stamp.band y (count * height)) := by
  induction count generalizing canvas y with
  | zero =>
      funext column row
      apply Eq.symm
      apply paint_kept
      simp only [Region.Covers, Stamp.band]
      omega
  | succ count ih =>
      have step := ih (paint canvas (stamp.band y height)) (y + height)
      rw [paint_band_band, Nat.add_comm height, ← Nat.succ_mul] at step
      exact step

/-- A stamp painted band by band is the stamp. -/
theorem paintAll_whole (canvas : Canvas Color) (stamp : Stamp Color) {height count : Nat}
    (whole : count * height = stamp.region.height) :
    paintAll canvas (stamp.bands height 0 count) = paint canvas stamp := by
  rw [paintAll_bands, whole]
  apply paint_congr
  · rfl
  · intro x _ y _
    simp only [Stamp.band, Nat.zero_add]

/-! ## A memory whose cells have places -/

section Cells

variable {Cell : Type v}

/-- Every cell is painted over as the point at its place. -/
def paintCells (place : Cell → Nat × Nat) (memory : Cell → Color) (stamps : List (Stamp Color)) :
    Cell → Color :=
  fun cell => paintAll (fun _ _ => memory cell) stamps (place cell).1 (place cell).2

variable {place : Cell → Nat × Nat} {memory : Cell → Color} {cell : Cell}

theorem paintCells_append (place : Cell → Nat × Nat) (memory : Cell → Color)
    (first second : List (Stamp Color)) :
    paintCells place memory (first ++ second) =
      paintCells place (paintCells place memory first) second := by
  funext cell
  rw [paintCells, paintAll_append]
  exact paintAll_point rfl

theorem paintCells_congr (place : Cell → Nat × Nat) (memory : Cell → Color)
    {first second : List (Stamp Color)}
    (same : ∀ canvas, paintAll canvas first = paintAll canvas second) :
    paintCells place memory first = paintCells place memory second := by
  funext cell
  rw [paintCells, same]
  rfl

/-- A cell that shows what a canvas has at its place shows what is painted there. -/
theorem paintCells_canvas {canvas : Canvas Color} (stamps : List (Stamp Color))
    (shows : memory cell = canvas (place cell).1 (place cell).2) :
    paintCells place memory stamps cell =
      paintAll canvas stamps (place cell).1 (place cell).2 :=
  paintAll_point shows

end Cells

end Raster

end Library
