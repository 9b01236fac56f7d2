import ToothVoca.Display.Layout

namespace ToothVoca
namespace Display

open Library

/-!
# Where one call of `LcdTouch_DrawString` draws

The loop moves to the next line behind a glyph, from the width of that glyph; it
does not look at the glyph that follows.  A line is left as soon as it reaches
column 300, so every glyph starts in front of it and 20 columns fit behind.

The rectangles of one call come in one order, line by line and from left to
right, and this makes any two of them disjoint.
-/

/-- The second rectangle is at least a column to the right of the first, or at the
margin 25 rows lower. -/
def Rect.Follows (first second : Rect) : Prop :=
  (second.y = first.y ∧ first.x + first.width + 1 ≤ second.x) ∨
    (second.x = 20 ∧ second.y = first.y + 25)

/-- The sums that the loop takes behind a glyph fit into the 16 bits that they are
stored in. -/
def Rect.Unwrapped (rect : Rect) : Prop :=
  rect.x + (rect.width + 1) < 2 ^ 16 ∧ rect.y + rect.height + 5 < 2 ^ 16

/-- The rectangles of a text that starts at a position. -/
structure Placed (x y : Nat) (rects : List Rect) : Prop where
  first : ∀ rect ∈ rects.head?, rect.x = x ∧ rect.y = y
  inside : ∀ rect ∈ rects, rect.x + rect.width ≤ 320
  disjoint : rects.Pairwise fun first second => ¬ first.Intersects second
  follows : rects.IsChain Rect.Follows
  unwrapped : ∀ rect ∈ rects, rect.Unwrapped

section Boxes

variable {y : Nat} {first second : LineBreak.Box}

theorem boxRect_follows (follows : LineBreak.Follows 20 1 first second) :
    (boxRect y first).Follows (boxRect y second) := by
  unfold Rect.Follows boxRect
  rcases follows with ⟨sameLine, behind⟩ | ⟨nextLine, atMargin⟩
  · exact Or.inl ⟨by rw [sameLine], by simp only; omega⟩
  · exact Or.inr ⟨atMargin, by simp only; omega⟩

theorem boxRect_disjoint (before : LineBreak.Before 1 first second) :
    ¬ (boxRect y first).Intersects (boxRect y second) := by
  rintro ⟨_, fromRight, _, fromBelow⟩
  simp only [boxRect] at fromRight fromBelow
  rcases before with earlier | ⟨_, left⟩
  · omega
  · omega

end Boxes

/-- The boxes of a layout, on the screen. -/
theorem placed_layout {x y : Nat} {widths : List Nat} (inLine : x < 300) (room : y ≤ 240)
    (narrow : ∀ width ∈ widths, width ≤ 20) (short : widths.length ≤ 255) :
    Placed x y ((LineBreak.layout 20 300 1 x 0 widths).map (boxRect y)) := by
  have bounds {box : LineBreak.Box} (member : box ∈ LineBreak.layout 20 300 1 x 0 widths) :
      box.x < 300 ∧ box.width ≤ 20 ∧ box.line < 255 := by
    rcases LineBreak.mem_layout inLine (by decide) member with ⟨start, width, line⟩
    exact ⟨start, narrow _ width, by omega⟩
  constructor
  · intro rect head
    rw [List.head?_map] at head
    rcases Option.map_eq_some_iff.mp head with ⟨box, first, shape⟩
    have start := LineBreak.layout_head first
    rw [← shape, boxRect, start.1, start.2]
    exact ⟨rfl, rfl⟩
  · rw [List.forall_mem_map]
    intro box member
    have bound := bounds member
    simp only [boxRect]
    omega
  · rw [List.pairwise_map]
    exact (LineBreak.pairwise_layout x 0 widths).imp boxRect_disjoint
  · rw [List.isChain_map]
    exact (LineBreak.isChain_layout x 0 widths).imp fun _ _ => boxRect_follows
  · rw [List.forall_mem_map]
    intro box member
    have bound := bounds member
    simp only [Rect.Unwrapped, boxRect]
    omega

/-- A supported text has one glyph for each character. -/
theorem length_unitsOf_supported {text : List Char} (supported : SupportedText text) :
    (unitsOf (Utf8.encode text)).length = text.length := by
  have widths := congrArg List.length (map_unitWidth_supported supported)
  rwa [List.length_map, List.length_map] at widths

/-- The glyphs of a supported text of at most 255 bytes, one for each character, stay left
of the end of the panel, follow each other in lines of 25 rows and do not overlap, and no
coordinate wraps. -/
theorem drawString_placed (text : List Char) (supported : SupportedText text)
    (short : (Utf8.encode text).length ≤ 255) (images : UInt32 → tImage)
    (sized : SizedFont images) (behind : List UInt8) (x y : UInt32) (inLine : x.toNat < 300)
    (room : y.toNat ≤ 240) :
    ∃ draws, LcdTouch_DrawString true images (Utf8.encode text ++ 0 :: behind) x y =
        some draws ∧
      draws.length = text.length ∧ Placed x.toNat y.toNat (draws.map GlyphDraw.rect) := by
  have inTable := unitsOf_inTable supported
  rcases LcdTouch_DrawString_layout sized supported.nulFree inTable short behind inLine room with
    ⟨draws, drawn, rects⟩
  refine ⟨draws, drawn, ?_, ?_⟩
  · rw [LcdTouch_DrawString_eq images supported.nulFree, Option.some.injEq] at drawn
    rw [← drawn, length_place, length_unitsOf_supported supported]
  · rw [rects]
    apply placed_layout inLine room
    · rw [List.forall_mem_map]
      intro unit member
      exact (sized _ ((fontIndex_lt_iff unit.code).mpr (inTable unit member))).2.1
    · rw [List.length_map]
      exact Nat.le_trans (length_unitsOf _).1 short

/-- Two lines, drawn from the last column that a text can start at. -/
theorem drawString_placed_edge :
    ∃ draws, LcdTouch_DrawString true fontImages (Utf8.encode ['가', 'l', '나'] ++ 0 :: [])
        299 240 = some draws ∧
      draws.map GlyphDraw.rect = [⟨299, 240, 20, 20⟩, ⟨20, 265, 3, 20⟩, ⟨24, 265, 20, 20⟩] ∧
      draws.length = 3 ∧ Placed 299 240 (draws.map GlyphDraw.rect) := by
  have lines : (LcdTouch_DrawString true fontImages (Utf8.encode ['가', 'l', '나'] ++ 0 :: [])
      299 240).map (List.map GlyphDraw.rect) =
        some [⟨299, 240, 20, 20⟩, ⟨20, 265, 3, 20⟩, ⟨24, 265, 20, 20⟩] := by decide +kernel
  rcases drawString_placed ['가', 'l', '나'] (by decide +kernel) (by decide +kernel) fontImages
    fontImages_sized [] 299 240 (by decide) (by decide) with ⟨draws, drawn, placed⟩
  rw [drawn, Option.map_some, Option.some.injEq] at lines
  exact ⟨draws, drawn, lines, placed⟩

end Display
end ToothVoca
