import ToothVoca.Display.Repertoire
import ToothVoca.Library.LineBreak

namespace ToothVoca
namespace Display

open Library

/-!
# Where the glyphs of a text stand

The position of the loop is kept in 16 bits and moved in 32.  For glyphs of
the font and texts of a few hundred bytes nothing wraps, so the rectangles of
a text are those of greedy line breaking over its glyph widths: lines 25 rows
apart, the first starting where the text does and every other at the margin.
-/

/-- A rectangle of pixels. -/
structure Rect where
  x : Nat
  y : Nat
  width : Nat
  height : Nat
deriving DecidableEq, Repr

/-- Two rectangles have a pixel in common. -/
def Rect.Intersects (first second : Rect) : Prop :=
  first.x < second.x + second.width ∧ second.x < first.x + first.width ∧
    first.y < second.y + second.height ∧ second.y < first.y + first.height

instance (first second : Rect) : Decidable (first.Intersects second) :=
  inferInstanceAs (Decidable (_ ∧ _))

def GlyphDraw.rect (draw : GlyphDraw) : Rect where
  x := draw.start_x_pos.toNat
  y := draw.start_y_pos.toNat
  width := draw.textWidth.toNat
  height := draw.textHeight.toNat

/-- The division of a text into lines, from the widths of its glyphs. -/
def textLines (x : Nat) (widths : List Nat) : List (List Nat) :=
  LineBreak.breakLines LT_HORIZONTAL_MARGIN.toNat (LT_LCD_H_RES - LT_HORIZONTAL_MARGIN.toNat)
    LT_X_SPACE_TEXT_PIXEL.toNat x widths

/-- The boxes of a text. -/
def textBoxes (x : Nat) (widths : List Nat) : List LineBreak.Box :=
  LineBreak.rows LT_HORIZONTAL_MARGIN.toNat LT_X_SPACE_TEXT_PIXEL.toNat x 0 (textLines x widths)

/-- A box on the screen, for a text whose first line is at a given row. -/
def boxRect (y : Nat) (box : LineBreak.Box) : Rect :=
  ⟨box.x, y + 25 * box.line, box.width, 20⟩

/-- A font whose images are 1 to 20 columns wide and 20 rows high. -/
def SizedFont (images : UInt32 → tImage) : Prop :=
  ∀ fontIndex : UInt32, fontIndex.toNat < Font_length →
    1 ≤ (images fontIndex).width.toNat ∧ (images fontIndex).width.toNat ≤ 20 ∧
      (images fontIndex).height.toNat = 20

/-- The width of the glyph drawn for a unit. -/
def unitWidth (unit : DecodedUnit) : Nat :=
  (fontImages (LcdTouch_GetFontIndexOfUnicode unit.code)).width.toNat

/-- The width of the glyph of a character. -/
def glyphWidth (character : Char) : Nat :=
  match Font_array[position character.toNat]? with
  | some entry => entry.image.width.toNat
  | none => 0

/-! ## The position without wraps -/

/-- The images of the font are 1 to 20 columns wide and 20 rows high. -/
theorem fontImages_sized : SizedFont fontImages := by
  intro fontIndex inside
  rw [← length_Font_array] at inside
  unfold fontImages
  rw [List.getElem?_eq_getElem inside]
  have bounds := Font_array_image (List.getElem_mem inside)
  exact ⟨Nat.le_trans (by decide) bounds.1, bounds.2⟩

theorem Pen.advance_toNat {pen : Pen} {image : tImage} (inLine : pen.start_x_pos.toNat < 300)
    (narrow : image.width.toNat ≤ 20) (height : image.height.toNat = 20)
    (room : pen.start_y_pos.toNat + 25 < 65536) :
    (300 ≤ pen.start_x_pos.toNat + (image.width.toNat + 1) ∧
        (pen.advance image).start_x_pos.toNat = 20 ∧
        (pen.advance image).start_y_pos.toNat = pen.start_y_pos.toNat + 25) ∨
      (pen.start_x_pos.toNat + (image.width.toNat + 1) < 300 ∧
        (pen.advance image).start_x_pos.toNat = pen.start_x_pos.toNat + (image.width.toNat + 1) ∧
        (pen.advance image).start_y_pos.toNat = pen.start_y_pos.toNat) := by
  have moved : (pen.start_x_pos.toUInt32 +
      (image.width.toUInt32 + LT_X_SPACE_TEXT_PIXEL)).toUInt16.toNat =
        pen.start_x_pos.toNat + (image.width.toNat + 1) := by
    simp only [UInt32.toNat_toUInt16, UInt32.toNat_add, UInt16.toNat_toUInt32,
      LT_X_SPACE_TEXT_PIXEL, UInt32.reduceToNat]
    omega
  have lowered : (pen.start_y_pos.toUInt32 + image.height.toUInt32 +
      LT_Y_SPACE_TEXT_PIXEL).toUInt16.toNat = pen.start_y_pos.toNat + 25 := by
    simp only [UInt32.toNat_toUInt16, UInt32.toNat_add, UInt16.toNat_toUInt32,
      LT_Y_SPACE_TEXT_PIXEL, UInt32.reduceToNat, height]
    omega
  have limit : LT_LCD_H_RES - LT_HORIZONTAL_MARGIN.toNat = 300 := rfl
  unfold Pen.advance
  simp only [moved, limit]
  by_cases full : 300 ≤ pen.start_x_pos.toNat + (image.width.toNat + 1)
  · rw [if_pos full]
    exact Or.inl ⟨full, rfl, lowered⟩
  · rw [if_neg full]
    exact Or.inr ⟨Nat.lt_of_not_le full, moved, rfl⟩

/-- The rectangles of placed units are those of the layout of their widths. -/
theorem rects_place {images : UInt32 → tImage} (sized : SizedFont images) (y line str_index : Nat)
    (pen : Pen) (units : List DecodedUnit) (inTable : ∀ unit ∈ units, InTable unit.code.toNat)
    (inLine : pen.start_x_pos.toNat < 300) (height : pen.start_y_pos.toNat = y + 25 * line)
    (room : y + 25 * (line + units.length) < 65536) :
    (place images str_index pen units).map GlyphDraw.rect =
      (LineBreak.layout 20 300 1 pen.start_x_pos.toNat line (units.map fun unit =>
        (images (LcdTouch_GetFontIndexOfUnicode unit.code)).width.toNat)).map (boxRect y) := by
  induction units generalizing str_index line pen with
  | nil => rfl
  | cons unit rest ih =>
      have image := sized _ ((fontIndex_lt_iff unit.code).mpr (inTable unit List.mem_cons_self))
      have later := fun unit member => inTable unit (List.mem_cons_of_mem _ member)
      rw [List.length_cons] at room
      have first : (glyphOf images str_index pen unit).rect =
          boxRect y ⟨pen.start_x_pos.toNat, line,
            (images (LcdTouch_GetFontIndexOfUnicode unit.code)).width.toNat⟩ := by
        simp only [GlyphDraw.rect, glyphOf, boxRect, height, UInt16.toNat_toUInt32, image.2.2]
      rw [place, List.map_cons, List.map_cons, LineBreak.layout, List.map_cons, first]
      congr 1
      rcases pen.advance_toNat inLine image.2.1 image.2.2 (by omega) with
        ⟨full, atMargin, below⟩ | ⟨fits, behind, same⟩
      · have step := ih (line + 1) (str_index + unit.outLen.toNat)
          (pen.advance (images (LcdTouch_GetFontIndexOfUnicode unit.code))) later
          (by rw [atMargin]; decide) (by omega) (by omega)
        rw [step, atMargin, if_pos full]
      · have step := ih line (str_index + unit.outLen.toNat)
          (pen.advance (images (LcdTouch_GetFontIndexOfUnicode unit.code))) later
          (by rw [behind]; exact fits) (by rw [same, height]) (by omega)
        rw [step, behind, if_neg (Nat.not_le_of_lt fits)]

/-- The rectangles of a drawn text, for any font with images of these sizes. -/
theorem LcdTouch_DrawString_layout {images : UInt32 → tImage} (sized : SizedFont images)
    {text : List UInt8} (free : CString.NulFree text)
    (inTable : ∀ unit ∈ unitsOf text, InTable unit.code.toNat) (short : text.length ≤ 255)
    (behind : List UInt8) {x y : UInt32} (inLine : x.toNat < 300) (room : y.toNat ≤ 240) :
    ∃ draws, LcdTouch_DrawString true images (text ++ 0 :: behind) x y = some draws ∧
      draws.map GlyphDraw.rect =
        (LineBreak.layout 20 300 1 x.toNat 0 ((unitsOf text).map fun unit =>
          (images (LcdTouch_GetFontIndexOfUnicode unit.code)).width.toNat)).map
            (boxRect y.toNat) := by
  have x16 : x.toUInt16.toNat = x.toNat := by
    rw [UInt32.toNat_toUInt16]
    omega
  have y16 : y.toUInt16.toNat = y.toNat := by
    rw [UInt32.toNat_toUInt16]
    omega
  have count := (length_unitsOf text).1
  have rects := rects_place sized y.toNat 0 0 ⟨x.toUInt16, y.toUInt16⟩ (unitsOf text) inTable
    (by rw [x16]; exact inLine) y16 (by omega)
  refine ⟨_, LcdTouch_DrawString_eq images free behind x y, ?_⟩
  rw [rects, x16]

/-- The rectangles of a drawn text, line by line. -/
theorem LcdTouch_DrawString_rects {text : List UInt8} (free : CString.NulFree text)
    (inTable : ∀ unit ∈ unitsOf text, InTable unit.code.toNat) (short : text.length ≤ 255)
    {x y : UInt32} (inLine : x.toNat < 300) (room : y.toNat ≤ 240) :
    ∃ draws, LcdTouch_DrawString true fontImages (text ++ [0]) x y = some draws ∧
      draws.map GlyphDraw.rect =
        (textBoxes x.toNat ((unitsOf text).map unitWidth)).map (boxRect y.toNat) := by
  rcases LcdTouch_DrawString_layout fontImages_sized free inTable short [] inLine room with
    ⟨draws, drawn, rects⟩
  rw [LineBreak.layout_eq_rows] at rects
  exact ⟨draws, drawn, rects⟩

/-! ## Supported characters -/

theorem inTable_of_supported {codePoint : Nat} (supported : Supported codePoint) :
    InTable codePoint := by
  unfold Supported at supported
  unfold InTable
  omega

theorem unitsOf_inTable {text : List Char} (supported : SupportedText text) :
    ∀ unit ∈ unitsOf (Utf8.encode text), InTable unit.code.toNat := by
  induction text with
  | nil =>
      intro unit member
      cases member
  | cons character rest ih =>
      rcases supportedText_cons.mp supported with ⟨head, tail⟩
      rcases unitsOf_known character (supported_known head) with ⟨unit, single, code, _⟩
      rw [unitsOf_encode_cons, single, List.singleton_append]
      refine List.forall_mem_cons.mpr ⟨?_, ih tail⟩
      rw [code]
      exact inTable_of_supported head

theorem map_unitWidth_supported {text : List Char} (supported : SupportedText text) :
    (unitsOf (Utf8.encode text)).map unitWidth = text.map glyphWidth := by
  induction text with
  | nil => rfl
  | cons character rest ih =>
      rcases supportedText_cons.mp supported with ⟨head, tail⟩
      rcases unitsOf_known character (supported_known head) with ⟨unit, single, code, _⟩
      have index := fontIndex_of_supported unit.code (by rw [code]; exact head)
      have width : unitWidth unit = glyphWidth character := by
        unfold unitWidth glyphWidth fontImages
        rw [index, code]
        cases Font_array[position character.toNat]? <;> rfl
      rw [unitsOf_encode_cons, single, List.singleton_append, List.map_cons, List.map_cons,
        ih tail, width]

/-- A glyph is at least 3 columns wide, and with its gap at most 20 columns
for each byte of its character. -/
theorem glyphWidth_bounds {character : Char} (supported : Supported character.toNat) :
    3 ≤ glyphWidth character ∧
      glyphWidth character + 1 ≤ 20 * (String.utf8EncodeChar character).length := by
  have known := supported_known supported
  rcases supported with ascii | korean
  · rcases Font_array_ascii (character.toNat - 0x20) (by omega) with
      ⟨width, member, found⟩
    have bounds := asciiWidths_bounds member
    have place : position character.toNat = character.toNat - 0x20 := if_pos ascii.2
    have exact : glyphWidth character = width.toNat := by
      unfold glyphWidth
      rw [place, found]
      rfl
    have nonempty := character.utf8Size_pos
    rw [exact, String.length_utf8EncodeChar]
    omega
  · have exact : glyphWidth character = 20 := by
      unfold glyphWidth
      rw [Font_array_korean korean]
      rfl
    rw [exact]
    omega

end Display
end ToothVoca
