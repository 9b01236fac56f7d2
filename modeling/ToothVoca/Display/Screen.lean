import ToothVoca.Display.FillBackground
import ToothVoca.Display.IndexBounds
import ToothVoca.Display.Placement

namespace ToothVoca
namespace Display

open Library

/-!
# What is seen on the screen

The pixels of a glyph are expanded into a buffer and transferred row by row; the
rows of the buffer are the rows of one picture, so the transfers of a glyph paint
that picture and the transfers of a text paint one picture for each of its glyphs.
As the glyphs of a call do not overlap, each of them is seen whole.

A glyph whose buffer is refused is transferred all the same where its semaphore is
granted, from the NULL pointer.  Such a call does not come to its end here, and nothing
is said of what it leaves.

`ScreenPanel` is the panel together with the colour of the background, and a run of
it is any sequence of resets and drawn texts.  What can be seen then is decided by
the stamps since the last reset that was granted: `stampsNext` keeps only these, and
`screen_run` says that nothing else is left on the screen.
-/

/-- The picture of a glyph at its position. -/
def glyphStamp (image : FontImage) (s_backgroud_color start_x_pos start_y_pos : UInt16) :
    Raster.Stamp UInt16 where
  region := ⟨start_x_pos.toNat, start_y_pos.toNat, image.width.toNat, image.height.toNat⟩
  picture := fun x y => image.shown LT_FONT_COLOR s_backgroud_color (y * image.width.toNat + x)

section Text

variable (font : UInt32 → Option FontImage) (s_backgroud_color : UInt16)
  (granted : Nat → Granted)

/-- The pictures of the glyphs for which everything is granted. -/
def textStamps : Nat → List GlyphDraw → List (Raster.Stamp UInt16)
  | _, [] => []
  | glyph, draw :: rest =>
      (match font draw.fontIndex with
        | some image =>
            if granted glyph = ⟨true, true⟩ then
              [glyphStamp image s_backgroud_color draw.start_x_pos draw.start_y_pos]
            else []
        | none => []) ++ textStamps (glyph + 1) rest

end Text

/-! ## One glyph -/

/-- No transfer is started for a buffer that was refused. -/
def Granted.Buffered (granted : Granted) : Prop :=
  granted.buffer = true ∨ granted.semaphore = false

/-- The two bytes of a pixel stand at twice its number in the buffer of a glyph. -/
theorem glyph_pixel (image : FontImage) (color s_backgroud_color : UInt16) {pixel : Nat}
    (inside : pixel < image.width.toNat * image.height.toNat) :
    let data_buf := RawMemory.apply 0 (RawMemory.block 0
      (image.bytesBefore color s_backgroud_color (image.width.toNat * image.height.toNat)))
        fun _ => 0
    pixel16 (data_buf (2 * pixel)) (data_buf (2 * pixel + 1)) =
      image.shown color s_backgroud_color pixel := by
  have bytes := getElem?_bytesBefore image color s_backgroud_color inside
  have high := RawMemory.apply_block 0 0 bytes.1 fun _ => 0
  have low := RawMemory.apply_block 0 0 bytes.2 fun _ => 0
  simp only [Nat.zero_add] at high low
  simp only [high, low]
  exact pixel16_bytes _

/-- Every row is read from the one buffer. -/
theorem data_buf_rowLoop {image_data : image_data_t} {rows i image_data_buf_idx : Nat}
    {call : DrawBitmap} (member : call ∈ rowLoop image_data rows i image_data_buf_idx) :
    call.data_buf = image_data.data_buf := by
  induction rows generalizing i image_data_buf_idx with
  | zero => cases member
  | succ rows ih =>
      rcases List.mem_cons.mp member with first | later
      · rw [first]
      · exact ih later

theorem data_buf_DrawImageData {granted : Granted} {image_data : image_data_t} {call : DrawBitmap}
    (member : call ∈ LcdToudh_DrawImageData granted image_data) :
    call.data_buf = image_data.data_buf := by
  unfold LcdToudh_DrawImageData at member
  split at member
  · cases member
  · exact data_buf_rowLoop member

/-- The rows of a picture, from one on. -/
theorem rowLoop_paints {lcd : LcdController} (documented : lcd.Documented)
    {image_data : image_data_t} {data_buf : Nat → UInt8} (stamp : Raster.Stamp UInt16) {rows : Nat}
    (y : Nat) (allocated : image_data.data_buf = some data_buf)
    (left : stamp.region.left = image_data.start_x_pos.toNat)
    (width : stamp.region.width = image_data.width_px.toNat) (wide : 0 < stamp.region.width)
    (xSmall : stamp.region.left + stamp.region.width ≤ 2 ^ 16)
    (ySmall : stamp.region.top + stamp.region.height ≤ 2 ^ 16)
    (small : 2 * stamp.region.width * stamp.region.height < 2 ^ 32)
    (pixels : ∀ x < stamp.region.width, ∀ y < stamp.region.height,
      pixel16 (data_buf (2 * (y * stamp.region.width + x)))
          (data_buf (2 * (y * stamp.region.width + x) + 1)) = stamp.picture x y)
    (inside : y + rows ≤ stamp.region.height) :
    Paints lcd (rowLoop image_data rows (stamp.region.top + y) (2 * stamp.region.width * y))
      (stamp.bands 1 y rows) := by
  induction rows generalizing y with
  | zero => exact Paints.nil
  | succ rows ih =>
      have rest := ih (y + 1) (by omega)
      have next : (2 * stamp.region.width * y +
          image_data.width_px.toNat * (LT_LCD_BIT_PER_PIXEL / 8)) % 2 ^ 32 =
            2 * stamp.region.width * (y + 1) := by
        have double : image_data.width_px.toNat * (LT_LCD_BIT_PER_PIXEL / 8) =
            2 * stamp.region.width := by
          rw [width]
          exact Nat.mul_comm _ 2
        have below := Nat.mul_le_mul_left (2 * stamp.region.width)
          (show y + 1 ≤ stamp.region.height by omega)
        rw [double, ← Nat.mul_succ]
        exact Nat.mod_eq_of_lt (Nat.lt_of_le_of_lt below small)
      rw [rowLoop, next, ← width, ← left]
      refine Paints.cons ?_ rest
      apply Paints.band documented allocated
      · rfl
      · rfl
      · rfl
      · rfl
      · exact wide
      · exact Nat.one_pos
      · exact xSmall
      · show stamp.region.top + y + 1 ≤ 2 ^ 16
        omega
      · omega
      · intro x inWidth below inRow
        have first : below = 0 := Nat.lt_one_iff.mp inRow
        have pixel := pixels x inWidth y (by omega)
        have index : 2 * stamp.region.width * y + 2 * x = 2 * (y * stamp.region.width + x) := by
          rw [Nat.mul_add, Nat.mul_assoc, Nat.mul_comm stamp.region.width]
        subst first
        simp only [Nat.zero_mul, Nat.zero_add, Nat.add_zero, ← Nat.add_assoc, index]
        exact pixel

/-- The length of a glyph is an `int`, and its corners are coordinates of 16 bits. -/
structure Transferable (image : FontImage) (start_x_pos start_y_pos : UInt16) : Prop where
  fits : 2 * (image.width.toNat * image.height.toNat) < 2 ^ 31
  wide : 1 ≤ image.width.toNat
  x_end : start_x_pos.toNat + image.width.toNat ≤ 2 ^ 16
  y_end : start_y_pos.toNat + image.height.toNat ≤ 2 ^ 16

/-- The rows of a buffer that was filled paint the picture of its glyph. -/
theorem glyphRows_paint {lcd : LcdController} (documented : lcd.Documented) (image : FontImage)
    (s_backgroud_color : UInt16) {image_data : image_data_t}
    (color : image_data.color = LT_FONT_COLOR) (width : image_data.width_px = image.width)
    (filled : image_data.data_buf = some (RawMemory.apply 0 (RawMemory.block 0
      (image.bytesBefore image_data.color s_backgroud_color
        (image.width.toNat * image.height.toNat))) fun _ => 0))
    (able : Transferable image image_data.start_x_pos image_data.start_y_pos) :
    Paints lcd (rowLoop image_data image.height.toNat image_data.start_y_pos.toNat 0)
      [glyphStamp image s_backgroud_color image_data.start_x_pos image_data.start_y_pos] := by
  have rows (canvas : Raster.Canvas UInt16) := Raster.paintAll_whole canvas
    (glyphStamp image s_backgroud_color image_data.start_x_pos image_data.start_y_pos)
    (Nat.mul_one image.height.toNat)
  refine Paints.of_same ?_ rows
  refine rowLoop_paints documented
    (glyphStamp image s_backgroud_color image_data.start_x_pos image_data.start_y_pos)
    0 filled rfl (congrArg UInt16.toNat width.symm) able.wide able.x_end able.y_end ?_ ?_ ?_
  · show 2 * image.width.toNat * image.height.toNat < 2 ^ 32
    have length := able.fits
    rw [Nat.mul_assoc]
    omega
  · intro x inWidth y inHeight
    have inside : y * image.width.toNat + x < image.width.toNat * image.height.toNat := by
      have rows := Nat.mul_le_mul_right image.width.toNat
        (show y + 1 ≤ image.height.toNat from inHeight)
      have inRow : x < image.width.toNat := inWidth
      rw [Nat.succ_mul, Nat.mul_comm image.height.toNat] at rows
      omega
    have pixel := glyph_pixel image image_data.color s_backgroud_color inside
    exact pixel.trans (by rw [color]; rfl)
  · exact Nat.le_of_eq (Nat.zero_add _)

section Glyph

variable {lcd : LcdController} {font : UInt32 → Option FontImage} {s_backgroud_color : UInt16}
  {granted : Granted} {text_data : text_data_t}

/-- The transfers of a glyph paint its picture, or nothing where something is
refused. -/
theorem LcdTouch_DrawText_paints (documented : lcd.Documented) (text_data : text_data_t)
    {image : FontImage} (found : font text_data.fontIndex = some image)
    (color : text_data.color = LT_FONT_COLOR)
    (able : Transferable image text_data.start_x_pos text_data.start_y_pos) :
    ∃ result, LcdTouch_DrawText font s_backgroud_color granted text_data = some result ∧
      (granted.Buffered → Allocated result.transfers) ∧
      Paints lcd result.transfers
        (if granted = ⟨true, true⟩ then
          [glyphStamp image s_backgroud_color text_data.start_x_pos text_data.start_y_pos]
        else []) := by
  rcases granted with ⟨buffer, semaphore⟩
  have fits : image.width.toNat * image.height.toNat * 2 < 2 ^ 31 := by
    have length := able.fits
    omega
  rw [LcdTouch_DrawText, found]
  cases buffer with
  | true =>
      have drawn := LcdTouch_GetFontImageData_eq image s_backgroud_color text_data.imageData fits
      cases semaphore with
      | true =>
          rw [drawn]
          refine ⟨_, rfl, ?_, ?_⟩
          · intro _ call member
            have started : call ∈ LcdToudh_DrawImageData ⟨true, true⟩ _ := member
            rw [data_buf_DrawImageData started]
            exact Option.some_ne_none _
          · rw [if_pos rfl]
            exact glyphRows_paint documented image s_backgroud_color color rfl rfl able
      | false =>
          rw [drawn]
          refine ⟨_, rfl, ?_, Paints.nil⟩
          exact fun _ => List.forall_mem_nil _
  | false =>
      rcases LcdTouch_GetFontImageData_published image s_backgroud_color false
        text_data.imageData fits with ⟨drawn, called, published⟩
      have null : ∀ call ∈ LcdToudh_DrawImageData ⟨false, semaphore⟩ drawn.image_data,
          call.data_buf = none := by
        intro call member
        rw [data_buf_DrawImageData member]
        exact Option.not_isSome_iff_eq_none.mp (by simp [published.data_buf])
      rw [called]
      refine ⟨_, rfl, ?_, Paints.of_null null⟩
      rintro (granted | refused)
      · cases granted
      · cases refused
        exact List.forall_mem_nil _

/-- A glyph without an image has nothing transferred. -/
theorem LcdTouch_DrawText_none (s_backgroud_color : UInt16) (granted : Granted)
    (text_data : text_data_t) (found : font text_data.fontIndex = none) :
    ∃ result, LcdTouch_DrawText font s_backgroud_color granted text_data = some result ∧
      result.transfers = [] := by
  rw [LcdTouch_DrawText, found]
  refine ⟨_, rfl, ?_⟩
  exact (transfers_eq_nil_iff _).mpr (Or.inr rfl)

end Glyph

/-! ## One text -/

/-- The points of a rectangle. -/
def Rect.region (rect : Rect) : Raster.Region :=
  ⟨rect.x, rect.y, rect.width, rect.height⟩

theorem Rect.apart_of_disjoint {first second : Rect} (disjoint : ¬ first.Intersects second) :
    first.region.Apart second.region := by
  intro column row covers covers'
  apply disjoint
  simp only [Raster.Region.Covers, Rect.region] at covers covers'
  unfold Rect.Intersects
  omega

section Text

variable {font : UInt32 → Option FontImage}

theorem mem_textStamps (s_backgroud_color : UInt16) (granted : Nat → Granted) (glyph : Nat)
    {draws : List GlyphDraw} {number : Nat} {draw : GlyphDraw} {image : FontImage}
    (drawn : draws[number]? = some draw)
    (found : font draw.fontIndex = some image) (all : granted (glyph + number) = ⟨true, true⟩) :
    glyphStamp image s_backgroud_color draw.start_x_pos draw.start_y_pos ∈
      textStamps font s_backgroud_color granted glyph draws := by
  induction draws generalizing glyph number with
  | nil => cases drawn
  | cons first rest ih =>
      rw [textStamps]
      cases number with
      | zero =>
          cases drawn
          rw [Nat.add_zero] at all
          apply List.mem_append_left
          simp only [found, if_pos all, List.mem_singleton]
      | succ number =>
          apply List.mem_append_right
          apply ih (glyph + 1) drawn
          rwa [Nat.add_assoc, Nat.add_comm 1]

/-- The rectangles of the pictures are those of the glyphs, less those for which
something is refused. -/
theorem regions_textStamps (s_backgroud_color : UInt16) (granted : Nat → Granted) (glyph : Nat)
    {draws : List GlyphDraw}
    (sizes : ∀ draw ∈ draws, ∀ image, font draw.fontIndex = some image →
      draw.textWidth.toNat = image.width.toNat ∧ draw.textHeight.toNat = image.height.toNat) :
    ((textStamps font s_backgroud_color granted glyph draws).map Raster.Stamp.region).Sublist
      (draws.map fun draw => draw.rect.region) := by
  induction draws generalizing glyph with
  | nil => exact List.Sublist.slnil
  | cons draw rest ih =>
      rw [List.forall_mem_cons] at sizes
      have later := ih (glyph + 1) sizes.2
      rw [textStamps, List.map_append, List.map_cons, ← List.singleton_append]
      refine List.Sublist.append ?_ later
      cases found : font draw.fontIndex with
      | none => exact List.nil_sublist _
      | some image =>
          simp only
          split
          · have size := sizes.1 image found
            have region : draw.rect.region = (glyphStamp image s_backgroud_color
                draw.start_x_pos draw.start_y_pos).region := by
              simp only [Rect.region, GlyphDraw.rect, glyphStamp, size.1, size.2]
            rw [region]
            exact List.Sublist.refl _
          · exact List.nil_sublist _

/-- The calls for given glyphs paint their pictures, one behind the other. -/
theorem drawTexts_paints {lcd : LcdController} (documented : lcd.Documented)
    (s_backgroud_color : UInt16) (granted : Nat → Granted) (glyph : Nat) {draws : List GlyphDraw}
    (able : ∀ draw ∈ draws, ∀ image, font draw.fontIndex = some image →
      Transferable image draw.start_x_pos draw.start_y_pos) :
    ∃ results, drawTexts font s_backgroud_color granted glyph draws = some results ∧
      ((∀ glyph, (granted glyph).Buffered) →
        Allocated (results.flatMap DrawTextResult.transfers)) ∧
      Paints lcd (results.flatMap DrawTextResult.transfers)
        (textStamps font s_backgroud_color granted glyph draws) := by
  induction draws generalizing glyph with
  | nil => exact ⟨[], rfl, fun _ _ member => (by cases member), Paints.nil⟩
  | cons draw rest ih =>
      rw [List.forall_mem_cons] at able
      rcases ih (glyph + 1) able.2 with ⟨others, called, allocated, paints⟩
      have first : ∃ result,
          LcdTouch_DrawText font s_backgroud_color (granted glyph) draw.text_data = some result ∧
            ((granted glyph).Buffered → Allocated result.transfers) ∧
            Paints lcd result.transfers (match font draw.fontIndex with
              | some image =>
                  if granted glyph = ⟨true, true⟩ then
                    [glyphStamp image s_backgroud_color draw.start_x_pos draw.start_y_pos]
                  else []
              | none => []) := by
        cases found : font draw.fontIndex with
        | none =>
            rcases LcdTouch_DrawText_none s_backgroud_color (granted glyph) draw.text_data found
              with ⟨result, returned, none⟩
            refine ⟨result, returned, ?_⟩
            rw [none]
            exact ⟨fun _ _ member => (by cases member), Paints.nil⟩
        | some image =>
            exact LcdTouch_DrawText_paints documented draw.text_data found rfl (able.1 image found)
      rcases first with ⟨result, returned, allocated', paints'⟩
      refine ⟨result :: others, ?_, ?_, ?_⟩
      · rw [drawTexts_cons_some returned, called]
        rfl
      · intro buffered
        rw [List.flatMap_cons, Allocated, List.forall_mem_append]
        exact ⟨allocated' (buffered glyph), allocated buffered⟩
      · rw [List.flatMap_cons, textStamps]
        exact paints'.append paints

end Text

/-- The size that is written down for a glyph is that of its image. -/
theorem sizes_place (images : UInt32 → tImage) (str_index : Nat) (pen : Pen)
    (units : List DecodedUnit) :
    ∀ draw ∈ place images str_index pen units,
      draw.textWidth.toNat = (images draw.fontIndex).width.toNat ∧
        draw.textHeight.toNat = (images draw.fontIndex).height.toNat := by
  induction units generalizing str_index pen with
  | nil =>
      intro draw member
      cases member
  | cons unit rest ih =>
      rw [place, List.forall_mem_cons]
      exact ⟨⟨UInt16.toNat_toUInt32 _, UInt16.toNat_toUInt32 _⟩, ih _ _⟩

theorem shapeOf_found {font : UInt32 → Option FontImage} {fontIndex : UInt32} {image : FontImage}
    (found : font fontIndex = some image) : shapeOf font fontIndex = image.totImage := by
  unfold shapeOf
  rw [found]

/-- A drawable text has no terminator in it. -/
theorem Drawable.nulFree {text : List UInt8} (drawable : Drawable text) :
    CString.NulFree text := by
  have nonzero {byte : UInt8} (positive : 0 < byte.toNat) : ¬ 0 = byte := by
    rintro rfl
    cases positive
  unfold CString.NulFree
  induction drawable with
  | empty => exact List.not_mem_nil
  | ascii printable drawable ih =>
      rw [List.mem_cons, not_or]
      exact ⟨nonzero (by omega), ih⟩
  | korean lead tail tail' inTable drawable ih =>
      unfold Utf8.Lead3 at lead
      unfold Utf8.Tail at tail tail'
      simp only [List.mem_cons, not_or]
      exact ⟨nonzero (by omega), nonzero (by omega), nonzero (by omega), ih⟩

/-- A text that can be drawn from a position: its glyphs are in the table, and it is
short enough for its last line to have a row number of 16 bits. -/
structure Fits (text : List UInt8) (x y : UInt32) : Prop where
  drawable : Drawable text
  short : text.length ≤ 255
  inLine : x.toNat < 300
  room : y.toNat ≤ 240

section Draw

variable {lcd : LcdController} {font : UInt32 → Option FontImage} {granted : Nat → Granted}
  {text : List UInt8} {x y : UInt32}

/-- The glyphs of a text that fits: they stay in the lines, apart from each other, with
the sizes of their images. -/
structure Laid (font : UInt32 → Option FontImage) (x y : UInt32) (draws : List GlyphDraw) :
    Prop where
  placed : Placed x.toNat y.toNat (draws.map GlyphDraw.rect)
  sizes : ∀ draw ∈ draws, ∀ image, font draw.fontIndex = some image →
    draw.textWidth.toNat = image.width.toNat ∧ draw.textHeight.toNat = image.height.toNat
  indices : ∀ draw ∈ draws, draw.fontIndex.toNat < Font_length

theorem Fits.laid (sized : SizedFont (shapeOf font)) (fits : Fits text x y) :
    Laid font x y (place (shapeOf font) 0 ⟨x.toUInt16, y.toUInt16⟩ (unitsOf text)) := by
  have free := fits.drawable.nulFree
  have inTable := fits.drawable.units
  rcases LcdTouch_DrawString_layout sized free inTable fits.short [] fits.inLine fits.room with
    ⟨draws, drawn, rects⟩
  rw [LcdTouch_DrawString_eq _ free, Option.some.injEq] at drawn
  rw [drawn]
  refine ⟨?_, ?_, ?_⟩
  · rw [rects]
    apply placed_layout fits.inLine fits.room
    · rw [List.forall_mem_map]
      intro unit member
      exact (sized _ ((fontIndex_lt_iff unit.code).mpr (inTable unit member))).2.1
    · rw [List.length_map]
      exact Nat.le_trans (length_unitsOf _).1 fits.short
  · rw [← drawn]
    intro draw member image found
    have size := sizes_place _ _ _ _ draw member
    rwa [shapeOf_found found] at size
  · rw [← drawn, place_indices_iff]
    exact inTable

namespace Laid

variable {draws : List GlyphDraw}

/-- The glyphs can be transferred. -/
theorem transferable (laid : Laid font x y draws) (sized : SizedFont (shapeOf font)) :
    ∀ draw ∈ draws, ∀ image, font draw.fontIndex = some image →
      Transferable image draw.start_x_pos draw.start_y_pos := by
  intro draw member image shown
  have size := laid.sizes draw member image shown
  have bounds := sized draw.fontIndex (laid.indices draw member)
  rw [shapeOf_found shown] at bounds
  have inside := laid.placed.inside draw.rect (List.mem_map_of_mem member)
  have unwrapped := laid.placed.unwrapped draw.rect (List.mem_map_of_mem member)
  simp only [GlyphDraw.rect, Rect.Unwrapped, size.1, size.2] at inside unwrapped
  refine ⟨?_, bounds.1, by omega, by omega⟩
  rw [bounds.2.2]
  omega

/-- Their pictures have places of their own. -/
theorem apart (laid : Laid font x y draws) (s_backgroud_color : UInt16)
    (granted : Nat → Granted) :
    (textStamps font s_backgroud_color granted 0 draws).Pairwise
      fun first second => first.region.Apart second.region := by
  have regions := regions_textStamps s_backgroud_color granted 0 laid.sizes
  have apart : (draws.map fun draw => draw.rect.region).Pairwise
      fun first second => first.Apart second := by
    have disjoint := laid.placed.disjoint
    rw [List.pairwise_map] at disjoint ⊢
    exact disjoint.imp Rect.apart_of_disjoint
  have kept := apart.sublist regions
  rwa [List.pairwise_map] at kept

end Laid

/-- What is painted for a text: pictures of its glyphs, which have places of their
own. -/
structure Pictured (lcd : LcdController) (font : UInt32 → Option FontImage)
    (s_backgroud_color : UInt16) (granted : Nat → Granted) (draws : List GlyphDraw)
    (calls : List DrawBitmap) : Prop where
  allocated : (∀ glyph, (granted glyph).Buffered) → Allocated calls
  paints : Paints lcd calls (textStamps font s_backgroud_color granted 0 draws)
  regions : ((textStamps font s_backgroud_color granted 0 draws).map Raster.Stamp.region).Sublist
    (draws.map fun draw => draw.rect.region)
  apart : (textStamps font s_backgroud_color granted 0 draws).Pairwise
    fun first second => first.region.Apart second.region

/-- A call of `LcdTouch_DrawString` paints the pictures of its glyphs. -/
theorem drawString_pictured (documented : lcd.Documented) (sized : SizedFont (shapeOf font))
    (fits : Fits text x y) (s_backgroud_color : UInt16) (granted : Nat → Granted)
    (behind : List UInt8) :
    ∃ draws results,
      LcdTouch_DrawString true (shapeOf font) (text ++ 0 :: behind) x y = some draws ∧
      LcdTouch_DrawString_results font s_backgroud_color true granted (text ++ 0 :: behind) x y =
        some results ∧
      Pictured lcd font s_backgroud_color granted draws
        (results.flatMap DrawTextResult.transfers) := by
  have free := fits.drawable.nulFree
  have laid := fits.laid sized
  rcases drawTexts_paints documented s_backgroud_color granted 0 (laid.transferable sized) with
    ⟨results, called, allocated, paints⟩
  refine ⟨_, results, LcdTouch_DrawString_eq (shapeOf font) free behind x y, ?_, allocated, paints,
    regions_textStamps s_backgroud_color granted 0 laid.sizes, laid.apart s_backgroud_color granted⟩
  rw [LcdTouch_DrawString_results_eq free, called]

/-- What a caller sees behind a drawn text, in the cells of the panel's memory. -/
structure TextShown (font : UInt32 → Option FontImage) (s_backgroud_color : UInt16)
    (granted : Nat → Granted) (draws : List GlyphDraw) (before after : PanelView lcd) : Prop where
  /-- A glyph for which everything is granted is seen whole. -/
  whole : ∀ glyph draw image, draws[glyph]? = some draw → font draw.fontIndex = some image →
    granted glyph = ⟨true, true⟩ →
    ∀ column < image.width.toNat, ∀ row < image.height.toNat, ∀ cell,
      before.place cell = (draw.start_x_pos.toNat + column, draw.start_y_pos.toNat + row) →
      after.memory cell =
        image.shown LT_FONT_COLOR s_backgroud_color (row * image.width.toNat + column)
  kept : ∀ cell,
    (∀ draw ∈ draws, ¬ draw.rect.region.Covers (before.place cell).1 (before.place cell).2) →
    after.memory cell = before.memory cell
  rest : after = { before with memory := after.memory }

theorem Pictured.shown {s_backgroud_color : UInt16} {draws : List GlyphDraw}
    {calls : List DrawBitmap} (pictured : Pictured lcd font s_backgroud_color granted draws calls)
    {panel after : Panel lcd} {sent : Nat → Sent} (plain : panel.Plain)
    (returned : transferAll panel sent calls = some after) :
    TextShown font s_backgroud_color granted draws panel.view after.view := by
  rw [(pictured.paints.painted plain returned).2]
  refine ⟨?_, ?_, rfl⟩
  · intro glyph draw image drawn found all column inWidth row inHeight cell place
    have member := mem_textStamps s_backgroud_color granted 0 drawn found (by rwa [Nat.zero_add])
    have seen := Raster.paintAll_apart (fun _ _ => panel.view.memory cell) pictured.apart member
      inWidth inHeight
    simp only [PanelView.paintAll, Raster.paintCells, place]
    exact seen
  · intro cell outside
    refine Raster.paintAll_kept (fun _ _ => panel.view.memory cell) ?_
    intro stamp member covers
    have region := pictured.regions.subset (List.mem_map_of_mem member)
    rcases List.mem_map.mp region with ⟨draw, inDraws, same⟩
    rw [← same] at covers
    exact outside draw inDraws covers

end Draw

/-- A panel behind its initialization, with anything in its memory, in the orientation
of the source. -/
def plainPanel (memory : Fin 240 × Fin 320 → UInt16) : Panel ILI9341 where
  ili9341 := ⟨0, 0, 16, 0x48, 0x55, none⟩
  controller := ⟨⟨0x48, 0x55, true, false, false⟩, (0, 0), (0, 0), memory⟩

theorem plain_plainPanel (memory : Fin 240 × Fin 320 → UInt16) : (plainPanel memory).Plain :=
  ⟨⟨rfl, rfl, rfl⟩, rfl, rfl⟩

/-- A font with the same image everywhere. -/
def barFont : UInt32 → Option FontImage :=
  fun _ => some ⟨⟨3, 20⟩, fun _ => 0x40⟩

theorem barFont_sized : SizedFont (shapeOf barFont) := by
  intro fontIndex _
  show 1 ≤ (3 : UInt16).toNat ∧ (3 : UInt16).toNat ≤ 20 ∧ (20 : UInt16).toNat = 20
  decide

theorem fits_letters : Fits [108, 108] 10 60 where
  drawable := .ascii (by decide) (.ascii (by decide) .empty)
  short := by decide
  inLine := by decide
  room := by decide

/-- The panel with its light, and the colour of the background. -/
structure ScreenPanel (lcd : LcdController) where
  panel : Panel lcd
  backLight : Bool
  s_backgroud_color : UInt16

/-- A call of one of the functions of `lcd_touch.h`, behind the initialization.  A text
comes with what stands behind its terminator. -/
inductive ScreenCall where
  | LcdTouch_ResetBackground (granted : Granted)
  | LcdTouch_DrawString (text behind : List UInt8) (x y : UInt32) (granted : Nat → Granted)
  | LcdTouch_TurnOn
  | LcdTouch_TurnOff

section Calls

variable {lcd : LcdController}

def switchDisplay (on : Bool) (before : ScreenPanel lcd) (sent : Sent) :
    Option (ScreenPanel lcd) :=
  match panel_ili9341_disp_on_off before.panel sent on with
  | (true, after) => some { before with panel := after, backLight := on }
  | (false, _) => none

/-- One call, with the commands that are sent for its transfers. -/
def screenPanelNext (font : UInt32 → Option FontImage) (before : ScreenPanel lcd)
    (action : ScreenCall × (Nat → Sent)) : Option (ScreenPanel lcd) :=
  match action.1 with
  | .LcdTouch_ResetBackground granted =>
      let filled := LcdTouch_ResetBackground true granted before.s_backgroud_color
      (transferAll before.panel action.2 filled.transfers).map fun panel =>
        { before with panel := panel, s_backgroud_color := filled.s_backgroud_color }
  | .LcdTouch_DrawString text behind x y granted =>
      (LcdTouch_DrawString_results font before.s_backgroud_color true granted
        (text ++ 0 :: behind) x y).bind fun results =>
          (transferAll before.panel action.2 (results.flatMap DrawTextResult.transfers)).map
            fun panel => { before with panel := panel }
  | .LcdTouch_TurnOn => switchDisplay true before (action.2 0)
  | .LcdTouch_TurnOff => switchDisplay false before (action.2 0)

end Calls

/-- A text that is drawn fits. -/
def ScreenCall.Fits : ScreenCall → Prop
  | .LcdTouch_DrawString text _ x y _ => Display.Fits text x y
  | _ => True

/-- No buffer of a glyph is refused alone. -/
def ScreenCall.Buffered : ScreenCall → Prop
  | .LcdTouch_DrawString _ _ _ _ granted => ∀ glyph, (granted glyph).Buffered
  | _ => True

/-- The stamps of one call. -/
def callStamps (font : UInt32 → Option FontImage) (s_backgroud_color : UInt16) :
    ScreenCall → List (Raster.Stamp UInt16)
  | .LcdTouch_ResetBackground granted =>
      if granted = ⟨true, true⟩ then [screenStamp s_backgroud_color] else []
  | .LcdTouch_DrawString text _ x y granted =>
      textStamps font s_backgroud_color granted 0
        (place (shapeOf font) 0 ⟨x.toUInt16, y.toUInt16⟩ (unitsOf text))
  | .LcdTouch_TurnOn | .LcdTouch_TurnOff => []

/-- What was switched last. -/
def switched (on : Bool) : ScreenCall → Bool
  | .LcdTouch_TurnOn => true
  | .LcdTouch_TurnOff => false
  | _ => on

/-- The stamps since the last reset that was granted. -/
def stampsNext (font : UInt32 → Option FontImage) (s_backgroud_color : UInt16)
    (before : List (Raster.Stamp UInt16)) : ScreenCall → List (Raster.Stamp UInt16)
  | .LcdTouch_ResetBackground granted => if granted = ⟨true, true⟩ then [] else before
  | .LcdTouch_DrawString text _ x y granted =>
      before ++ textStamps font s_backgroud_color granted 0
        (place (shapeOf font) 0 ⟨x.toUInt16, y.toUInt16⟩ (unitsOf text))
  | .LcdTouch_TurnOn | .LcdTouch_TurnOff => before

section Calls

variable {lcd : LcdController} {font : UInt32 → Option FontImage} {before after : ScreenPanel lcd}
  {stamps : List (Raster.Stamp UInt16)} {sent : Nat → Sent}

/-- What a call that has returned has done. -/
structure Called (font : UInt32 → Option FontImage) (before after : ScreenPanel lcd)
    (call : ScreenCall) : Prop where
  plain : after.panel.Plain
  view : after.panel.view =
    { before.panel.view.paintAll (callStamps font before.s_backgroud_color call) with
      on := switched before.panel.view.on call }
  backLight : after.backLight = switched before.backLight call
  s_backgroud_color : after.s_backgroud_color = before.s_backgroud_color

theorem called_reset (documented : lcd.Documented) (plain : before.panel.Plain)
    {granted : Granted}
    (moved : screenPanelNext font before (.LcdTouch_ResetBackground granted, sent) = some after) :
    Called font before after (.LcdTouch_ResetBackground granted) := by
  rcases Option.map_eq_some_iff.mp moved with ⟨panel, returned, same⟩
  subst same
  by_cases all : granted = ⟨true, true⟩
  · subst all
    have fills := LcdToudh_FillBackground_paints documented before.s_backgroud_color
      before.s_backgroud_color
    rcases fills.painted plain returned with ⟨plain', view⟩
    exact ⟨plain', view, rfl, rfl⟩
  · have refused := LcdTouch_ResetBackground_refused all before.s_backgroud_color
    have stamps : callStamps font before.s_backgroud_color (.LcdTouch_ResetBackground granted) =
        [] := if_neg all
    rw [refused] at returned
    cases returned
    refine ⟨plain, ?_, rfl, ?_⟩
    · rw [stamps]
      rfl
    · rw [refused]

theorem called_draw (documented : lcd.Documented) (sized : SizedFont (shapeOf font))
    (plain : before.panel.Plain) {text behind : List UInt8} {x y : UInt32}
    {granted : Nat → Granted} (fits : Fits text x y)
    (moved : screenPanelNext font before (.LcdTouch_DrawString text behind x y granted, sent) =
      some after) :
    Called font before after (.LcdTouch_DrawString text behind x y granted) := by
  rcases drawString_pictured documented sized fits before.s_backgroud_color granted behind with
    ⟨draws, results, drawn, called, pictured⟩
  rw [LcdTouch_DrawString_eq _ fits.drawable.nulFree, Option.some.injEq] at drawn
  rcases Option.bind_eq_some_iff.mp moved with ⟨results', called', moved⟩
  rw [called] at called'
  cases called'
  rcases Option.map_eq_some_iff.mp moved with ⟨panel, returned, same⟩
  subst same
  rcases pictured.paints.painted plain returned with ⟨plain', view⟩
  rw [← drawn] at view
  exact ⟨plain', view, rfl, rfl⟩

theorem switchDisplay_eq (on : Bool) (before : ScreenPanel lcd) (sent : Sent) :
    switchDisplay on before sent =
      if sent 0 then
        some { before with
          panel := (panel_ili9341_disp_on_off before.panel sent on).2
          backLight := on }
      else none := by
  rw [switchDisplay, panel_ili9341_disp_on_off]
  simp only [txParams_single]
  cases sent 0 <;> rfl

theorem called_switch (documented : lcd.Documented) (plain : before.panel.Plain) {on : Bool}
    {sent : Sent} (moved : switchDisplay on before sent = some after) :
    Called font before after (if on then .LcdTouch_TurnOn else .LcdTouch_TurnOff) := by
  have follows := panel_ili9341_disp_on_off_view documented plain.ready sent on
  rw [switchDisplay_eq] at moved
  by_cases delivered : sent 0 = true
  · rw [if_pos delivered] at moved
    rw [if_pos delivered] at follows
    cases moved
    cases on <;> exact ⟨⟨follows.ready, plain.x_gap, plain.y_gap⟩, follows.view, rfl, rfl⟩
  · rw [if_neg delivered] at moved
    cases moved

/-- One call. -/
theorem screenPanelNext_called (documented : lcd.Documented) (sized : SizedFont (shapeOf font))
    (plain : before.panel.Plain) {call : ScreenCall} (fits : call.Fits)
    (moved : screenPanelNext font before (call, sent) = some after) :
    Called font before after call := by
  cases call with
  | LcdTouch_ResetBackground granted => exact called_reset documented plain moved
  | LcdTouch_DrawString text behind x y granted =>
      exact called_draw documented sized plain fits moved
  | LcdTouch_TurnOn => exact called_switch documented plain moved
  | LcdTouch_TurnOff => exact called_switch documented plain moved

/-- The cells of the panel within the screen show stamps on the background. -/
structure ShowsStamps (state : ScreenPanel lcd) (stamps : List (Raster.Stamp UInt16)) : Prop where
  plain : state.panel.Plain
  seen : ∀ cell, OnScreen (state.panel.view.place cell) →
    state.panel.view.memory cell =
      Raster.paintAll (fun _ _ => state.s_backgroud_color) stamps
        (state.panel.view.place cell).1 (state.panel.view.place cell).2

theorem ShowsStamps.congr {stamps' : List (Raster.Stamp UInt16)}
    (shows : ShowsStamps before stamps)
    (same : ∀ canvas, Raster.paintAll canvas stamps = Raster.paintAll canvas stamps') :
    ShowsStamps before stamps' where
  plain := shows.plain
  seen := by
    intro cell onScreen
    rw [shows.seen cell onScreen, same]

/-- What no call changes. -/
structure SameSettings (before after : ScreenPanel lcd) : Prop where
  s_backgroud_color : after.s_backgroud_color = before.s_backgroud_color
  requested : after.panel.view.requested = before.panel.view.requested
  shown : after.panel.view.shown = before.panel.view.shown

namespace SameSettings

theorem refl (screen : ScreenPanel lcd) : SameSettings screen screen := ⟨rfl, rfl, rfl⟩

theorem trans {middle : ScreenPanel lcd} (first : SameSettings before middle)
    (second : SameSettings middle after) : SameSettings before after :=
  ⟨second.s_backgroud_color.trans first.s_backgroud_color, second.requested.trans first.requested,
    second.shown.trans first.shown⟩

theorem of_called {call : ScreenCall} (called : Called font before after call) :
    SameSettings before after := by
  refine ⟨called.s_backgroud_color, ?_, ?_⟩
  · rw [called.view]
    rfl
  · rw [called.view]
    rfl

/-- The cells stand where they stood. -/
theorem place (same : SameSettings before after) (cell : lcd.Cell) :
    after.panel.view.place cell = before.panel.view.place cell := by
  rw [PanelView.place, same.shown, PanelView.place]

end SameSettings

/-- Painting on what is shown paints behind the stamps. -/
theorem ShowsStamps.paint (shows : ShowsStamps before stamps)
    {added : List (Raster.Stamp UInt16)} (plain : after.panel.Plain)
    (color : after.s_backgroud_color = before.s_backgroud_color)
    (place : after.panel.view.place = before.panel.view.place)
    (memory : after.panel.view.memory = (before.panel.view.paintAll added).memory) :
    ShowsStamps after (stamps ++ added) where
  plain := plain
  seen := by
    intro cell onScreen
    rw [place] at onScreen ⊢
    rw [memory, color, Raster.paintAll_append]
    exact Raster.paintCells_canvas added (shows.seen cell onScreen)

/-- Nothing below a stamp of the whole screen is seen. -/
theorem ShowsStamps.screen
    (shows : ShowsStamps before (stamps ++ [screenStamp before.s_backgroud_color])) :
    ShowsStamps before [] where
  plain := shows.plain
  seen := by
    intro cell onScreen
    have covers := screenStamp_covers before.s_backgroud_color onScreen
    rw [shows.seen cell onScreen, Raster.paintAll_append]
    exact Raster.paint_covered _ covers

/-- One call keeps the screen what the stamps make of it. -/
theorem ShowsStamps.step (shows : ShowsStamps before stamps) {call : ScreenCall}
    (called : Called font before after call) :
    ShowsStamps after (stampsNext font before.s_backgroud_color stamps call) := by
  have memory := congrArg PanelView.memory called.view
  have painted := shows.paint called.plain called.s_backgroud_color
    (funext (SameSettings.of_called called).place) memory
  cases call with
  | LcdTouch_ResetBackground granted =>
      by_cases all : granted = ⟨true, true⟩
      · rw [callStamps, if_pos all, ← called.s_backgroud_color] at painted
        rw [stampsNext, if_pos all]
        exact painted.screen
      · rw [callStamps, if_neg all, List.append_nil] at painted
        rw [stampsNext, if_neg all]
        exact painted
  | LcdTouch_DrawString text behind x y granted => exact painted
  | LcdTouch_TurnOn | LcdTouch_TurnOff =>
      rw [callStamps, List.append_nil] at painted
      exact painted

/-- A call whose commands are sent returns, if no buffer is refused alone. -/
theorem screenPanelNext_returns (documented : lcd.Documented) (sized : SizedFont (shapeOf font))
    (plain : before.panel.Plain) {call : ScreenCall} (fits : call.Fits)
    (buffered : call.Buffered) (delivered : ∀ number, Delivered (sent number)) :
    ∃ after, screenPanelNext font before (call, sent) = some after := by
  have switches (on : Bool) : ∃ after, switchDisplay on before (sent 0) = some after := by
    rw [switchDisplay_eq, if_pos (delivered 0).1]
    exact ⟨_, rfl⟩
  cases call with
  | LcdTouch_ResetBackground granted =>
      by_cases all : granted = ⟨true, true⟩
      · subst all
        rcases (LcdToudh_FillBackground_paints documented before.s_backgroud_color
          before.s_backgroud_color).finished sent plain
            (LcdToudh_FillBackground_allocated _ _ _) (fun number _ => delivered number) with
          ⟨panel, returned⟩
        have reset : transferAll before.panel sent (LcdTouch_ResetBackground true ⟨true, true⟩
            before.s_backgroud_color).transfers = some panel := returned
        simp only [screenPanelNext, reset, Option.map_some]
        exact ⟨_, rfl⟩
      · simp only [screenPanelNext, LcdTouch_ResetBackground_refused all, transferAll,
          Option.map_some]
        exact ⟨_, rfl⟩
  | LcdTouch_DrawString text behind x y granted =>
      rcases drawString_pictured documented sized fits before.s_backgroud_color granted behind with
        ⟨draws, results, drawn, called, pictured⟩
      rcases pictured.paints.finished sent plain (pictured.allocated buffered)
        (fun number _ => delivered number) with ⟨panel, returned⟩
      simp only [screenPanelNext, called, Option.bind_some, returned, Option.map_some]
      exact ⟨_, rfl⟩
  | LcdTouch_TurnOn => exact switches true
  | LcdTouch_TurnOff => exact switches false

theorem screen_finishes (documented : lcd.Documented) (sized : SizedFont (shapeOf font))
    (plain : before.panel.Plain) (actions : List (ScreenCall × (Nat → Sent)))
    (fits : ∀ action ∈ actions, action.1.Fits) (buffered : ∀ action ∈ actions, action.1.Buffered)
    (delivered : ∀ action ∈ actions, ∀ number, Delivered (action.2 number)) :
    ∃ after, Transition.run (screenPanelNext font) before actions = some after := by
  induction actions generalizing before with
  | nil => exact ⟨before, rfl⟩
  | cons action rest ih =>
      rw [List.forall_mem_cons] at fits buffered delivered
      rcases screenPanelNext_returns documented sized plain fits.1 buffered.1 delivered.1 with
        ⟨middle, moved⟩
      have called := screenPanelNext_called documented sized plain fits.1 moved
      rcases ih called.plain fits.2 buffered.2 delivered.2 with ⟨after, executed⟩
      refine ⟨after, ?_⟩
      rw [Transition.run, Option.bind_eq_some_iff]
      exact ⟨middle, moved, executed⟩

theorem screen_shows (documented : lcd.Documented) (sized : SizedFont (shapeOf font))
    (shows : ShowsStamps before stamps) {actions : List (ScreenCall × (Nat → Sent))}
    (fits : ∀ action ∈ actions, action.1.Fits)
    (executed : Transition.run (screenPanelNext font) before actions = some after) :
    ShowsStamps after ((actions.map Prod.fst).foldl
        (stampsNext font before.s_backgroud_color) stamps) ∧
      SameSettings before after := by
  induction actions generalizing before stamps with
  | nil =>
      cases executed
      exact ⟨shows, SameSettings.refl _⟩
  | cons action rest ih =>
      rw [List.forall_mem_cons] at fits
      rw [Transition.run, Option.bind_eq_some_iff] at executed
      rcases executed with ⟨middle, moved, executed⟩
      have called := screenPanelNext_called documented sized shows.plain fits.1 moved
      rcases ih (shows.step called) fits.2 executed with ⟨shows', same⟩
      rw [called.s_backgroud_color] at shows'
      exact ⟨shows', (SameSettings.of_called called).trans same⟩

/-- A sequence of calls adds stamps, and removes all earlier ones or none. -/
theorem foldl_stampsNext (font : UInt32 → Option FontImage) (s_backgroud_color : UInt16)
    (calls : List ScreenCall) :
    ∃ (kept : Bool) (added : List (Raster.Stamp UInt16)), ∀ stamps,
      calls.foldl (stampsNext font s_backgroud_color) stamps =
        (if kept then stamps else []) ++ added := by
  induction calls with
  | nil => exact ⟨true, [], fun stamps => (List.append_nil stamps).symm⟩
  | cons call rest ih =>
      rcases ih with ⟨kept, added, later⟩
      cases call with
      | LcdTouch_ResetBackground granted =>
          by_cases all : granted = ⟨true, true⟩
          · refine ⟨false, added, ?_⟩
            intro stamps
            rw [List.foldl_cons, later, stampsNext, if_pos all, ite_self]
            rfl
          · refine ⟨kept, added, ?_⟩
            intro stamps
            rw [List.foldl_cons, later, stampsNext, if_neg all]
      | LcdTouch_DrawString text behind x y granted =>
          refine ⟨kept, (if kept then textStamps font s_backgroud_color granted 0
            (place (shapeOf font) 0 ⟨x.toUInt16, y.toUInt16⟩ (unitsOf text)) else []) ++ added, ?_⟩
          intro stamps
          rw [List.foldl_cons, later, stampsNext]
          cases kept with
          | true => exact List.append_assoc _ _ _
          | false => rfl
      | LcdTouch_TurnOn => exact ⟨kept, added, later⟩
      | LcdTouch_TurnOff => exact ⟨kept, added, later⟩

/-- Every picture has the two colours of a text. -/
def TwoColours (s_backgroud_color : UInt16) (stamps : List (Raster.Stamp UInt16)) : Prop :=
  ∀ stamp ∈ stamps, ∀ x y,
    stamp.picture x y = LT_FONT_COLOR ∨ stamp.picture x y = s_backgroud_color

theorem twoColours_textStamps (s_backgroud_color : UInt16) (granted : Nat → Granted) (glyph : Nat)
    (draws : List GlyphDraw) :
    TwoColours s_backgroud_color (textStamps font s_backgroud_color granted glyph draws) := by
  induction draws generalizing glyph with
  | nil =>
      intro stamp member
      cases member
  | cons draw rest ih =>
      intro stamp member x y
      rw [textStamps, List.mem_append] at member
      rcases member with here | later
      · cases found : font draw.fontIndex with
        | none =>
            simp only [found] at here
            cases here
        | some image =>
            simp only [found] at here
            split at here
            · rw [List.mem_singleton.mp here]
              exact ite_eq_or_eq _ _ _
            · cases here
      · exact ih (glyph + 1) stamp later x y

end Calls

/-- A panel that shows nothing but the background. -/
def blankPanel (color : UInt16) : ScreenPanel ILI9341 :=
  ⟨plainPanel fun _ => color, false, color⟩

theorem blankPanel_shows (color : UInt16) : ShowsStamps (blankPanel color) [] :=
  ⟨plain_plainPanel _, fun _ _ => rfl⟩

/-- A text, a refused reset, and the text again with its second letter refused. -/
def screenCalls : List (ScreenCall × (Nat → Sent)) :=
  [(.LcdTouch_DrawString [108, 108] [] 10 60 fun _ => ⟨true, true⟩, fun _ _ => true),
    (.LcdTouch_ResetBackground ⟨false, true⟩, fun _ _ => true),
    (.LcdTouch_DrawString [108, 108] [97] 10 60 fun glyph => ⟨true, glyph == 0⟩, fun _ _ => true)]

theorem screenCalls_fit : ∀ action ∈ screenCalls, action.1.Fits := by
  unfold screenCalls
  rw [List.forall_mem_cons, List.forall_mem_cons, List.forall_mem_singleton]
  exact ⟨fits_letters, True.intro, fits_letters⟩

end Display
end ToothVoca
