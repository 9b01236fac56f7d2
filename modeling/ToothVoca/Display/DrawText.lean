import ToothVoca.Display.DrawString
import ToothVoca.Display.FontImage

namespace ToothVoca
namespace Display

open Library

/-!
# The transfers of a glyph (`LcdTouch_DrawText`)

`LcdTouch_GetFontImageData` publishes the width and the height of a glyph before it
allocates the buffer of the pixels, and reports a refused allocation only by the
NULL pointer that it leaves.  `LcdToudh_DrawImageData` starts a transfer for each
row of the published height; its early return is for the semaphore.

Which allocations are granted is given from outside, for each glyph of a text
independently.  `textLoop` is the loop of `LcdTouch_DrawString` with
`LcdTouch_DrawText` executed in it, and `textLoop_eq` says that it draws the same
glyphs as `drawLoop`, each with its transfers.
-/

def LT_FONT_COLOR : UInt16 := 0xFFFF

structure text_data_t where
  color : UInt16
  start_x_pos : UInt16
  start_y_pos : UInt16
  fontIndex : UInt32
  textWidth : UInt32
  textHeight : UInt32
deriving DecidableEq, Repr

/-- The structure that `LcdTouch_DrawText` initializes; what it does not name is zero. -/
def text_data_t.imageData (text_data : text_data_t) : image_data_t where
  color := text_data.color
  data_buf := none
  buf_len := 0
  start_x_pos := text_data.start_x_pos
  start_y_pos := text_data.start_y_pos
  width_px := 0
  height_px := 0

/-- A call of `esp_lcd_panel_draw_bitmap`.  Its last argument points to an index of a
buffer, which is NULL where there is none. -/
structure DrawBitmap where
  x_start : Nat
  y_start : Nat
  x_end : Nat
  y_end : Nat
  data_buf : Option (Nat → UInt8)
  index : Nat

/-- Which allocations are granted for a glyph: the buffer of its pixels, and the
semaphore of its transfers. -/
structure Granted where
  buffer : Bool
  semaphore : Bool
deriving DecidableEq, Repr

section Calls

variable (font : UInt32 → Option FontImage) (s_backgroud_color : UInt16)

/-- The loop of `LcdToudh_DrawImageData`, with the given number of rows left. -/
def rowLoop (image_data : image_data_t) : Nat → Nat → Nat → List DrawBitmap
  | 0, _, _ => []
  | rows + 1, i, image_data_buf_idx =>
      let byte_per_pixel := LT_LCD_BIT_PER_PIXEL / 8
      { x_start := image_data.start_x_pos.toNat
        y_start := i
        x_end := image_data.start_x_pos.toNat + image_data.width_px.toNat
        y_end := i + 1
        data_buf := image_data.data_buf
        index := image_data_buf_idx } ::
        rowLoop image_data rows (i + 1)
          ((image_data_buf_idx + image_data.width_px.toNat * byte_per_pixel) % 2 ^ 32)

def LcdToudh_DrawImageData (granted : Granted) (image_data : image_data_t) : List DrawBitmap :=
  if granted.semaphore = false then []
  else rowLoop image_data image_data.height_px.toNat image_data.start_y_pos.toNat 0

/-- What `LcdTouch_DrawText` leaves: the data of the text, the filled structure, the
transfers and how often the buffer was released. -/
structure DrawTextResult where
  text_data : text_data_t
  image_data : image_data_t
  transfers : List DrawBitmap
  releases : Nat

def LcdTouch_DrawText (granted : Granted) (text_data : text_data_t) : Option DrawTextResult := do
  let drawn ← LcdTouch_GetFontImageData (font text_data.fontIndex) s_backgroud_color
    granted.buffer text_data.imageData
  return {
    text_data := { text_data with
      textWidth := drawn.image_data.width_px.toUInt32
      textHeight := drawn.image_data.height_px.toUInt32 }
    image_data := drawn.image_data
    transfers := LcdToudh_DrawImageData granted drawn.image_data
    releases := if drawn.image_data.data_buf.isSome then 1 else 0 }

/-- The position behind a glyph. -/
def text_data_t.advance (text_data : text_data_t) : text_data_t :=
  let start_x_pos :=
    (text_data.start_x_pos.toUInt32 + (text_data.textWidth + LT_X_SPACE_TEXT_PIXEL)).toUInt16
  if LT_LCD_H_RES - LT_HORIZONTAL_MARGIN.toNat ≤ start_x_pos.toNat then
    { text_data with
      start_x_pos := LT_HORIZONTAL_MARGIN
      start_y_pos := (text_data.start_y_pos.toUInt32 + text_data.textHeight +
        LT_Y_SPACE_TEXT_PIXEL).toUInt16 }
  else
    { text_data with start_x_pos := start_x_pos }

/-- The loop of `LcdTouch_DrawString`, with the number of the next glyph. -/
def textLoop (granted : Nat → Granted) (str : List UInt8) (str_len : Nat) :
    Nat → Nat → Nat → text_data_t → Option (List DrawTextResult)
  | 0, _, str_index, _ => if str_index < str_len then none else some []
  | fuel + 1, glyph, str_index, text_data =>
      if str_index < str_len then do
        let (unicode, out_len) ← ParserChar_GetUnicode (str.drop str_index)
        let drawn ← LcdTouch_DrawText font s_backgroud_color (granted glyph)
          { text_data with fontIndex := LcdTouch_GetFontIndexOfUnicode unicode }
        let rest ← textLoop granted str str_len fuel (glyph + 1) (str_index + out_len.toNat)
          drawn.text_data.advance
        return drawn :: rest
      else
        some []

/-- `LcdTouch_DrawString` with everything that it has the panel do. -/
def LcdTouch_DrawString_results (isInitDisplay : Bool) (granted : Nat → Granted)
    (str : List UInt8) (x y : UInt32) : Option (List DrawTextResult) :=
  if isInitDisplay = false then
    some []
  else
    textLoop font s_backgroud_color granted str (CString.strlen str) (CString.strlen str) 0 0
      ⟨LT_FONT_COLOR, x.toUInt16, y.toUInt16, 0, 0, 0⟩

end Calls

/-- The data of the text when a glyph is drawn.  The size is only written. -/
def GlyphDraw.text_data (draw : GlyphDraw) : text_data_t :=
  ⟨LT_FONT_COLOR, draw.start_x_pos, draw.start_y_pos, draw.fontIndex, 0, 0⟩

/-- The calls of `LcdTouch_DrawText` for given glyphs. -/
def drawTexts (font : UInt32 → Option FontImage) (s_backgroud_color : UInt16)
    (granted : Nat → Granted) : Nat → List GlyphDraw → Option (List DrawTextResult)
  | _, [] => some []
  | glyph, draw :: rest => do
      let drawn ← LcdTouch_DrawText font s_backgroud_color (granted glyph) draw.text_data
      let others ← drawTexts font s_backgroud_color granted (glyph + 1) rest
      return drawn :: others

/-- The image of a font as the loop sees it. -/
def shapeOf (font : UInt32 → Option FontImage) (fontIndex : UInt32) : tImage :=
  match font fontIndex with
  | some image => image.totImage
  | none => ⟨0, 0⟩

/-- The length of a glyph is an `int`, and its buffer is granted, unless no row of it
is transferred. -/
def Granted.Enough (granted : Granted) (image : FontImage) : Prop :=
  2 * (image.width.toNat * image.height.toNat) < 2 ^ 31 ∧
    (granted.buffer = true ∨ granted.semaphore = false ∨ image.height.toNat = 0)

instance (granted : Granted) (image : FontImage) : Decidable (granted.Enough image) :=
  inferInstanceAs (Decidable (_ ∧ _))

/-- What is asked of the transfers of a glyph, whose image and outcomes are given. -/
structure Transferred (image : FontImage) (granted : Granted) (result : DrawTextResult) :
    Prop where
  /-- Each transfer is one row of the glyph, out of the allocated buffer. -/
  rows : ∀ call ∈ result.transfers, ∃ row < image.height.toNat,
    call.x_start = result.text_data.start_x_pos.toNat ∧
      call.x_end = call.x_start + image.width.toNat ∧
      call.y_start = result.text_data.start_y_pos.toNat + row ∧ call.y_end = call.y_start + 1 ∧
      call.data_buf.isSome = true ∧ call.index = 2 * image.width.toNat * row ∧
      call.index + 2 * image.width.toNat ≤ result.image_data.buf_len
  refused : granted.buffer = false → result.transfers = []
  /-- However a transfer changes the panel, a refused glyph leaves it as it is. -/
  unchanged : granted.buffer = false →
    ∀ (Panel : Type) (transfer : Panel → DrawBitmap → Panel) (panel : Panel),
      result.transfers.foldl transfer panel = panel
  released : result.releases = if granted.buffer then 1 else 0

/-! ## One glyph -/

theorem length_rowLoop (image_data : image_data_t) (rows i image_data_buf_idx : Nat) :
    (rowLoop image_data rows i image_data_buf_idx).length = rows := by
  induction rows generalizing i image_data_buf_idx with
  | zero => rfl
  | succ rows ih => rw [rowLoop, List.length_cons, ih]

/-- The transfers of the loop, as long as the index does not wrap. -/
theorem mem_rowLoop {image_data : image_data_t} {rows i image_data_buf_idx : Nat}
    {call : DrawBitmap}
    (small : image_data_buf_idx + 2 * image_data.width_px.toNat * rows < 2 ^ 32)
    (member : call ∈ rowLoop image_data rows i image_data_buf_idx) :
    ∃ row < rows, call =
      { x_start := image_data.start_x_pos.toNat
        y_start := i + row
        x_end := image_data.start_x_pos.toNat + image_data.width_px.toNat
        y_end := i + row + 1
        data_buf := image_data.data_buf
        index := image_data_buf_idx + 2 * image_data.width_px.toNat * row } := by
  induction rows generalizing i image_data_buf_idx with
  | zero => cases member
  | succ rows ih =>
      rw [Nat.mul_succ] at small
      rw [rowLoop] at member
      rcases List.mem_cons.mp member with first | later
      · exact ⟨0, Nat.succ_pos rows, first⟩
      · have next : (image_data_buf_idx +
            image_data.width_px.toNat * (LT_LCD_BIT_PER_PIXEL / 8)) % 2 ^ 32 =
              image_data_buf_idx + 2 * image_data.width_px.toNat := by
          have double : image_data.width_px.toNat * (LT_LCD_BIT_PER_PIXEL / 8) =
              2 * image_data.width_px.toNat := Nat.mul_comm _ 2
          rw [double]
          apply Nat.mod_eq_of_lt
          omega
        rw [next] at later
        rcases ih (by omega) later with ⟨row, inside, shape⟩
        refine ⟨row + 1, Nat.succ_lt_succ inside, ?_⟩
        rw [shape, Nat.mul_succ]
        congr 1
        all_goals omega

section Glyph

variable {font : UInt32 → Option FontImage} {s_backgroud_color : UInt16} {granted : Granted}
  {text_data : text_data_t} {image : FontImage}

/-- No transfer of a glyph is started without a semaphore, and none for no rows. -/
theorem transfers_eq_nil_iff (image_data : image_data_t) :
    LcdToudh_DrawImageData granted image_data = [] ↔
      granted.semaphore = false ∨ image_data.height_px.toNat = 0 := by
  unfold LcdToudh_DrawImageData
  by_cases refused : granted.semaphore = false
  · rw [if_pos refused]
    exact iff_of_true rfl (Or.inl refused)
  · rw [if_neg refused, or_iff_right refused, ← List.length_eq_zero_iff, length_rowLoop]

/-- The transfers of a published glyph whose buffer is granted. -/
theorem rows_of_published {image_data : image_data_t}
    (fits : image.width.toNat * image.height.toNat * 2 < 2 ^ 31)
    (published : Published image true text_data.imageData image_data) :
    ∀ call ∈ LcdToudh_DrawImageData granted image_data, ∃ row < image.height.toNat,
      call.x_start = text_data.start_x_pos.toNat ∧
        call.x_end = call.x_start + image.width.toNat ∧
        call.y_start = text_data.start_y_pos.toNat + row ∧ call.y_end = call.y_start + 1 ∧
        call.data_buf.isSome = true ∧ call.index = 2 * image.width.toNat * row ∧
        call.index + 2 * image.width.toNat ≤ image_data.buf_len := by
  have length : image.width.toNat * image.height.toNat * 2 =
      2 * image.width.toNat * image.height.toNat := by
    rw [Nat.mul_comm, Nat.mul_assoc]
  intro call member
  unfold LcdToudh_DrawImageData at member
  split at member
  · cases member
  · rw [published.height_px] at member
    have small : 0 + 2 * image_data.width_px.toNat * image.height.toNat < 2 ^ 32 := by
      rw [published.width_px, ← length]
      omega
    rcases mem_rowLoop small member with ⟨row, inside, shape⟩
    have below := Nat.mul_le_mul_left (2 * image.width.toNat) inside
    rw [Nat.mul_succ] at below
    rw [shape, published.buf_len, published.width_px, published.start_x_pos,
      published.start_y_pos, length]
    refine ⟨row, inside, rfl, rfl, rfl, rfl, published.data_buf, Nat.zero_add _, ?_⟩
    simp only [Nat.zero_add]
    exact below

/-- The transfers of a glyph are as asked exactly when its length is an `int` and a
refused buffer is not met by a row to transfer. -/
theorem transferred_iff (found : font text_data.fontIndex = some image) :
    (∃ result, LcdTouch_DrawText font s_backgroud_color granted text_data = some result ∧
        Transferred image granted result) ↔
      granted.Enough image := by
  have asked : LcdTouch_DrawText font s_backgroud_color granted text_data =
      (LcdTouch_GetFontImageData (some image) s_backgroud_color granted.buffer
        text_data.imageData).bind fun drawn => some
          { text_data := { text_data with
              textWidth := drawn.image_data.width_px.toUInt32
              textHeight := drawn.image_data.height_px.toUInt32 }
            image_data := drawn.image_data
            transfers := LcdToudh_DrawImageData granted drawn.image_data
            releases := if drawn.image_data.data_buf.isSome then 1 else 0 } := by
    rw [LcdTouch_DrawText, found]
    rfl
  rw [asked]
  by_cases fits : image.width.toNat * image.height.toNat * 2 < 2 ^ 31
  · rcases LcdTouch_GetFontImageData_published image s_backgroud_color granted.buffer
      text_data.imageData fits with ⟨drawn, called, published⟩
    rw [called, Option.bind_some, Granted.Enough, and_iff_right (by omega)]
    constructor
    · rintro ⟨result, returned, transferred⟩
      cases returned
      cases buffer : granted.buffer with
      | true => exact Or.inl rfl
      | false =>
          have none := (transfers_eq_nil_iff _).mp (transferred.refused buffer)
          rw [published.height_px] at none
          exact Or.inr none
    · intro condition
      have refused : granted.buffer = false →
          LcdToudh_DrawImageData granted drawn.image_data = [] := by
        intro buffer
        rw [transfers_eq_nil_iff, published.height_px]
        rcases condition with buffer' | none
        · rw [buffer] at buffer'
          cases buffer'
        · exact none
      refine ⟨_, rfl, ?_, refused, ?_, ?_⟩
      · cases buffer : granted.buffer with
        | true =>
            rw [buffer] at published
            exact rows_of_published fits published
        | false =>
            intro call member
            rw [refused buffer] at member
            cases member
      · intro buffer Panel transfer panel
        simp only [refused buffer]
        rfl
      · simp only [published.data_buf]
  · rw [LcdTouch_GetFontImageData_overflow image s_backgroud_color granted.buffer _
      (Nat.le_of_not_lt fits)]
    constructor
    · rintro ⟨result, returned, _⟩
      cases returned
    · intro enough
      have fits' := enough.1
      exact absurd (by omega) fits

/-- The size that the loop goes on with is that of the image, granted or not. -/
theorem LcdTouch_DrawText_shape {result : DrawTextResult}
    (returned : LcdTouch_DrawText font s_backgroud_color granted text_data = some result) :
    result.text_data = { text_data with
      textWidth := (shapeOf font text_data.fontIndex).width.toUInt32
      textHeight := (shapeOf font text_data.fontIndex).height.toUInt32 } := by
  unfold LcdTouch_DrawText at returned
  unfold shapeOf
  cases found : font text_data.fontIndex with
  | none =>
      rw [found] at returned
      cases returned
      rfl
  | some image =>
      rw [found] at returned
      by_cases fits : image.width.toNat * image.height.toNat * 2 < 2 ^ 31
      · rcases LcdTouch_GetFontImageData_published image s_backgroud_color granted.buffer
          text_data.imageData fits with ⟨drawn, called, published⟩
        rw [called] at returned
        cases returned
        simp only [published.width_px, published.height_px]
      · rw [LcdTouch_GetFontImageData_overflow image s_backgroud_color granted.buffer _
          (Nat.le_of_not_lt fits)] at returned
        cases returned

end Glyph

/-! ## The loop against the one without transfers -/

section Texts

variable {font : UInt32 → Option FontImage} {s_backgroud_color : UInt16}
  {granted : Nat → Granted} {glyph : Nat}

theorem drawTexts_cons_none {draw : GlyphDraw}
    (called : LcdTouch_DrawText font s_backgroud_color (granted glyph) draw.text_data = none)
    (rest : List GlyphDraw) :
    drawTexts font s_backgroud_color granted glyph (draw :: rest) = none := by
  rw [drawTexts, called]
  rfl

theorem drawTexts_cons_some {draw : GlyphDraw} {drawn : DrawTextResult}
    (called : LcdTouch_DrawText font s_backgroud_color (granted glyph) draw.text_data =
      some drawn) (rest : List GlyphDraw) :
    drawTexts font s_backgroud_color granted glyph (draw :: rest) =
      (drawTexts font s_backgroud_color granted (glyph + 1) rest).bind fun others =>
        some (drawn :: others) := by
  rw [drawTexts, called]
  rfl

/-- Every glyph has its result, with a property that may depend on its number. -/
theorem drawTexts_iff {property : Nat → DrawTextResult → Prop} (draws : List GlyphDraw) :
    (∃ results, drawTexts font s_backgroud_color granted glyph draws = some results ∧
        ∀ number result, results[number]? = some result → property (glyph + number) result) ↔
      ∀ number draw, draws[number]? = some draw →
        ∃ result, LcdTouch_DrawText font s_backgroud_color (granted (glyph + number))
            draw.text_data = some result ∧ property (glyph + number) result := by
  induction draws generalizing glyph with
  | nil =>
      refine iff_of_true ⟨[], rfl, ?_⟩ ?_
      · intro number result found
        cases found
      · intro number draw found
        cases found
  | cons first rest ih =>
      have split : (∀ number draw, (first :: rest)[number]? = some draw →
          ∃ result, LcdTouch_DrawText font s_backgroud_color (granted (glyph + number))
            draw.text_data = some result ∧ property (glyph + number) result) ↔
          (∃ result, LcdTouch_DrawText font s_backgroud_color (granted glyph) first.text_data =
            some result ∧ property glyph result) ∧
          ∀ number draw, rest[number]? = some draw →
            ∃ result, LcdTouch_DrawText font s_backgroud_color (granted (glyph + 1 + number))
              draw.text_data = some result ∧ property (glyph + 1 + number) result := by
        rw [← Nat.and_forall_add_one]
        simp only [List.getElem?_cons_zero, List.getElem?_cons_succ, Option.some.injEq,
          forall_eq', Nat.add_zero, Nat.add_assoc, Nat.add_comm 1]
      rw [split, ← ih]
      cases called : LcdTouch_DrawText font s_backgroud_color (granted glyph) first.text_data with
      | none =>
          rw [drawTexts_cons_none called]
          refine iff_of_false ?_ ?_
          · rintro ⟨results, returned, _⟩
            cases returned
          · rintro ⟨⟨result, returned, _⟩, _⟩
            cases returned
      | some drawn =>
          rw [drawTexts_cons_some called]
          constructor
          · rintro ⟨results, returned, each⟩
            rcases Option.bind_eq_some_iff.mp returned with ⟨others, later, whole⟩
            cases whole
            refine ⟨⟨drawn, rfl, each 0 drawn rfl⟩, others, later, ?_⟩
            intro number result found
            have here := each (number + 1) result found
            rwa [Nat.add_comm number, ← Nat.add_assoc] at here
          · rintro ⟨⟨result, returned, here⟩, others, later, each⟩
            cases returned
            refine ⟨drawn :: others, by rw [later]; rfl, ?_⟩
            intro number result found
            cases number with
            | zero =>
                cases found
                exact here
            | succ number =>
                have there := each number result found
                rwa [Nat.add_assoc, Nat.add_comm 1] at there

theorem drawTexts_zero_iff {property : Nat → DrawTextResult → Prop} (draws : List GlyphDraw) :
    (∃ results, drawTexts font s_backgroud_color granted 0 draws = some results ∧
        ∀ number result, results[number]? = some result → property number result) ↔
      ∀ number draw, draws[number]? = some draw →
        ∃ result, LcdTouch_DrawText font s_backgroud_color (granted number) draw.text_data =
            some result ∧ property number result := by
  have each := @drawTexts_iff font s_backgroud_color granted 0 property draws
  simp only [Nat.zero_add] at each
  exact each

end Texts

section Loop

variable (font : UInt32 → Option FontImage) (s_backgroud_color : UInt16)
  (granted : Nat → Granted)

theorem advance_pen (text_data : text_data_t) (image : tImage)
    (width : text_data.textWidth = image.width.toUInt32)
    (height : text_data.textHeight = image.height.toUInt32) :
    Pen.mk text_data.advance.start_x_pos text_data.advance.start_y_pos =
      (Pen.mk text_data.start_x_pos text_data.start_y_pos).advance image := by
  unfold text_data_t.advance Pen.advance
  rw [width, height]
  simp only []
  split <;> rfl

theorem advance_color (text_data : text_data_t) :
    text_data.advance.color = text_data.color := by
  unfold text_data_t.advance
  simp only []
  split <;> rfl

/-- The loop draws the glyphs of the loop without transfers, each with its own. -/
theorem textLoop_eq (str : List UInt8) (str_len fuel glyph str_index : Nat)
    (text_data : text_data_t) (color : text_data.color = LT_FONT_COLOR) :
    textLoop font s_backgroud_color granted str str_len fuel glyph str_index text_data =
      (drawLoop (shapeOf font) str str_len fuel str_index
        ⟨text_data.start_x_pos, text_data.start_y_pos⟩).bind
          (drawTexts font s_backgroud_color granted glyph) := by
  induction fuel generalizing glyph str_index text_data with
  | zero =>
      rw [textLoop, drawLoop]
      split <;> rfl
  | succ fuel ih =>
      rw [textLoop, drawLoop]
      by_cases more : str_index < str_len
      · rw [if_pos more, if_pos more]
        cases decoded : ParserChar_GetUnicode (str.drop str_index) with
        | none => rfl
        | some decoding =>
            rcases decoding with ⟨unicode, out_len⟩
            -- The size that stands in the structure from the glyph before is not read.
            have same : LcdTouch_DrawText font s_backgroud_color (granted glyph)
                { text_data with fontIndex := LcdTouch_GetFontIndexOfUnicode unicode } =
                  LcdTouch_DrawText font s_backgroud_color (granted glyph)
                    ⟨LT_FONT_COLOR, text_data.start_x_pos, text_data.start_y_pos,
                      LcdTouch_GetFontIndexOfUnicode unicode, 0, 0⟩ := by
              rw [← color]
              rfl
            simp only [Option.bind_eq_bind, Option.bind_some, same]
            cases called : LcdTouch_DrawText font s_backgroud_color (granted glyph)
                ⟨LT_FONT_COLOR, text_data.start_x_pos, text_data.start_y_pos,
                  LcdTouch_GetFontIndexOfUnicode unicode, 0, 0⟩ with
            | none =>
                cases drawLoop (shapeOf font) str str_len fuel (str_index + out_len.toNat)
                  ((Pen.mk text_data.start_x_pos text_data.start_y_pos).advance
                    (shapeOf font (LcdTouch_GetFontIndexOfUnicode unicode))) with
                | none => rfl
                | some rest => exact (drawTexts_cons_none called rest).symm
            | some drawn =>
                have shape := LcdTouch_DrawText_shape called
                have pen := advance_pen drawn.text_data
                  (shapeOf font (LcdTouch_GetFontIndexOfUnicode unicode)) (by rw [shape])
                  (by rw [shape])
                have step := ih (glyph + 1) (str_index + out_len.toNat) drawn.text_data.advance
                  (by rw [advance_color, shape])
                rw [pen, shape] at step
                rw [Option.bind_some, shape, step]
                cases drawLoop (shapeOf font) str str_len fuel (str_index + out_len.toNat)
                  ((Pen.mk text_data.start_x_pos text_data.start_y_pos).advance
                    (shapeOf font (LcdTouch_GetFontIndexOfUnicode unicode))) with
                | none => rfl
                | some rest => exact (drawTexts_cons_some called rest).symm
      · rw [if_neg more, if_neg more]
        rfl

end Loop

/-- All glyphs of a text are transferred as asked. -/
def AllTransferred (font : UInt32 → Option FontImage) (granted : Nat → Granted)
    (results : List DrawTextResult) : Prop :=
  ∀ glyph result, results[glyph]? = some result →
    ∀ image, font result.text_data.fontIndex = some image →
      Transferred image (granted glyph) result

/-- Enough is granted for every glyph of a text. -/
def BuffersGranted (font : UInt32 → Option FontImage) (granted : Nat → Granted)
    (text : List UInt8) : Prop :=
  ∀ glyph unit, (unitsOf text)[glyph]? = some unit →
    ∀ image, font (LcdTouch_GetFontIndexOfUnicode unit.code) = some image →
      (granted glyph).Enough image

/-- A call for a glyph, whether or not the font has an image for it. -/
theorem drawText_iff (font : UInt32 → Option FontImage) (s_backgroud_color : UInt16)
    (granted : Granted) (text_data : text_data_t) :
    (∃ result, LcdTouch_DrawText font s_backgroud_color granted text_data = some result ∧
        ∀ image, font result.text_data.fontIndex = some image →
          Transferred image granted result) ↔
      ∀ image, font text_data.fontIndex = some image → granted.Enough image := by
  have kept {result : DrawTextResult}
      (returned : LcdTouch_DrawText font s_backgroud_color granted text_data = some result) :
      result.text_data.fontIndex = text_data.fontIndex := by
    rw [LcdTouch_DrawText_shape returned]
  cases found : font text_data.fontIndex with
  | none =>
      refine iff_of_true ?_ (fun image found => by cases found)
      have returned : ∃ result,
          LcdTouch_DrawText font s_backgroud_color granted text_data = some result := by
        rw [LcdTouch_DrawText, found]
        exact ⟨_, rfl⟩
      rcases returned with ⟨result, returned⟩
      refine ⟨result, returned, ?_⟩
      intro image found'
      rw [kept returned, found] at found'
      cases found'
  | some image =>
      have one := @transferred_iff font s_backgroud_color granted text_data image found
      constructor
      · rintro ⟨result, returned, transferred⟩ image' same
        cases same
        exact one.mp ⟨result, returned, transferred image (by rw [kept returned, found])⟩
      · intro condition
        rcases one.mpr (condition image rfl) with ⟨result, returned, transferred⟩
        refine ⟨result, returned, ?_⟩
        intro image' found'
        rw [kept returned, found] at found'
        cases found'
        exact transferred

/-- A property of numbered elements, asked of a list or of its image. -/
theorem forall_getElem?_map {Element Image : Type} (image : Element → Image)
    (property : Nat → Image → Prop) (elements : List Element) :
    (∀ number value, (elements.map image)[number]? = some value → property number value) ↔
      ∀ number element, elements[number]? = some element → property number (image element) := by
  simp only [List.getElem?_map, Option.map_eq_some_iff, forall_exists_index, and_imp,
    forall_apply_eq_imp_iff₂]

/-- The results of a terminated string are those of its units. -/
theorem LcdTouch_DrawString_results_eq {text : List UInt8} (free : CString.NulFree text)
    (font : UInt32 → Option FontImage) (s_backgroud_color : UInt16) (granted : Nat → Granted)
    (behind : List UInt8) (x y : UInt32) :
    LcdTouch_DrawString_results font s_backgroud_color true granted (text ++ 0 :: behind) x y =
      drawTexts font s_backgroud_color granted 0
        (place (shapeOf font) 0 ⟨x.toUInt16, y.toUInt16⟩ (unitsOf text)) := by
  have drawn := LcdTouch_DrawString_eq (shapeOf font) free behind x y
  rw [LcdTouch_DrawString, if_neg (by decide)] at drawn
  rw [LcdTouch_DrawString_results, if_neg (by decide), textLoop_eq _ _ _ _ _ _ _ _ _ rfl, drawn,
    Option.bind_some]

/-- Whatever is granted, the transfers of a whole text are rows of its glyphs out of
their buffers, and none for a refused one, exactly when the buffers are
granted. -/
theorem drawString_transferred_iff (text : List UInt8) (free : CString.NulFree text)
    (font : UInt32 → Option FontImage) (s_backgroud_color : UInt16) (granted : Nat → Granted)
    (behind : List UInt8) (x y : UInt32) :
    (∃ results, LcdTouch_DrawString_results font s_backgroud_color true granted
        (text ++ 0 :: behind) x y = some results ∧ AllTransferred font granted results) ↔
      BuffersGranted font granted text := by
  have indices := map_fontIndex_place (shapeOf font) 0 ⟨x.toUInt16, y.toUInt16⟩ (unitsOf text)
  have asked := forall_getElem?_map GlyphDraw.fontIndex
    (fun glyph fontIndex => ∀ image, font fontIndex = some image → (granted glyph).Enough image)
    (place (shapeOf font) 0 ⟨x.toUInt16, y.toUInt16⟩ (unitsOf text))
  rw [indices, forall_getElem?_map] at asked
  rw [LcdTouch_DrawString_results_eq free]
  unfold AllTransferred BuffersGranted
  rw [drawTexts_zero_iff]
  simp only [drawText_iff]
  exact asked.symm

/-- A glyph of three columns whose buffer is granted, and one without a semaphore. -/
theorem drawString_transferred_iff_granted :
    ∃ results, LcdTouch_DrawString_results (fun _ => some ⟨⟨3, 20⟩, fun _ => 0x40⟩) 0 true
        (fun glyph => ⟨glyph == 0, glyph == 0⟩) ([108, 108] ++ 0 :: []) 10 60 = some results ∧
      AllTransferred (fun _ => some ⟨⟨3, 20⟩, fun _ => 0x40⟩)
        (fun glyph => ⟨glyph == 0, glyph == 0⟩) results := by
  refine (drawString_transferred_iff [108, 108] (by decide)
    (fun _ => some ⟨⟨3, 20⟩, fun _ => 0x40⟩) 0 (fun glyph => ⟨glyph == 0, glyph == 0⟩) [] 10
    60).mpr ?_
  intro glyph unit _ image found
  cases found
  cases glyph with
  | zero => decide
  | succ glyph => exact ⟨by decide, Or.inr (Or.inl rfl)⟩

/-- A row is transferred from the NULL pointer. -/
theorem drawString_not_transferred :
    ¬ ∀ text : List UInt8, CString.NulFree text →
      ∀ (font : UInt32 → Option FontImage) (s_backgroud_color : UInt16)
        (granted : Nat → Granted) (behind : List UInt8) (x y : UInt32),
        ∃ results, LcdTouch_DrawString_results font s_backgroud_color true granted
            (text ++ 0 :: behind) x y = some results ∧ AllTransferred font granted results := by
  intro always
  rcases always [108] (by decide) (fun _ => some ⟨⟨3, 1⟩, fun _ => 0x40⟩) 0
    (fun _ => ⟨false, true⟩) [] 10 60 with ⟨results, returned, transferred⟩
  have counted : (LcdTouch_DrawString_results (fun _ => some ⟨⟨3, 1⟩, fun _ => 0x40⟩) 0 true
      (fun _ => ⟨false, true⟩) ([108] ++ 0 :: []) 10 60).map
        (List.map fun result => result.transfers.length) = some [1] := by
    decide +kernel
  rw [returned, Option.map_some, Option.some.injEq] at counted
  cases results with
  | nil => cases counted
  | cons result rest =>
      have none := (transferred 0 result rfl ⟨⟨3, 1⟩, fun _ => 0x40⟩ rfl).refused rfl
      rw [List.map_cons, none] at counted
      cases (List.cons.inj counted).1

end Display
end ToothVoca
