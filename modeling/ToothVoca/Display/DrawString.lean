import ToothVoca.Display.Font
import ToothVoca.Display.ParserChar

namespace ToothVoca
namespace Display

open Library

/-!
# The drawing loop `LcdTouch_DrawString`

The loop decodes one character at `str_index`, looks up its image, draws it at
the current position, moves the position behind it (to the next line when the
right margin is reached) and advances `str_index` by the decoded length.

The loop is bounded by fuel equal to the length of the string, and it has no
result when the fuel runs out or when the decoder reads outside of the text.
`LcdTouch_DrawString_eq` shows that neither happens on a terminated string:
the glyphs drawn are the abstract units of the text, placed one after the
other.

The image found at an index is a parameter of the loop.  Inside the table it
is the image of the font; outside, the C read is undefined, and the parameter
stands for whatever it yields.
-/

def LT_LCD_V_RES : Nat := 240
def LT_LCD_H_RES : Nat := 320
def LT_X_SPACE_TEXT_PIXEL : UInt32 := 1
def LT_Y_SPACE_TEXT_PIXEL : UInt32 := 5
def LT_HORIZONTAL_MARGIN : UInt16 := 20

/-- One iteration of the loop: what was decoded at which offset, the index
looked up, and the rectangle drawn. -/
structure GlyphDraw where
  str_index : Nat
  unicode : UInt32
  out_len : UInt8
  fontIndex : UInt32
  start_x_pos : UInt16
  start_y_pos : UInt16
  textWidth : UInt32
  textHeight : UInt32
deriving DecidableEq, Repr

/-- The fields `start_x_pos` and `start_y_pos` of the loop. -/
structure Pen where
  start_x_pos : UInt16
  start_y_pos : UInt16
deriving DecidableEq, Repr

/-- The position behind a glyph.  Sums are taken in 32 bits and stored in 16. -/
def Pen.advance (pen : Pen) (image : tImage) : Pen :=
  let start_x_pos :=
    (pen.start_x_pos.toUInt32 + (image.width.toUInt32 + LT_X_SPACE_TEXT_PIXEL)).toUInt16
  if LT_LCD_H_RES - LT_HORIZONTAL_MARGIN.toNat ≤ start_x_pos.toNat then
    { start_x_pos := LT_HORIZONTAL_MARGIN
      start_y_pos :=
        (pen.start_y_pos.toUInt32 + image.height.toUInt32 + LT_Y_SPACE_TEXT_PIXEL).toUInt16 }
  else
    { start_x_pos := start_x_pos, start_y_pos := pen.start_y_pos }

/-- The loop of `LcdTouch_DrawString`. -/
def drawLoop (images : UInt32 → tImage) (str : List UInt8) (str_len : Nat) :
    Nat → Nat → Pen → Option (List GlyphDraw)
  | 0, str_index, _ => if str_index < str_len then none else some []
  | fuel + 1, str_index, pen =>
      if str_index < str_len then do
        let (unicode, out_len) ← ParserChar_GetUnicode (str.drop str_index)
        let fontIndex := LcdTouch_GetFontIndexOfUnicode unicode
        let image := images fontIndex
        let rest ← drawLoop images str str_len fuel (str_index + out_len.toNat)
          (pen.advance image)
        return { str_index := str_index
                 unicode := unicode
                 out_len := out_len
                 fontIndex := fontIndex
                 start_x_pos := pen.start_x_pos
                 start_y_pos := pen.start_y_pos
                 textWidth := image.width.toUInt32
                 textHeight := image.height.toUInt32 } :: rest
      else
        some []

def LcdTouch_DrawString (isInitDisplay : Bool) (images : UInt32 → tImage) (str : List UInt8)
    (x y : UInt32) : Option (List GlyphDraw) :=
  if isInitDisplay = false then
    some []
  else
    drawLoop images str (CString.strlen str) (CString.strlen str) 0 ⟨x.toUInt16, y.toUInt16⟩

/-- The image of the font at an index of the table. -/
def fontImages (fontIndex : UInt32) : tImage :=
  match Font_array[fontIndex.toNat]? with
  | some entry => entry.image
  | none => ⟨0, 0⟩

/-! ## The loop against the abstract decoder -/

section Place

variable (images : UInt32 → tImage)

/-- The glyph of one unit. -/
def glyphOf (str_index : Nat) (pen : Pen) (unit : DecodedUnit) : GlyphDraw :=
  let fontIndex := LcdTouch_GetFontIndexOfUnicode unit.code
  { str_index := str_index
    unicode := unit.code
    out_len := unit.outLen
    fontIndex := fontIndex
    start_x_pos := pen.start_x_pos
    start_y_pos := pen.start_y_pos
    textWidth := (images fontIndex).width.toUInt32
    textHeight := (images fontIndex).height.toUInt32 }

/-- Place the units one after the other. -/
def place : Nat → Pen → List DecodedUnit → List GlyphDraw
  | _, _, [] => []
  | str_index, pen, unit :: rest =>
      glyphOf images str_index pen unit ::
        place (str_index + unit.outLen.toNat)
          (pen.advance (images (LcdTouch_GetFontIndexOfUnicode unit.code))) rest

/-- The loop, started anywhere in a terminated string, draws the units of what
is left.  The text in front only shifts `str_index`. -/
theorem drawLoop_eq (fuel : Nat) (front text behind : List UInt8) (pen : Pen)
    (enough : text.length ≤ fuel) :
    drawLoop images (front ++ (text ++ 0 :: behind)) (front.length + text.length) fuel
      front.length pen = some (place images front.length pen (unitsOf text)) := by
  induction fuel generalizing front text pen with
  | zero =>
      cases text with
      | nil => simp [drawLoop, unitsOf, place]
      | cons first rest => cases enough
  | succ fuel ih =>
      cases text with
      | nil => simp [drawLoop, unitsOf, place]
      | cons first rest =>
          have more : front.length < front.length + (first :: rest).length :=
            Nat.lt_add_of_pos_right (Nat.succ_pos _)
          have inside := nextUnit_le first rest
          have positive := (nextUnit first rest).outLen_pos
          have taken : ((first :: rest).take (nextUnit first rest).outLen.toNat).length =
              (nextUnit first rest).outLen.toNat := List.length_take_of_le inside
          have left : ((first :: rest).drop (nextUnit first rest).outLen.toNat).length +
              (nextUnit first rest).outLen.toNat = (first :: rest).length := by
            rw [List.length_drop]
            omega
          have step := ih (front ++ (first :: rest).take (nextUnit first rest).outLen.toNat)
            ((first :: rest).drop (nextUnit first rest).outLen.toNat)
            (pen.advance (images (LcdTouch_GetFontIndexOfUnicode (nextUnit first rest).code)))
            (by omega)
          have sameText : front ++ (first :: rest).take (nextUnit first rest).outLen.toNat ++
              ((first :: rest).drop (nextUnit first rest).outLen.toNat ++ 0 :: behind) =
                front ++ (first :: rest ++ 0 :: behind) := by
            rw [List.append_assoc, ← List.append_assoc (List.take _ _), List.take_append_drop]
          have sameLength : (front ++ (first :: rest).take
              (nextUnit first rest).outLen.toNat).length +
                ((first :: rest).drop (nextUnit first rest).outLen.toNat).length =
                  front.length + (first :: rest).length := by
            rw [List.length_append, taken]
            omega
          rw [sameText, sameLength, List.length_append, taken] at step
          rw [drawLoop, if_pos more, List.drop_left, ParserChar_GetUnicode_terminated]
          simp only [Option.bind_eq_bind, Option.bind_some, step, unitsOf_cons first rest, place]
          rfl

/-- Drawing a terminated string always ends, reads nothing behind the
terminator, and draws the units of the text. -/
theorem LcdTouch_DrawString_eq {text : List UInt8} (free : CString.NulFree text)
    (behind : List UInt8) (x y : UInt32) :
    LcdTouch_DrawString true images (text ++ 0 :: behind) x y =
      some (place images 0 ⟨x.toUInt16, y.toUInt16⟩ (unitsOf text)) := by
  have length : CString.strlen (text ++ 0 :: behind) = text.length := by
    rw [CString.strlen, CString.content_of_split free]
  have loop := drawLoop_eq images text.length [] text behind ⟨x.toUInt16, y.toUInt16⟩
    (Nat.le_refl _)
  rw [List.nil_append, List.length_nil, Nat.zero_add] at loop
  rw [LcdTouch_DrawString, if_neg (by decide), length, loop]

/-- The glyph of a unit stands at the offset of its first byte. -/
theorem glyph_mem_place (str_index : Nat) (pen : Pen) (before after : List DecodedUnit)
    (unit : DecodedUnit) :
    ∃ draw ∈ place images str_index pen (before ++ unit :: after),
      draw.str_index = str_index + (before.flatMap DecodedUnit.bytes).length ∧
        draw.unicode = unit.code ∧ draw.out_len = unit.outLen := by
  induction before generalizing str_index pen with
  | nil => exact ⟨_, List.mem_cons_self, rfl, rfl, rfl⟩
  | cons head tail ih =>
      rcases ih (str_index + head.outLen.toNat)
        (pen.advance (images (LcdTouch_GetFontIndexOfUnicode head.code))) with
        ⟨draw, member, offset, code, length⟩
      refine ⟨draw, List.mem_cons_of_mem _ member, ?_, code, length⟩
      rw [offset, List.flatMap_cons, List.length_append, head.length_bytes, Nat.add_assoc]

theorem map_fontIndex_place (str_index : Nat) (pen : Pen) (units : List DecodedUnit) :
    (place images str_index pen units).map GlyphDraw.fontIndex =
      units.map fun unit => LcdTouch_GetFontIndexOfUnicode unit.code := by
  induction units generalizing str_index pen with
  | nil => rfl
  | cons unit rest ih =>
      rw [place, List.map_cons, ih, List.map_cons]
      rfl

theorem length_place (str_index : Nat) (pen : Pen) (units : List DecodedUnit) :
    (place images str_index pen units).length = units.length := by
  rw [← List.length_map GlyphDraw.fontIndex, map_fontIndex_place, List.length_map]

/-- A unit consumes one or three bytes. -/
theorem length_unitsOf (text : List UInt8) :
    (unitsOf text).length ≤ text.length ∧ text.length ≤ 3 * (unitsOf text).length := by
  fun_induction unitsOf text with
  | case1 first second third rest accepted ih =>
      simp only [List.length_cons]
      omega
  | case2 first second third rest refused ih =>
      simp only [List.length_cons] at ih ⊢
      omega
  | case3 first rest short ih =>
      simp only [List.length_cons]
      omega
  | case4 => exact ⟨Nat.le_refl 0, Nat.le_refl 0⟩

end Place

/-! ## What the loop consumes -/

/-- The glyphs were decoded one behind the other, from one offset of a string to
another, each from one or three bytes without a terminator among them. -/
def Consumes (str : List UInt8) : Nat → List GlyphDraw → Nat → Prop
  | start, [], stop => start = stop
  | start, draw :: rest, stop =>
      draw.str_index = start ∧ (draw.out_len = 1 ∨ draw.out_len = 3) ∧
        (∃ bytes, bytes <+: str.drop start ∧ bytes.length = draw.out_len.toNat ∧
          CString.NulFree bytes) ∧
        Consumes str (start + draw.out_len.toNat) rest stop

theorem consumes_place (images : UInt32 → tImage) (front behind : List UInt8) (pen : Pen)
    (units : List DecodedUnit) (free : CString.NulFree (units.flatMap DecodedUnit.bytes)) :
    Consumes (front ++ (units.flatMap DecodedUnit.bytes ++ behind)) front.length
      (place images front.length pen units)
      (front.length + (units.flatMap DecodedUnit.bytes).length) := by
  induction units generalizing front pen with
  | nil => rfl
  | cons unit rest ih =>
      rw [List.flatMap_cons, CString.nulFree_append] at free
      have step := ih (front ++ unit.bytes)
        (pen.advance (images (LcdTouch_GetFontIndexOfUnicode unit.code))) free.2
      rw [List.length_append, unit.length_bytes] at step
      rw [List.flatMap_cons, List.length_append, unit.length_bytes, ← Nat.add_assoc,
        List.append_assoc, ← List.append_assoc front]
      refine ⟨rfl, ?_, ⟨unit.bytes, ?_, unit.length_bytes, free.1⟩, step⟩
      · cases unit with
        | single byte => exact Or.inl rfl
        | triple first second third => exact Or.inr rfl
      · rw [List.append_assoc, List.drop_left]
        exact List.prefix_append _ _

/-- On every terminated string, well-formed or not and with nothing readable
behind the terminator, the loop consumes exactly the bytes of the string. -/
theorem LcdTouch_DrawString_consumes (images : UInt32 → tImage) (text : List UInt8)
    (free : CString.NulFree text) (x y : UInt32) :
    ∃ draws, LcdTouch_DrawString true images (text ++ [0]) x y = some draws ∧
      Consumes (text ++ [0]) 0 draws (CString.strlen (text ++ [0])) ∧
      CString.strlen (text ++ [0]) ≤ 3 * draws.length ∧
      draws.length ≤ CString.strlen (text ++ [0]) := by
  have length : CString.strlen (text ++ [0]) = text.length := by
    rw [CString.strlen, CString.content_of_split free]
  have counted := length_unitsOf text
  refine ⟨_, LcdTouch_DrawString_eq images free [] x y, ?_, ?_, ?_⟩
  · have bytes := flatMap_bytes_unitsOf text
    have consumed := consumes_place images [] [0] ⟨x.toUInt16, y.toUInt16⟩ (unitsOf text)
      (by rwa [bytes])
    rw [bytes, List.nil_append, List.length_nil, Nat.zero_add] at consumed
    rw [length]
    exact consumed
  · rw [length, length_place]
    exact counted.2
  · rw [length, length_place]
    exact counted.1

/-- A lead byte that the terminator cuts off. -/
theorem LcdTouch_DrawString_consumes_cut :
    ∃ draws, LcdTouch_DrawString true fontImages ([0xEA, 0x80] ++ [0]) 0 0 = some draws ∧
      Consumes ([0xEA, 0x80] ++ [0]) 0 draws (CString.strlen ([0xEA, 0x80] ++ [0])) ∧
      CString.strlen ([0xEA, 0x80] ++ [0]) ≤ 3 * draws.length ∧
      draws.length ≤ CString.strlen ([0xEA, 0x80] ++ [0]) :=
  LcdTouch_DrawString_consumes fontImages [0xEA, 0x80] (by decide) 0 0

end Display
end ToothVoca
