import Mathlib.Data.Nat.Bitwise
import ToothVoca.Display.Font
import ToothVoca.Library.RawMemory

namespace ToothVoca
namespace Display

open Library

/-!
# The pixels of a glyph (`LcdTouch_GetFontImageData`)

A glyph image has one bit for each pixel.  `Font.h` is generated row by row:
the most significant bit comes first, and each row starts at a new byte.  The
function expands the bits to two bytes for each pixel.  Its outer loop goes
over the bytes of the image, its inner loop over the bits of a byte, and the
end of a row is noticed by a counter inside of the inner loop.

When the inner loop notices it, the rest of the byte is skipped.  A row of
whole bytes is noticed only with the next byte, which is then skipped
altogether.  Either way a row takes `width / 8 + 1` bytes, and that is what
the closed form `FontImageLoop.at` of the loop state says.
-/

/-- A `tImage` together with the bytes that stand from its pointer `data` on.  The
array itself ends after its rows. -/
structure FontImage extends tImage where
  data : Nat → UInt8

/-- The structure `image_data_t`.  The pointer `data_buf` is NULL, or gives the
bytes of the allocated block. -/
structure image_data_t where
  color : UInt16
  data_buf : Option (Nat → UInt8)
  buf_len : Nat
  start_x_pos : UInt16
  start_y_pos : UInt16
  width_px : UInt16
  height_px : UInt16

/-- The local variables of the two loops, and the accesses made so far: the
indices read from `data` and the writes to `data_buf`. -/
structure FontImageLoop where
  image_idx : Nat
  width_idx : Nat
  buf_idx : Nat
  reads : List Nat
  writes : List RawMemory.Write
deriving DecidableEq, Repr

section Loops

variable (image : FontImage) (color s_backgroud_color : UInt16)

/-- The test `(data[image_idx] & (1 << j)) == (1 << j)`. -/
def bitSet (byte : UInt8) (j : Nat) : Bool :=
  byte.toNat &&& (1 <<< j) == 1 <<< j

/-- The two writes of one pixel. -/
def FontImageLoop.pixel (loop : FontImageLoop) (j : Nat) : FontImageLoop :=
  let shown := if bitSet (image.data loop.image_idx) j then color else s_backgroud_color
  { loop with
    width_idx := loop.width_idx + 1
    buf_idx := loop.buf_idx + 2
    reads := loop.reads ++ [loop.image_idx]
    writes := loop.writes ++
      [(loop.buf_idx, (shown >>> 8).toUInt8), (loop.buf_idx + 1, shown.toUInt8)] }

/-- The inner loop, with the given number of bits left: `j` is one less. -/
def bitLoop : Nat → FontImageLoop → FontImageLoop
  | 0, loop => loop
  | j + 1, loop =>
      if image.width.toNat ≤ loop.width_idx then
        { loop with width_idx := 0 }
      else
        bitLoop j (loop.pixel image color s_backgroud_color j)

/-- The outer loop.  There is no result when the fuel runs out. -/
def byteLoop (buf_len : Nat) : Nat → FontImageLoop → Option FontImageLoop
  | 0, loop => if loop.buf_idx + 1 < buf_len then none else some loop
  | fuel + 1, loop =>
      if loop.buf_idx + 1 < buf_len then
        let read := bitLoop image color s_backgroud_color 8 loop
        byteLoop buf_len fuel { read with image_idx := read.image_idx + 1 }
      else
        some loop

end Loops

/-- What `LcdTouch_GetFontImageData` leaves: the structure it fills, the bytes it
read and the writes to the allocated block. -/
structure FontImageResult where
  image_data : image_data_t
  reads : List Nat
  writes : List RawMemory.Write

/-- The function, given the pointer `Font.chars[fontIndex].image` and whether the
allocation is granted.  The length is a product of type `int`; there is no
result when it overflows. -/
def LcdTouch_GetFontImageData (image : Option FontImage) (s_backgroud_color : UInt16)
    (granted : Bool) (image_data : image_data_t) : Option FontImageResult :=
  match image with
  | none => some ⟨image_data, [], []⟩
  | some image =>
      let byte_per_pixel := LT_LCD_BIT_PER_PIXEL / 8
      let buf_len := image.width.toNat * image.height.toNat * byte_per_pixel
      let sized := { image_data with
        width_px := image.width
        height_px := image.height
        data_buf := none
        buf_len := buf_len }
      if 2 ^ 31 ≤ buf_len then
        none
      else if granted = false then
        some ⟨sized, [], []⟩
      else do
        let loop ← byteLoop image image_data.color s_backgroud_color buf_len buf_len
          ⟨0, 0, 0, [], []⟩
        return ⟨{ sized with data_buf := some (RawMemory.apply 0 loop.writes fun _ => 0) },
          loop.reads, loop.writes⟩

/-! ## The loops in closed form -/

theorem bitSet_eq (byte : UInt8) (j : Nat) : bitSet byte j = byte.toNat.testBit j := by
  have positive : 0 < 2 ^ j := Nat.two_pow_pos j
  rw [bitSet, Nat.one_shiftLeft, Nat.and_two_pow]
  cases byte.toNat.testBit j with
  | true => simp
  | false => simp; omega

section ClosedForm

variable (image : FontImage) (color s_backgroud_color : UInt16)

/-- The number of bytes that the loops take for a row. -/
def FontImage.stride : Nat :=
  image.width.toNat / 8 + 1

/-- The byte that a pixel is taken from.  Pixels are numbered row by row. -/
def FontImage.source (pixel : Nat) : Nat :=
  pixel / image.width.toNat * image.stride + pixel % image.width.toNat / 8

/-- The colour that the loops give to a pixel. -/
def FontImage.shown (pixel : Nat) : UInt16 :=
  if (image.data (image.source pixel)).toNat.testBit (7 - pixel % image.width.toNat % 8) then
    color
  else s_backgroud_color

/-- The bytes of the first pixels. -/
def FontImage.bytesBefore (count : Nat) : List UInt8 :=
  (List.range count).flatMap fun pixel =>
    [(image.shown color s_backgroud_color pixel >>> 8).toUInt8,
      (image.shown color s_backgroud_color pixel).toUInt8]

/-- The state of the loops with the given number of pixels written. -/
def FontImageLoop.at (image_idx width_idx count : Nat) : FontImageLoop where
  image_idx := image_idx
  width_idx := width_idx
  buf_idx := 2 * count
  reads := (List.range count).map image.source
  writes := RawMemory.block 0 (image.bytesBefore color s_backgroud_color count)

@[simp]
theorem FontImageLoop.width_idx_at (image_idx width_idx count : Nat) :
    (FontImageLoop.at image color s_backgroud_color image_idx width_idx count).width_idx =
      width_idx :=
  rfl

@[simp]
theorem FontImageLoop.buf_idx_at (image_idx width_idx count : Nat) :
    (FontImageLoop.at image color s_backgroud_color image_idx width_idx count).buf_idx =
      2 * count :=
  rfl

theorem bytesBefore_succ (count : Nat) :
    image.bytesBefore color s_backgroud_color (count + 1) =
      image.bytesBefore color s_backgroud_color count ++
        [(image.shown color s_backgroud_color count >>> 8).toUInt8,
          (image.shown color s_backgroud_color count).toUInt8] := by
  rw [FontImage.bytesBefore, List.range_succ, List.flatMap_append]
  rfl

theorem length_bytesBefore (count : Nat) :
    (image.bytesBefore color s_backgroud_color count).length = 2 * count := by
  induction count with
  | zero => rfl
  | succ count ih =>
      rw [bytesBefore_succ, List.length_append, ih]
      rfl

/-- The next pixel, taken from the byte and the bit that belong to it. -/
theorem pixel_at {image_idx width_idx count j : Nat} (byte : image.source count = image_idx)
    (bit : 7 - count % image.width.toNat % 8 = j) :
    (FontImageLoop.at image color s_backgroud_color image_idx width_idx count).pixel image color
        s_backgroud_color j =
      FontImageLoop.at image color s_backgroud_color image_idx (width_idx + 1) (count + 1) := by
  subst byte bit
  simp only [FontImageLoop.pixel, FontImageLoop.at, bitSet_eq, bytesBefore_succ,
    RawMemory.block_append, length_bytesBefore, Nat.zero_add, List.range_succ, List.map_append]
  rfl

/-- The row and the column of a pixel. -/
theorem row_column {row column width : Nat} (inside : column < width) :
    (row * width + column) / width = row ∧ (row * width + column) % width = column := by
  constructor
  · rw [Nat.mul_comm, Nat.mul_add_div (by omega), Nat.div_eq_of_lt inside, Nat.add_zero]
  · rw [Nat.mul_comm, Nat.mul_add_mod, Nat.mod_eq_of_lt inside]

theorem source_of_pixel {row column : Nat} (inside : column < image.width.toNat) :
    image.source (row * image.width.toNat + column) = row * image.stride + column / 8 := by
  rw [FontImage.source, (row_column inside).1, (row_column inside).2]

/-- The inner loop from a column of a row, within the byte of that column: it
stops at the end of the byte, or skips what is left of it at the end of the
row. -/
theorem bitLoop_at (row : Nat) {byte column : Nat} (left : Nat)
    (inside : column ≤ image.width.toNat) (here : column + left = 8 * byte + 8)
    (begun : 8 * byte ≤ column) :
    bitLoop image color s_backgroud_color left
        (FontImageLoop.at image color s_backgroud_color (row * image.stride + byte) column
          (row * image.width.toNat + column)) =
      if image.width.toNat < column + left then
        FontImageLoop.at image color s_backgroud_color (row * image.stride + byte) 0
          ((row + 1) * image.width.toNat)
      else
        FontImageLoop.at image color s_backgroud_color (row * image.stride + byte) (column + left)
          (row * image.width.toNat + (column + left)) := by
  induction left generalizing column with
  | zero =>
      rw [bitLoop, if_neg (by omega)]
      rfl
  | succ left ih =>
      rw [bitLoop, FontImageLoop.width_idx_at]
      by_cases done : image.width.toNat ≤ column
      · have atEnd : row * image.width.toNat + column = (row + 1) * image.width.toNat := by
          rw [Nat.succ_mul]
          omega
        rw [if_pos done, if_pos (by omega), atEnd]
        rfl
      · have more := Nat.lt_of_not_le done
        have source : image.source (row * image.width.toNat + column) =
            row * image.stride + byte := by
          rw [source_of_pixel image more]
          congr 1
          omega
        have bit : 7 - (row * image.width.toNat + column) % image.width.toNat % 8 = left := by
          rw [(row_column more).2]
          omega
        rw [if_neg done, pixel_at image color s_backgroud_color source bit]
        have step := @ih (column + 1) (by omega) (by omega) (by omega)
        rw [← Nat.add_assoc, Nat.add_right_comm column 1] at step
        exact step

/-- One iteration of the outer loop: on to the next byte of the row, or to the
next row. -/
theorem nextByte_at (row : Nat) {byte : Nat} (inside : 8 * byte ≤ image.width.toNat) :
    let read := bitLoop image color s_backgroud_color 8
      (FontImageLoop.at image color s_backgroud_color (row * image.stride + byte) (8 * byte)
        (row * image.width.toNat + 8 * byte))
    { read with image_idx := read.image_idx + 1 } =
      if image.width.toNat < 8 * byte + 8 then
        FontImageLoop.at image color s_backgroud_color ((row + 1) * image.stride + 0) (8 * 0)
          ((row + 1) * image.width.toNat + 8 * 0)
      else
        FontImageLoop.at image color s_backgroud_color (row * image.stride + (byte + 1))
          (8 * (byte + 1)) (row * image.width.toNat + 8 * (byte + 1)) := by
  have read := bitLoop_at image color s_backgroud_color row 8 inside rfl (Nat.le_refl _)
  rw [read]
  split
  · have nextRow : row * image.stride + byte + 1 = (row + 1) * image.stride + 0 := by
      rw [Nat.succ_mul, FontImage.stride]
      omega
    rw [← nextRow]
    rfl
  · rfl

/-- At the beginning of a byte of a row, or at the end of the last row, no more
pixels are written than there are, and in the second case all of them. -/
theorem count_le {row byte : Nat} (inside : 8 * byte ≤ image.width.toNat)
    (left : row < image.height.toNat ∨ row = image.height.toNat ∧ byte = 0) :
    row * image.width.toNat + 8 * byte ≤ image.width.toNat * image.height.toNat ∧
      (¬ row < image.height.toNat →
        row * image.width.toNat + 8 * byte = image.width.toNat * image.height.toNat) := by
  rcases left with later | ⟨last, first⟩
  · have rows := Nat.mul_le_mul_right image.width.toNat later
    rw [Nat.succ_mul, Nat.mul_comm image.height.toNat] at rows
    refine ⟨?_, fun notLater => absurd later notLater⟩
    omega
  · rw [last, first, Nat.mul_comm]
    exact ⟨Nat.le_refl _, fun _ => rfl⟩

/-- The outer loop from the beginning of a byte of a row, or from the end of the
last row, writes the remaining pixels. -/
theorem byteLoop_at {row byte : Nat} (fuel : Nat) (inside : 8 * byte ≤ image.width.toNat)
    (left : row < image.height.toNat ∨ row = image.height.toNat ∧ byte = 0)
    (enough : image.height.toNat * image.stride ≤ fuel + (row * image.stride + byte)) :
    ∃ image_idx width_idx,
      byteLoop image color s_backgroud_color (image.width.toNat * image.height.toNat * 2) fuel
          (FontImageLoop.at image color s_backgroud_color (row * image.stride + byte) (8 * byte)
            (row * image.width.toNat + 8 * byte)) =
        some (FontImageLoop.at image color s_backgroud_color image_idx width_idx
          (image.width.toNat * image.height.toNat)) := by
  induction fuel generalizing row byte with
  | zero =>
      have last : ¬ row < image.height.toNat := by
        intro later
        have rows := Nat.mul_le_mul_right image.stride later
        rw [Nat.succ_mul] at rows
        unfold FontImage.stride at *
        omega
      rw [byteLoop, FontImageLoop.buf_idx_at, (count_le image inside left).2 last,
        if_neg (by omega)]
      exact ⟨_, _, rfl⟩
  | succ fuel ih =>
      have count := count_le image inside left
      rw [byteLoop, FontImageLoop.buf_idx_at]
      by_cases more : 2 * (row * image.width.toNat + 8 * byte) + 1 <
          image.width.toNat * image.height.toNat * 2
      · have later : row < image.height.toNat := by
          by_contra last
          have all := count.2 last
          omega
        have step := nextByte_at image color s_backgroud_color row inside
        simp only [] at step
        rw [if_pos more]
        simp only [step]
        by_cases rowEnds : image.width.toNat < 8 * byte + 8
        · rw [if_pos rowEnds]
          apply ih (Nat.zero_le _)
          · rcases Nat.lt_or_eq_of_le later with before | last
            · exact Or.inl before
            · exact Or.inr ⟨last, rfl⟩
          · rw [Nat.succ_mul]
            unfold FontImage.stride at *
            omega
        · rw [if_neg rowEnds]
          apply ih
          · omega
          · exact Or.inl later
          · omega
      · have total : row * image.width.toNat + 8 * byte =
            image.width.toNat * image.height.toNat := by
          have most := count.1
          omega
        rw [if_neg more, total]
        exact ⟨_, _, rfl⟩

/-- The loops from the start, with fuel for each byte of the buffer. -/
theorem byteLoop_all :
    ∃ image_idx width_idx,
      byteLoop image color s_backgroud_color (image.width.toNat * image.height.toNat * 2)
          (image.width.toNat * image.height.toNat * 2) ⟨0, 0, 0, [], []⟩ =
        some (FontImageLoop.at image color s_backgroud_color image_idx width_idx
          (image.width.toNat * image.height.toNat)) := by
  rcases Nat.eq_zero_or_pos image.width.toNat with empty | wide
  · rw [empty, Nat.zero_mul]
    exact ⟨0, 0, rfl⟩
  · have enough : image.height.toNat * image.stride ≤
        image.width.toNat * image.height.toNat * 2 + (0 * image.stride + 0) := by
      have row : image.stride ≤ image.width.toNat * 2 := by
        unfold FontImage.stride
        omega
      have rows := Nat.mul_le_mul_left image.height.toNat row
      rw [← Nat.mul_assoc, Nat.mul_comm image.height.toNat image.width.toNat] at rows
      omega
    have first : 0 < image.height.toNat ∨ 0 = image.height.toNat ∧ 0 = 0 := by omega
    have all := byteLoop_at image color s_backgroud_color _ (Nat.zero_le _) first enough
    simp only [Nat.zero_mul] at all
    exact all

/-- A granted call whose length does not overflow writes all pixels in order. -/
theorem LcdTouch_GetFontImageData_eq (image_data : image_data_t)
    (fits : image.width.toNat * image.height.toNat * 2 < 2 ^ 31) :
    LcdTouch_GetFontImageData (some image) s_backgroud_color true image_data =
      some
        { image_data :=
            { image_data with
              width_px := image.width
              height_px := image.height
              buf_len := image.width.toNat * image.height.toNat * 2
              data_buf := some (RawMemory.apply 0
                (RawMemory.block 0 (image.bytesBefore image_data.color s_backgroud_color
                  (image.width.toNat * image.height.toNat))) fun _ => 0) }
          reads := (List.range (image.width.toNat * image.height.toNat)).map image.source
          writes := RawMemory.block 0 (image.bytesBefore image_data.color s_backgroud_color
            (image.width.toNat * image.height.toNat)) } := by
  rcases byteLoop_all image image_data.color s_backgroud_color with ⟨image_idx, width_idx, last⟩
  have sized : image.width.toNat * image.height.toNat * (LT_LCD_BIT_PER_PIXEL / 8) =
      image.width.toNat * image.height.toNat * 2 := rfl
  rw [← sized] at fits last
  rw [LcdTouch_GetFontImageData, if_neg (Nat.not_le_of_lt fits), if_neg (by decide), last]
  rfl

/-- The two bytes of a pixel stand at twice its number. -/
theorem getElem?_bytesBefore {pixel count : Nat} (inside : pixel < count) :
    (image.bytesBefore color s_backgroud_color count)[2 * pixel]? =
        some (image.shown color s_backgroud_color pixel >>> 8).toUInt8 ∧
      (image.bytesBefore color s_backgroud_color count)[2 * pixel + 1]? =
        some (image.shown color s_backgroud_color pixel).toUInt8 := by
  induction count with
  | zero => cases inside
  | succ count ih =>
      have length := length_bytesBefore image color s_backgroud_color count
      rw [bytesBefore_succ]
      rcases Nat.lt_or_eq_of_le (Nat.le_of_lt_succ inside) with earlier | last
      · rw [List.getElem?_append_left (by omega), List.getElem?_append_left (by omega)]
        exact ih earlier
      · subst last
        rw [List.getElem?_append_right (by omega), List.getElem?_append_right (by omega), length,
          Nat.sub_self, Nat.add_sub_cancel_left]
        exact ⟨rfl, rfl⟩

end ClosedForm

/-- A length that is no `int`. -/
theorem LcdTouch_GetFontImageData_overflow (image : FontImage) (s_backgroud_color : UInt16)
    (granted : Bool) (image_data : image_data_t)
    (overflow : 2 ^ 31 ≤ image.width.toNat * image.height.toNat * 2) :
    LcdTouch_GetFontImageData (some image) s_backgroud_color granted image_data = none := by
  have product : 2 ^ 31 ≤ image.width.toNat * image.height.toNat * (LT_LCD_BIT_PER_PIXEL / 8) :=
    overflow
  rw [LcdTouch_GetFontImageData, if_pos product]

/-- What a call publishes, whether or not its allocation is granted. -/
structure Published (image : FontImage) (granted : Bool) (before after : image_data_t) :
    Prop where
  width_px : after.width_px = image.width
  height_px : after.height_px = image.height
  start_x_pos : after.start_x_pos = before.start_x_pos
  start_y_pos : after.start_y_pos = before.start_y_pos
  buf_len : after.buf_len = image.width.toNat * image.height.toNat * 2
  data_buf : after.data_buf.isSome = granted

theorem LcdTouch_GetFontImageData_published (image : FontImage) (s_backgroud_color : UInt16)
    (granted : Bool) (image_data : image_data_t)
    (fits : image.width.toNat * image.height.toNat * 2 < 2 ^ 31) :
    ∃ result,
      LcdTouch_GetFontImageData (some image) s_backgroud_color granted image_data = some result ∧
        Published image granted image_data result.image_data := by
  cases granted with
  | true =>
      exact ⟨_, LcdTouch_GetFontImageData_eq image s_backgroud_color image_data fits,
        rfl, rfl, rfl, rfl, rfl, rfl⟩
  | false =>
      have product :
          ¬ 2 ^ 31 ≤ image.width.toNat * image.height.toNat * (LT_LCD_BIT_PER_PIXEL / 8) :=
        Nat.not_le_of_lt fits
      rw [LcdTouch_GetFontImageData, if_neg product, if_pos rfl]
      exact ⟨_, rfl, rfl, rfl, rfl, rfl, rfl, rfl⟩

/-! ## The buffer is filled -/

/-- Whatever the data, a granted call whose length does not overflow ends, and
writes the indices below the length of its buffer, each once and in increasing
order. -/
theorem LcdTouch_GetFontImageData_fills (image : FontImage) (s_backgroud_color : UInt16)
    (image_data : image_data_t)
    (fits : 2 * (image.width.toNat * image.height.toNat) < 2 ^ 31) :
    ∃ result,
      LcdTouch_GetFontImageData (some image) s_backgroud_color true image_data = some result ∧
        result.writes.map Prod.fst =
          List.range (2 * (image.width.toNat * image.height.toNat)) ∧
        ∀ write ∈ result.writes, write.1 < result.image_data.buf_len := by
  have length := length_bytesBefore image image_data.color s_backgroud_color
    (image.width.toNat * image.height.toNat)
  refine ⟨_, LcdTouch_GetFontImageData_eq image s_backgroud_color image_data (by omega), ?_, ?_⟩
  · rw [RawMemory.map_fst_block, length, List.range_eq_range']
  · intro write member
    have inside := RawMemory.index_lt_of_mem_block member
    rw [length, Nat.zero_add, Nat.mul_comm] at inside
    exact inside

/-- Sixteen columns: every third byte only ends a row. -/
theorem LcdTouch_GetFontImageData_fills_whole :
    ∃ result,
      LcdTouch_GetFontImageData (some ⟨⟨16, 20⟩, fun _ => 0x40⟩) 0 true
          ⟨0xFFFF, none, 0, 20, 20, 0, 0⟩ = some result ∧
        result.writes.map Prod.fst = List.range 640 ∧
        ∀ write ∈ result.writes, write.1 < result.image_data.buf_len :=
  LcdTouch_GetFontImageData_fills ⟨⟨16, 20⟩, fun _ => 0x40⟩ 0 ⟨0xFFFF, none, 0, 20, 20, 0, 0⟩
    (by decide)

/-! ## The pixels against the layout of `Font.h` -/

/-- The number of bytes of a row: each row starts at a new byte. -/
def FontImage.rowBytes (image : FontImage) : Nat :=
  (image.width.toNat + 7) / 8

/-- The bit of a pixel, most significant bit first. -/
def FontImage.bit (image : FontImage) (row column : Nat) : Bool :=
  (image.data (row * image.rowBytes + column / 8)).toNat.testBit (7 - column % 8)

/-- Every pixel has the foreground colour where its bit is set and the background
colour elsewhere, with the high byte first. -/
def FontImage.Rendered (image : FontImage) (color s_backgroud_color : UInt16)
    (data_buf : Nat → UInt8) : Prop :=
  ∀ row < image.height.toNat, ∀ column < image.width.toNat,
    (data_buf (2 * (row * image.width.toNat + column))).toNat * 256 +
        (data_buf (2 * (row * image.width.toNat + column) + 1)).toNat =
      (if image.bit row column then color else s_backgroud_color).toNat

/-- The call has a result, reads bytes of the rows only, and renders the image. -/
def Drawn (image : FontImage) (s_backgroud_color : UInt16) (image_data : image_data_t) : Prop :=
  ∃ result data_buf,
    LcdTouch_GetFontImageData (some image) s_backgroud_color true image_data = some result ∧
      result.image_data.data_buf = some data_buf ∧
      (∀ index ∈ result.reads, index < image.height.toNat * image.rowBytes) ∧
      image.Rendered image_data.color s_backgroud_color data_buf

/-- The two bytes of a colour. -/
theorem toNat_bytes (color : UInt16) :
    (color >>> 8).toUInt8.toNat * 256 + color.toUInt8.toNat = color.toNat := by
  have small := color.toNat_lt
  rw [UInt16.toNat_toUInt8, UInt16.toNat_toUInt8, UInt16.toNat_shiftRight,
    Nat.shiftRight_eq_div_pow]
  simp only [UInt16.reduceToNat, Nat.reduceMod, Nat.reducePow]
  omega

/-- Where the loops take as many bytes for a row as the image has, or there is
one row only, a row starts where the loops look for it. -/
theorem rowStart_eq {image : FontImage} {row : Nat}
    (aligned : image.width.toNat % 8 ≠ 0 ∨ image.height.toNat = 1)
    (inside : row < image.height.toNat) : row * image.stride = row * image.rowBytes := by
  rcases aligned with partialByte | oneRow
  · have same : image.stride = image.rowBytes := by
      unfold FontImage.stride FontImage.rowBytes
      omega
    rw [same]
  · have first : row = 0 := by omega
    rw [first, Nat.zero_mul, Nat.zero_mul]

/-- In rows of whole bytes the last pixel of a second row is read from behind the
data. -/
theorem source_beyond {image : FontImage} (wide : 1 ≤ image.width.toNat)
    (whole : image.width.toNat % 8 = 0) (rows : 2 ≤ image.height.toNat) :
    ∃ pixel < image.width.toNat * image.height.toNat,
      image.height.toNat * image.rowBytes ≤ image.source pixel := by
  rcases Nat.exists_eq_add_of_le' rows with ⟨above, height⟩
  have bytes : image.stride = image.rowBytes + 1 := by
    unfold FontImage.stride FontImage.rowBytes
    omega
  have last : image.width.toNat - 1 < image.width.toNat := by omega
  refine ⟨(above + 1) * image.width.toNat + (image.width.toNat - 1), ?_, ?_⟩
  · rw [height, Nat.mul_comm image.width.toNat, Nat.succ_mul (above + 1)]
    omega
  · rw [source_of_pixel image last, height, bytes, Nat.succ_mul (above + 1), Nat.mul_succ]
    unfold FontImage.rowBytes
    omega

/-- Where rows start where the loops look for them, every pixel is read from the
data. -/
theorem source_inside {image : FontImage} {pixel : Nat} (wide : 1 ≤ image.width.toNat)
    (aligned : image.width.toNat % 8 ≠ 0 ∨ image.height.toNat = 1)
    (inside : pixel < image.width.toNat * image.height.toNat) :
    image.source pixel < image.height.toNat * image.rowBytes := by
  have row : pixel / image.width.toNat < image.height.toNat := Nat.div_lt_of_lt_mul inside
  have column : pixel % image.width.toNat < image.width.toNat := Nat.mod_lt _ wide
  have inRow : pixel % image.width.toNat / 8 < image.rowBytes := by
    unfold FontImage.rowBytes
    omega
  have rows := Nat.mul_le_mul_right image.rowBytes row
  rw [Nat.succ_mul] at rows
  rw [FontImage.source, rowStart_eq aligned row]
  omega

/-- Where rows start where the loops look for them, every pixel is rendered. -/
theorem rendered_of_aligned {image : FontImage} (color s_backgroud_color : UInt16)
    (aligned : image.width.toNat % 8 ≠ 0 ∨ image.height.toNat = 1) :
    image.Rendered color s_backgroud_color (RawMemory.apply 0
      (RawMemory.block 0 (image.bytesBefore color s_backgroud_color
        (image.width.toNat * image.height.toNat))) fun _ => 0) := by
  intro row inRow column inColumn
  have pixel : row * image.width.toNat + column < image.width.toNat * image.height.toNat := by
    have rows := Nat.mul_le_mul_right image.width.toNat inRow
    rw [Nat.succ_mul, Nat.mul_comm image.height.toNat] at rows
    omega
  have bytes := getElem?_bytesBefore image color s_backgroud_color pixel
  have high := RawMemory.apply_block 0 0 bytes.1 fun _ => 0
  have low := RawMemory.apply_block 0 0 bytes.2 fun _ => 0
  rw [Nat.zero_add, Nat.zero_add] at high low
  rw [high, low, toNat_bytes, FontImage.shown, source_of_pixel image inColumn,
    rowStart_eq aligned inRow, (row_column inColumn).2]
  rfl

/-- A glyph is drawn from its own bytes, every pixel in its colour, exactly where
its rows end inside of a byte, or there is one row only, and its length is an
`int`. -/
theorem LcdTouch_GetFontImageData_drawn_iff (image : FontImage)
    (wide : 1 ≤ image.width.toNat) (high : 1 ≤ image.height.toNat) (s_backgroud_color : UInt16)
    (image_data : image_data_t) :
    Drawn image s_backgroud_color image_data ↔
      (image.width.toNat % 8 ≠ 0 ∨ image.height.toNat = 1) ∧
        2 * (image.width.toNat * image.height.toNat) < 2 ^ 31 := by
  constructor
  · rintro ⟨result, data_buf, returned, _, reads, _⟩
    by_cases fits : image.width.toNat * image.height.toNat * 2 < 2 ^ 31
    · rw [LcdTouch_GetFontImageData_eq image s_backgroud_color image_data fits,
        Option.some.injEq] at returned
      subst returned
      refine ⟨?_, by omega⟩
      by_contra aligned
      rcases source_beyond wide (by omega) (show 2 ≤ image.height.toNat by omega) with
        ⟨pixel, inside, beyond⟩
      have read := reads _ (List.mem_map_of_mem (List.mem_range.mpr inside))
      exact absurd beyond (Nat.not_le_of_lt read)
    · have overflow := LcdTouch_GetFontImageData_overflow image s_backgroud_color true image_data
        (Nat.le_of_not_lt fits)
      rw [overflow] at returned
      cases returned
  · rintro ⟨aligned, fits⟩
    refine ⟨_, _, LcdTouch_GetFontImageData_eq image s_backgroud_color image_data (by omega), rfl,
      ?_, rendered_of_aligned _ _ aligned⟩
    intro index read
    rcases List.mem_map.mp read with ⟨pixel, inside, source⟩
    rw [← source]
    exact source_inside wide aligned (List.mem_range.mp inside)

/-- A glyph of three columns, as narrow as the letter `l`. -/
theorem LcdTouch_GetFontImageData_drawn_narrow :
    Drawn ⟨⟨3, 20⟩, fun _ => 0x40⟩ 0 ⟨0xFFFF, none, 0, 20, 20, 0, 0⟩ :=
  (LcdTouch_GetFontImageData_drawn_iff ⟨⟨3, 20⟩, fun _ => 0x40⟩ (by decide) (by decide) 0
    ⟨0xFFFF, none, 0, 20, 20, 0, 0⟩).mpr (by decide)

/-- The quotation mark is eight columns wide. -/
theorem LcdTouch_GetFontImageData_not_drawn :
    ¬ ∀ image : FontImage, 1 ≤ image.width.toNat → 1 ≤ image.height.toNat →
      ∀ s_backgroud_color image_data, Drawn image s_backgroud_color image_data := by
  intro always
  rcases always ⟨⟨8, 20⟩, fun _ => 0⟩ (by decide) (by decide) 0
    ⟨0xFFFF, none, 0, 20, 20, 0, 0⟩ with ⟨result, data_buf, returned, _, reads, _⟩
  have drawn := LcdTouch_GetFontImageData_eq ⟨⟨8, 20⟩, fun _ => 0⟩ 0
    ⟨0xFFFF, none, 0, 20, 20, 0, 0⟩ (by decide)
  rw [drawn, Option.some.injEq] at returned
  subst returned
  exact absurd (reads 20 (by decide +kernel)) (by decide)

end Display
end ToothVoca
