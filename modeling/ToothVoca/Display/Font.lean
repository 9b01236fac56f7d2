import Mathlib.Data.UInt
import ToothVoca.Library.Utf8

namespace ToothVoca
namespace Display

open Library

/-!
# The font table of `Font.h` and the index into it

The generated table lists its characters in the order of their codes: the
printable ASCII characters, the compatibility jamo and the syllable block.
The code of a Korean character is its three UTF-8 bytes read as one
big-endian number.  Every image is 20 rows high, and every Korean one 20
columns wide; the ASCII characters are narrower.  The pixel data of the images
is not part of the table here.

The index is computed from the code point by three subtractions in unsigned
32-bit arithmetic, so a code point in front of its block wraps to a huge
index instead of a negative one.
-/

def LT_LCD_BIT_PER_PIXEL : Nat := 16

structure tImage where
  width : UInt16
  height : UInt16
deriving DecidableEq, Repr

structure tChar where
  code : Nat
  image : tImage
deriving DecidableEq, Repr

/-- The widths of the characters from `' '` to `'~'`. -/
def asciiWidths : List UInt16 :=
  [7, 7, 8, 12, 11, 17, 13, 7, 6, 6, 11, 11, 7, 11, 7, 9,
    11, 11, 11, 11, 11, 11, 11, 11, 11, 11, 7, 7, 11, 11, 11, 11,
    17, 13, 12, 12, 13, 12, 11, 14, 12, 3, 8, 11, 11, 15, 12, 15,
    12, 15, 12, 13, 12, 12, 13, 17, 13, 13, 12, 10, 19, 10, 11, 10,
    7, 10, 10, 10, 10, 11, 6, 10, 10, 3, 4, 9, 3, 15, 10, 11,
    11, 11, 5, 10, 6, 10, 10, 14, 11, 10, 10, 10, 10, 10, 15]

/-- The code of a three-byte character: `1110xxxx 10xxxxxx 10xxxxxx`. -/
def koreanCode (codePoint : Nat) : Nat :=
  0xE08080 + codePoint / 4096 * 0x10000 + codePoint / 64 % 64 * 0x100 + codePoint % 64

def asciiEntry (width : UInt16) (code : Nat) : tChar :=
  ⟨code, ⟨width, 20⟩⟩

def koreanEntry (codePoint : Nat) : tChar :=
  ⟨koreanCode codePoint, ⟨20, 20⟩⟩

def asciiBlock : List tChar :=
  asciiWidths.zipIdx.map fun entry => asciiEntry entry.1 (0x20 + entry.2)

def jamoBlock : List tChar :=
  (List.range 94).map fun offset => koreanEntry (0x3131 + offset)

def syllableBlock : List tChar :=
  (List.range 11172).map fun offset => koreanEntry (0xAC00 + offset)

def Font_array : List tChar :=
  asciiBlock ++ jamoBlock ++ syllableBlock

/-- The field `Font.length`. -/
def Font_length : Nat := 11361

def PC_CONSONANTS_VOWELS_INDEX_IN_UNICODE : UInt32 := 0x3131
def PC_COMPLETE_TYPE_TEXT_INDEX_IN_UNICODE : UInt32 := 0xAC00
def LT_CONSONANTS_VOWELS_INDEX_IN_FONT : UInt32 := 95
def LT_COMPLETE_TYPE_TEXT_INDEX_IN_FONT : UInt32 := 189
def LT_GAP_UNICODE_FONTFILE : UInt32 := 32

def LT_CALI_VALUE_OF_CV_INDEX : UInt32 :=
  PC_CONSONANTS_VOWELS_INDEX_IN_UNICODE - LT_CONSONANTS_VOWELS_INDEX_IN_FONT

def LT_CALI_VALUE_OF_CT_INDEX : UInt32 :=
  PC_COMPLETE_TYPE_TEXT_INDEX_IN_UNICODE - LT_COMPLETE_TYPE_TEXT_INDEX_IN_FONT

def LcdTouch_GetFontIndexOfUnicode (unicode : UInt32) : UInt32 :=
  if unicode < 127 then
    unicode - LT_GAP_UNICODE_FONTFILE
  else if PC_COMPLETE_TYPE_TEXT_INDEX_IN_UNICODE ≤ unicode then
    unicode - LT_CALI_VALUE_OF_CT_INDEX
  else
    unicode - LT_CALI_VALUE_OF_CV_INDEX

/-- The characters that the font has an image for. -/
def Supported (codePoint : Nat) : Prop :=
  (0x20 ≤ codePoint ∧ codePoint ≤ 0x7E) ∨ (0x3131 ≤ codePoint ∧ codePoint ≤ 0x318E) ∨
    (0xAC00 ≤ codePoint ∧ codePoint ≤ 0xD7A3)

instance (codePoint : Nat) : Decidable (Supported codePoint) :=
  inferInstanceAs (Decidable (_ ∨ _))

/-! ## The table -/

@[simp] theorem length_asciiBlock : asciiBlock.length = 95 := by
  rw [asciiBlock, List.length_map, List.length_zipIdx]
  rfl

@[simp] theorem length_jamoBlock : jamoBlock.length = 94 := by
  rw [jamoBlock, List.length_map, List.length_range]

@[simp] theorem length_syllableBlock : syllableBlock.length = 11172 := by
  rw [syllableBlock, List.length_map, List.length_range]

theorem length_Font_array : Font_array.length = Font_length := by
  rw [Font_array, List.length_append, List.length_append, length_asciiBlock, length_jamoBlock,
    length_syllableBlock]
  rfl

theorem Font_array_ascii (offset : Nat) (inside : offset < 95) :
    ∃ width ∈ asciiWidths, Font_array[offset]? = some (asciiEntry width (0x20 + offset)) := by
  have bound : offset < asciiWidths.length := inside
  refine ⟨asciiWidths[offset], List.getElem_mem bound, ?_⟩
  rw [Font_array, List.append_assoc, List.getElem?_append_left (by simpa using inside)]
  simp [asciiBlock, bound]

theorem Font_array_jamo (offset : Nat) (inside : offset < 94) :
    Font_array[95 + offset]? = some (koreanEntry (0x3131 + offset)) := by
  have bound : (asciiBlock ++ jamoBlock).length = 189 := by simp
  rw [Font_array, List.getElem?_append_left (by omega),
    List.getElem?_append_right (by simp), length_asciiBlock, Nat.add_sub_cancel_left]
  simp [jamoBlock, inside]

theorem Font_array_syllable (offset : Nat) (inside : offset < 11172) :
    Font_array[189 + offset]? = some (koreanEntry (0xAC00 + offset)) := by
  have bound : (asciiBlock ++ jamoBlock).length = 189 := by simp
  rw [Font_array, List.getElem?_append_right (by omega), bound, Nat.add_sub_cancel_left]
  simp [syllableBlock, inside]

theorem asciiWidths_bounds {width : UInt16} (member : width ∈ asciiWidths) :
    3 ≤ width.toNat ∧ width.toNat ≤ 19 := by
  have checked :
      asciiWidths.all (fun width => 3 ≤ width.toNat ∧ width.toNat ≤ 19) = true := by
    decide +kernel
  exact of_decide_eq_true (List.all_eq_true.mp checked width member)

/-- Every image of the table is 3 to 20 columns wide and 20 rows high. -/
theorem Font_array_image {entry : tChar} (member : entry ∈ Font_array) :
    3 ≤ entry.image.width.toNat ∧ entry.image.width.toNat ≤ 20 ∧
      entry.image.height.toNat = 20 := by
  have korean (codePoint : Nat) : 3 ≤ (koreanEntry codePoint).image.width.toNat ∧
      (koreanEntry codePoint).image.width.toNat ≤ 20 ∧
      (koreanEntry codePoint).image.height.toNat = 20 :=
    ⟨Nat.le_add_left 3 17, Nat.le_refl 20, rfl⟩
  rw [Font_array, List.mem_append, List.mem_append] at member
  rcases member with (inAscii | inJamo) | inSyllable
  · rcases List.mem_map.mp inAscii with ⟨indexed, inWidths, shape⟩
    have bounds := asciiWidths_bounds (List.fst_mem_of_mem_zipIdx inWidths)
    rw [← shape]
    exact ⟨bounds.1, Nat.le_succ_of_le bounds.2, rfl⟩
  · rcases List.mem_map.mp inJamo with ⟨offset, _, shape⟩
    rw [← shape]
    exact korean _
  · rcases List.mem_map.mp inSyllable with ⟨offset, _, shape⟩
    rw [← shape]
    exact korean _

/-! ## The index -/

/-- The index as a number, with the two wraps. -/
theorem LcdTouch_GetFontIndexOfUnicode_toNat (unicode : UInt32) :
    (LcdTouch_GetFontIndexOfUnicode unicode).toNat =
      if unicode.toNat < 127 then (unicode.toNat + (2 ^ 32 - 32)) % 2 ^ 32
      else if 0xAC00 ≤ unicode.toNat then unicode.toNat - 43843
      else (unicode.toNat + (2 ^ 32 - 12498)) % 2 ^ 32 := by
  have small := unicode.toNat_lt
  have fromSyllables : PC_COMPLETE_TYPE_TEXT_INDEX_IN_UNICODE ≤ unicode ↔
      0xAC00 ≤ unicode.toNat := UInt32.le_iff_toNat_le
  unfold LcdTouch_GetFontIndexOfUnicode
  by_cases ascii : unicode.toNat < 127
  · rw [if_pos (UInt32.lt_iff_toNat_lt.mpr ascii), if_pos ascii, UInt32.toNat_sub]
    simp only [LT_GAP_UNICODE_FONTFILE, UInt32.reduceToNat]
    omega
  · rw [if_neg (fun less => ascii (UInt32.lt_iff_toNat_lt.mp less)), if_neg ascii]
    by_cases syllable : 0xAC00 ≤ unicode.toNat
    · rw [if_pos (fromSyllables.mpr syllable), if_pos syllable, UInt32.toNat_sub]
      simp only [LT_CALI_VALUE_OF_CT_INDEX, PC_COMPLETE_TYPE_TEXT_INDEX_IN_UNICODE,
        LT_COMPLETE_TYPE_TEXT_INDEX_IN_FONT, UInt32.reduceSub, UInt32.reduceToNat]
      omega
    · rw [if_neg (fun le => syllable (fromSyllables.mp le)), if_neg syllable,
        UInt32.toNat_sub]
      simp only [LT_CALI_VALUE_OF_CV_INDEX, PC_CONSONANTS_VOWELS_INDEX_IN_UNICODE,
        LT_CONSONANTS_VOWELS_INDEX_IN_FONT, UInt32.reduceSub, UInt32.reduceToNat]
      omega

/-- The codes whose index is inside the table: the printable ASCII characters,
the syllables, and all 11361 code points from U+30D2 on that the middle
formula shifts into the table, jamo or not. -/
def InTable (code : Nat) : Prop :=
  (0x20 ≤ code ∧ code ≤ 0x7E) ∨ (0x30D2 ≤ code ∧ code ≤ 0x5D32) ∨
    (0xAC00 ≤ code ∧ code ≤ 0xD7A3)

instance (code : Nat) : Decidable (InTable code) :=
  inferInstanceAs (Decidable (_ ∨ _))

theorem fontIndex_lt_iff (unicode : UInt32) :
    (LcdTouch_GetFontIndexOfUnicode unicode).toNat < Font_length ↔ InTable unicode.toNat := by
  have value := LcdTouch_GetFontIndexOfUnicode_toNat unicode
  have small := unicode.toNat_lt
  unfold Font_length InTable
  split at value
  · omega
  · split at value <;> omega

end Display
end ToothVoca
