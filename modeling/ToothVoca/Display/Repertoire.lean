import Mathlib.Data.List.Forall2
import ToothVoca.Display.Utf8Text

namespace ToothVoca
namespace Display

open Library

/-!
# Texts over the repertoire of the font

A text of supported characters draws one table entry per character, in order.
`position` is the place of a character in the table; the three index formulas
of the source compute it from the decoded code point, and the code of the
entry there is the UTF-8 encoding of the character.  As places of different
characters differ, the sequence of indices determines the text.
-/

/-- Bytes read as one big-endian number. -/
def bigEndian (bytes : List UInt8) : Nat :=
  bytes.foldl (fun number byte => number * 256 + byte.toNat) 0

/-- The place of a supported code point in the table. -/
def position (codePoint : Nat) : Nat :=
  if codePoint ≤ 0x7E then codePoint - 0x20
  else if codePoint < 0xAC00 then 95 + (codePoint - 0x3131)
  else 189 + (codePoint - 0xAC00)

theorem position_lt {codePoint : Nat} (supported : Supported codePoint) :
    position codePoint < Font_length := by
  unfold Supported at supported
  unfold position Font_length
  split
  · omega
  · split <;> omega

theorem position_injective {first second : Nat} (supported : Supported first)
    (supported' : Supported second) (same : position first = position second) :
    first = second := by
  unfold Supported at supported supported'
  unfold position at same
  split at same
  · split at same
    · omega
    · split at same <;> omega
  · split at same
    · split at same
      · omega
      · split at same <;> omega
    · split at same
      · omega
      · split at same <;> omega

/-- The index formulas compute the place of a supported code point. -/
theorem fontIndex_of_supported (unicode : UInt32) (supported : Supported unicode.toNat) :
    (LcdTouch_GetFontIndexOfUnicode unicode).toNat = position unicode.toNat := by
  rw [LcdTouch_GetFontIndexOfUnicode_toNat]
  unfold position
  rcases supported with ascii | jamo | syllable
  · rw [if_pos (by omega), if_pos ascii.2]
    omega
  · rw [if_neg (by omega), if_neg (by omega), if_neg (by omega), if_pos (by omega)]
    omega
  · rw [if_neg (by omega), if_pos syllable.1, if_neg (by omega), if_neg (by omega)]
    omega

theorem supported_known {character : Char} (supported : Supported character.toNat) :
    character.toNat < 0x7F ∨ (String.utf8EncodeChar character).length = 3 := by
  have code := Utf8.code_utf8EncodeChar character
  revert code
  generalize String.utf8EncodeChar character = bytes
  intro code
  unfold Supported at supported
  cases code with
  | one first code bound => exact Or.inl (by omega)
  | two first second lead tail bound => omega
  | three first second third lead tail tail' code bound => exact Or.inr rfl
  | four first second third fourth lead tail tail' tail'' bound => omega

theorem koreanCode_assemble (high middle low : Nat) (middleSmall : middle < 64)
    (lowSmall : low < 64) :
    koreanCode (high * 4096 + middle * 64 + low) =
      (high + 0xE0) * 65536 + (middle + 0x80) * 256 + (low + 0x80) := by
  unfold koreanCode
  omega

/-- The three UTF-8 bytes of a code point, read as one number. -/
theorem bigEndian_three {first second third : UInt8} (lead : Utf8.Lead3 first)
    (tail : Utf8.Tail second) (tail' : Utf8.Tail third) :
    bigEndian [first, second, third] = koreanCode (Utf8.codePoint3 first second third) := by
  have read : bigEndian [first, second, third] =
      (first.toNat * 256 + second.toNat) * 256 + third.toNat := by
    simp only [bigEndian, List.foldl_cons, List.foldl_nil, Nat.zero_mul, Nat.zero_add]
  unfold Utf8.Lead3 Utf8.Tail at *
  have assembled := koreanCode_assemble (first.toNat - 0xE0) (second.toNat - 0x80)
    (third.toNat - 0x80) (by omega) (by omega)
  unfold Utf8.codePoint3
  omega

/-- The entry at the place of a Korean character. -/
theorem Font_array_korean {codePoint : Nat}
    (korean : (0x3131 ≤ codePoint ∧ codePoint ≤ 0x318E) ∨
      (0xAC00 ≤ codePoint ∧ codePoint ≤ 0xD7A3)) :
    Font_array[position codePoint]? = some (koreanEntry codePoint) := by
  rcases korean with jamo | syllable
  · have found := Font_array_jamo (codePoint - 0x3131) (by omega)
    rw [position, if_neg (by omega), if_pos (by omega), found, Nat.add_sub_cancel' jamo.1]
  · have found := Font_array_syllable (codePoint - 0xAC00) (by omega)
    rw [position, if_neg (by omega), if_neg (by omega), found, Nat.add_sub_cancel' syllable.1]

/-- The entry at the place of a supported character has the encoding of that
character as its code. -/
theorem Font_array_position {character : Char} (supported : Supported character.toNat) :
    ∃ entry, Font_array[position character.toNat]? = some entry ∧
      entry.code = bigEndian (String.utf8EncodeChar character) := by
  have code := Utf8.code_utf8EncodeChar character
  revert code
  generalize String.utf8EncodeChar character = bytes
  intro code
  rcases supported with ascii | korean
  · rcases Font_array_ascii (character.toNat - 0x20) (by omega) with ⟨width, _, found⟩
    have place : position character.toNat = character.toNat - 0x20 := if_pos ascii.2
    rw [place]
    refine ⟨_, found, ?_⟩
    cases code with
    | one first code bound =>
        simp only [asciiEntry, bigEndian, List.foldl_cons, List.foldl_nil, code]
        omega
    | two first second lead tail bound => omega
    | three first second third lead tail tail' code bound => omega
    | four first second third fourth lead tail tail' tail'' bound => omega
  · refine ⟨_, Font_array_korean korean, ?_⟩
    cases code with
    | one first code bound => omega
    | two first second lead tail bound => omega
    | three first second third lead tail tail' code bound =>
        rw [bigEndian_three lead tail tail', code, koreanEntry]
    | four first second third fourth lead tail tail' tail'' bound => omega

/-- Every character of the text has an image in the font. -/
def SupportedText (text : List Char) : Prop :=
  ∀ character ∈ text, Supported character.toNat

instance (text : List Char) : Decidable (SupportedText text) :=
  List.decidableBAll (fun character : Char => Supported character.toNat) text

theorem SupportedText.nulFree {text : List Char} (supported : SupportedText text) :
    CString.NulFree (Utf8.encode text) := by
  apply encode_nulFree
  intro character member zero
  have range := supported character member
  rw [zero] at range
  exact absurd range (by decide)

theorem supportedText_cons {character : Char} {rest : List Char} :
    SupportedText (character :: rest) ↔ Supported character.toNat ∧ SupportedText rest :=
  List.forall_mem_cons

/-- The place of a character determines the text. -/
theorem map_position_injective {first second : List Char} (supported : SupportedText first)
    (supported' : SupportedText second)
    (same : (first.map fun character => position character.toNat) =
      second.map fun character => position character.toNat) :
    first = second := by
  induction first generalizing second with
  | nil =>
      cases second with
      | nil => rfl
      | cons character rest => cases same
  | cons character rest ih =>
      cases second with
      | nil => cases same
      | cons character' rest' =>
          rcases supportedText_cons.mp supported with ⟨head, tail⟩
          rcases supportedText_cons.mp supported' with ⟨head', tail'⟩
          rcases List.cons.inj same with ⟨sameHead, sameTail⟩
          have code := position_injective head head' sameHead
          rw [Char.toNat_inj.mp code, ih tail tail' sameTail]

/-! ## One entry for each character -/

section Draw

variable (images : UInt32 → tImage)

/-- The indices requested for a supported text are the places of its
characters. -/
theorem place_supported {text : List Char} (supported : SupportedText text) (str_index : Nat)
    (pen : Pen) :
    List.Forall₂ (fun (character : Char) (draw : GlyphDraw) =>
      draw.fontIndex.toNat = position character.toNat)
      text (place images str_index pen (unitsOf (Utf8.encode text))) := by
  induction text generalizing str_index pen with
  | nil => exact List.Forall₂.nil
  | cons character rest ih =>
      rcases supportedText_cons.mp supported with ⟨head, tail⟩
      rcases unitsOf_known character (supported_known head) with ⟨unit, single, code, _⟩
      have index := fontIndex_of_supported unit.code (by rw [code]; exact head)
      rw [unitsOf_encode_cons, single, List.singleton_append, place]
      refine List.Forall₂.cons ?_ (ih tail _ _)
      exact index.trans (congrArg position code)

end Draw

theorem map_position_of_forall₂ {text : List Char} {draws : List GlyphDraw}
    (places : List.Forall₂ (fun (character : Char) (draw : GlyphDraw) =>
      draw.fontIndex.toNat = position character.toNat) text draws) :
    (text.map fun character => position character.toNat) =
      (draws.map GlyphDraw.fontIndex).map UInt32.toNat := by
  induction places with
  | nil => rfl
  | cons same _ ih => rw [List.map_cons, List.map_cons, List.map_cons, ih, same]

/-- A supported text requests one entry of the table for each of its
characters, in order, with the encoding of the character as its code, and no
other supported text requests the same indices. -/
theorem drawString_font_entries (text other : List Char) (supported : SupportedText text)
    (supported' : SupportedText other) (images : UInt32 → tImage) (behind : List UInt8)
    (x y : UInt32) :
    ∃ draws, LcdTouch_DrawString true images (Utf8.encode text ++ 0 :: behind) x y =
        some draws ∧
      List.Forall₂ (fun (character : Char) (draw : GlyphDraw) =>
        draw.fontIndex.toNat < Font_length ∧
          ∃ entry, Font_array[draw.fontIndex.toNat]? = some entry ∧
            entry.code = bigEndian (String.utf8EncodeChar character)) text draws ∧
      ∀ images' behind' x' y' draws',
        LcdTouch_DrawString true images' (Utf8.encode other ++ 0 :: behind') x' y' =
          some draws' →
        draws.map GlyphDraw.fontIndex = draws'.map GlyphDraw.fontIndex → text = other := by
  have places := place_supported images supported 0 ⟨x.toUInt16, y.toUInt16⟩
  refine ⟨_, LcdTouch_DrawString_eq images supported.nulFree behind x y, ?_, ?_⟩
  · refine List.forall₂_of_length_eq_of_get places.length_eq ?_
    intro index inText inDraws
    have place := places.get inText inDraws
    have supportedHere := supported _ (List.get_mem text ⟨index, inText⟩)
    rw [place]
    exact ⟨position_lt supportedHere, Font_array_position supportedHere⟩
  · intro images' behind' x' y' draws' drawn same
    have places' := place_supported images' supported' 0 ⟨x'.toUInt16, y'.toUInt16⟩
    rw [LcdTouch_DrawString_eq images' supported'.nulFree behind' x' y'] at drawn
    cases drawn
    apply map_position_injective supported supported'
    rw [map_position_of_forall₂ places, map_position_of_forall₂ places', same]

/-- A text with characters of all three blocks. -/
theorem drawString_font_entries_blocks :
    ∃ draws, LcdTouch_DrawString true fontImages (Utf8.encode ['a', 'ㄱ', '가'] ++ 0 :: [])
        10 10 = some draws ∧
      List.Forall₂ (fun (character : Char) (draw : GlyphDraw) =>
        draw.fontIndex.toNat < Font_length ∧
          ∃ entry, Font_array[draw.fontIndex.toNat]? = some entry ∧
            entry.code = bigEndian (String.utf8EncodeChar character)) ['a', 'ㄱ', '가'] draws ∧
      ∀ images' behind' x' y' draws',
        LcdTouch_DrawString true images' (Utf8.encode ['a', 'ㄴ', '가'] ++ 0 :: behind') x' y' =
          some draws' →
        draws.map GlyphDraw.fontIndex = draws'.map GlyphDraw.fontIndex →
          ['a', 'ㄱ', '가'] = ['a', 'ㄴ', '가'] :=
  drawString_font_entries ['a', 'ㄱ', '가'] ['a', 'ㄴ', '가'] (by decide +kernel)
    (by decide +kernel) fontImages [] 10 10

end Display
end ToothVoca
