import ToothVoca.Display.Utf8Text
import ToothVoca.Network.ReqWord

namespace ToothVoca
namespace Display

open Library

/-!
# Which texts stay inside the font table

Nothing between the socket and the screen filters a text, and the three index
formulas are total: they yield an index for every code.  `Drawable` is the
grammar of the texts whose indices are all inside the table, over bytes and
without the decoder.  It is larger than the supported repertoire, as the
middle formula shifts a whole range of code points into the table, and it has
no line ends, no two-byte or four-byte characters and no quotation marks.
-/

/-- Texts of printable ASCII bytes and of three-byte forms with a value in one
of the three ranges. -/
inductive Drawable : List UInt8 → Prop where
  | empty : Drawable []
  | ascii {byte : UInt8} {rest : List UInt8}
      (printable : 0x20 ≤ byte.toNat ∧ byte.toNat ≤ 0x7E) (drawable : Drawable rest) :
      Drawable (byte :: rest)
  | korean {first second third : UInt8} {rest : List UInt8} (lead : Utf8.Lead3 first)
      (tail : Utf8.Tail second) (tail' : Utf8.Tail third)
      (inTable : InTable (Utf8.codePoint3 first second third)) (drawable : Drawable rest) :
      Drawable (first :: second :: third :: rest)

/-- A single byte has its index in the table when it is printable ASCII. -/
theorem inTable_single_iff (byte : UInt8) :
    InTable (DecodedUnit.single byte).code.toNat ↔ 0x20 ≤ byte.toNat ∧ byte.toNat ≤ 0x7E := by
  have small := byte.toNat_lt
  have value : (DecodedUnit.single byte).code.toNat = byte.toNat := UInt8.toNat_toUInt32 byte
  rw [value]
  unfold InTable
  omega

/-- An accepted triple has its index in the table only behind a proper lead
byte: every other one wraps to a huge code. -/
theorem inTable_triple {first second third : UInt8} (accepted : Accepted first second third)
    (inTable : InTable (DecodedUnit.triple first second third).code.toNat) :
    Utf8.Lead3 first ∧ InTable (Utf8.codePoint3 first second third) := by
  by_cases lead : Utf8.Lead3 first
  · rw [code_triple_lead lead accepted.2.2.1 accepted.2.2.2] at inTable
    exact ⟨lead, inTable⟩
  · have huge := code_triple_wrapped accepted lead
    unfold InTable at inTable
    omega

theorem Drawable.of_units {text : List UInt8}
    (inTable : ∀ unit ∈ unitsOf text, InTable unit.code.toNat) : Drawable text := by
  fun_induction unitsOf text with
  | case1 first second third rest accepted ih =>
      rcases inTable_triple accepted (inTable _ List.mem_cons_self) with ⟨lead, value⟩
      exact .korean lead accepted.2.2.1 accepted.2.2.2 value
        (ih fun unit member => inTable unit (List.mem_cons_of_mem _ member))
  | case2 first second third rest refused ih =>
      exact .ascii ((inTable_single_iff first).mp (inTable _ List.mem_cons_self))
        (ih fun unit member => inTable unit (List.mem_cons_of_mem _ member))
  | case3 first rest short ih =>
      exact .ascii ((inTable_single_iff first).mp (inTable _ List.mem_cons_self))
        (ih fun unit member => inTable unit (List.mem_cons_of_mem _ member))
  | case4 => exact .empty

theorem Drawable.units {text : List UInt8} (drawable : Drawable text) :
    ∀ unit ∈ unitsOf text, InTable unit.code.toNat := by
  induction drawable with
  | empty =>
      intro unit member
      cases member
  | ascii printable drawable ih =>
      rw [unitsOf_refused (Or.inl (Nat.lt_succ_of_le printable.2))]
      exact List.forall_mem_cons.mpr ⟨(inTable_single_iff _).mpr printable, ih⟩
  | korean lead tail tail' inTable drawable ih =>
      rw [unitsOf_cons_triple (accepted_of_lead lead tail tail')]
      rw [← code_triple_lead lead tail tail'] at inTable
      exact List.forall_mem_cons.mpr ⟨inTable, ih⟩

theorem place_indices_iff (images : UInt32 → tImage) (str_index : Nat) (pen : Pen)
    (units : List DecodedUnit) :
    (∀ draw ∈ place images str_index pen units, draw.fontIndex.toNat < Font_length) ↔
      ∀ unit ∈ units, InTable unit.code.toNat := by
  have indices := map_fontIndex_place images str_index pen units
  have mapped : (∀ index ∈ (place images str_index pen units).map GlyphDraw.fontIndex,
      index.toNat < Font_length) ↔ ∀ unit ∈ units, InTable unit.code.toNat := by
    rw [indices, List.forall_mem_map]
    exact forall₂_congr fun unit _ => fontIndex_lt_iff unit.code
  rwa [List.forall_mem_map] at mapped

/-- Drawing any text requests indices inside the table only, exactly when the
text is drawable. -/
theorem drawString_indices_iff (text : List UInt8) (free : CString.NulFree text)
    (images : UInt32 → tImage) (behind : List UInt8) (x y : UInt32) :
    ∃ draws, LcdTouch_DrawString true images (text ++ 0 :: behind) x y = some draws ∧
      ((∀ draw ∈ draws, draw.fontIndex.toNat < Font_length) ↔ Drawable text) := by
  refine ⟨_, LcdTouch_DrawString_eq images free behind x y, ?_⟩
  rw [place_indices_iff]
  exact ⟨Drawable.of_units, Drawable.units⟩

/-- A letter and the syllable U+AC00. -/
theorem drawString_indices_letters :
    ∃ draws, LcdTouch_DrawString true fontImages ([97, 0xEA, 0xB0, 0x80] ++ 0 :: []) 10 10 =
        some draws ∧
      ((∀ draw ∈ draws, draw.fontIndex.toNat < Font_length) ↔
        Drawable [97, 0xEA, 0xB0, 0x80]) :=
  drawString_indices_iff [97, 0xEA, 0xB0, 0x80] (by decide) fontImages [] 10 10

/-- The response `\r\n\r\na:b\n`: the line end behind the sentence is stored
with it, and its index is far behind the table. -/
theorem drawString_indices_line_end :
    ¬ ∀ (buf : List UInt8) (held : Network.WordSentence) (images : UInt32 → tImage)
      (x y : UInt32) (draws : List GlyphDraw),
      LcdTouch_DrawString true images (Network.ReqWord_ParseResponse buf held).sentence.bytes
        x y = some draws →
      ∀ draw ∈ draws, draw.fontIndex.toNat < Font_length := by
  intro always
  have stored : (Network.ReqWord_ParseResponse [13, 10, 13, 10, 97, 58, 98, 10, 0]
      .initial).sentence.bytes = [98, 10] ++ 0 :: List.replicate 253 0 := by
    decide +kernel
  have bounded := always [13, 10, 13, 10, 97, 58, 98, 10, 0] .initial fontImages 10 60
  rw [stored, LcdTouch_DrawString_eq fontImages (by decide)] at bounded
  have inTable := (place_indices_iff fontImages _ _ _).mp (bounded _ rfl)
  exact absurd (inTable (.single 10) (by decide)) (by decide)

end Display
end ToothVoca
