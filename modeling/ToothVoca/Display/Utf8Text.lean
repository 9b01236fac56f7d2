import ToothVoca.Display.DrawString

namespace ToothVoca
namespace Display

open Library

/-!
# Drawing UTF-8 texts

The decoder knows one-byte and three-byte characters.  Inside a two-byte or
four-byte character it takes single bytes, or one triple made of the three
tail bytes of a four-byte character.  In every case it is back at a character
boundary before the next character: a triple needs two tail bytes behind its
first byte, and no character starts with one.  `unitsOf_encode_cons` states
this for one character; the results about texts follow by induction.
-/

/-- The text does not start with a tail byte. -/
def Boundary (text : List UInt8) : Prop :=
  ∀ byte ∈ text.head?, ¬ Utf8.Tail byte

theorem Boundary.not_tail {first : UInt8} {rest : List UInt8}
    (boundary : Boundary (first :: rest)) : ¬ Utf8.Tail first :=
  boundary first rfl

theorem boundary_encode (text : List Char) : Boundary (Utf8.encode text) :=
  Utf8.encode_head_not_tail text

/-- The last byte in front of a boundary is a unit of its own, and so is the
last but one. -/
theorem unitsOf_last {first : UInt8} {rest : List UInt8} (boundary : Boundary rest) :
    unitsOf (first :: rest) = .single first :: unitsOf rest := by
  apply unitsOf_cons_single
  rintro second third tail rfl accepted
  exact boundary.not_tail accepted.2.2.1

theorem unitsOf_last_but_one {first second : UInt8} {rest : List UInt8}
    (boundary : Boundary rest) :
    unitsOf (first :: second :: rest) = .single first :: unitsOf (second :: rest) := by
  apply unitsOf_cons_single
  intro second' third tail shape accepted
  cases shape
  exact boundary.not_tail accepted.2.2.2

/-- A byte below 128, or one with bit 4 set, starts no triple. -/
theorem unitsOf_refused {first : UInt8} {rest : List UInt8}
    (refused : first.toNat < 127 ∨ first.toNat / 16 % 2 = 1) :
    unitsOf (first :: rest) = .single first :: unitsOf rest := by
  apply unitsOf_cons_single
  rintro second third tail _ ⟨large, bit, _, _⟩
  omega

theorem accepted_of_lead {first second third : UInt8} (lead : Utf8.Lead3 first)
    (tail : Utf8.Tail second) (tail' : Utf8.Tail third) : Accepted first second third := by
  unfold Utf8.Lead3 at lead
  exact ⟨by omega, by omega, tail, tail'⟩

/-- Inside one character the decoder takes bytes of this character only. -/
theorem unitsOf_code_append {character : Char} {bytes : List UInt8}
    (code : Utf8.Code character bytes) {rest : List UInt8} (boundary : Boundary rest) :
    unitsOf (bytes ++ rest) = unitsOf bytes ++ unitsOf rest := by
  have empty : Boundary [] := fun byte member => by cases member
  cases code with
  | one first code bound =>
      rw [List.singleton_append, unitsOf_last boundary, unitsOf_last empty]
      rfl
  | two first second lead tail bound =>
      rw [List.cons_append, List.singleton_append, unitsOf_last_but_one boundary,
        unitsOf_last boundary, unitsOf_last_but_one empty, unitsOf_last empty]
      rfl
  | three first second third lead tail tail' code bound =>
      have accepted := accepted_of_lead lead tail tail'
      simp only [List.cons_append, List.nil_append, unitsOf_cons_triple accepted]
      rfl
  | four first second third fourth lead tail tail' tail'' bound =>
      have small := first.toNat_lt
      have leadRefused : first.toNat < 127 ∨ first.toNat / 16 % 2 = 1 := by omega
      simp only [List.cons_append, List.nil_append, unitsOf_refused leadRefused]
      by_cases accepted : Accepted second third fourth
      · simp only [unitsOf_cons_triple accepted]
        rfl
      · have single (more : List UInt8) : unitsOf (second :: third :: fourth :: more) =
            .single second :: unitsOf (third :: fourth :: more) := by
          rw [unitsOf, if_neg accepted]
        simp only [single, unitsOf_last_but_one boundary, unitsOf_last boundary,
          unitsOf_last_but_one empty, unitsOf_last empty, List.cons_append]
        rfl

/-- The decoder is back at a boundary behind every character. -/
theorem unitsOf_encode_cons (character : Char) (text : List Char) :
    unitsOf (Utf8.encode (character :: text)) =
      unitsOf (String.utf8EncodeChar character) ++ unitsOf (Utf8.encode text) :=
  unitsOf_code_append (Utf8.code_utf8EncodeChar character) (boundary_encode text)

theorem unitsOf_encode_append (first second : List Char) :
    unitsOf (Utf8.encode (first ++ second)) =
      unitsOf (Utf8.encode first) ++ unitsOf (Utf8.encode second) := by
  induction first with
  | nil => rfl
  | cons character rest ih =>
      rw [List.cons_append, unitsOf_encode_cons, ih, unitsOf_encode_cons, List.append_assoc]

/-- What the decoder makes of a character it knows: one unit, with the code
point as its code. -/
theorem unitsOf_known (character : Char)
    (known : character.toNat < 0x7F ∨ (String.utf8EncodeChar character).length = 3) :
    ∃ unit, unitsOf (String.utf8EncodeChar character) = [unit] ∧
      unit.code.toNat = character.toNat ∧
      unit.outLen.toNat = (String.utf8EncodeChar character).length := by
  have code := Utf8.code_utf8EncodeChar character
  revert known code
  generalize String.utf8EncodeChar character = bytes
  intro known code
  cases code with
  | one first code bound =>
      exact ⟨.single first, rfl, (UInt8.toNat_toUInt32 first).trans code, rfl⟩
  | two first second lead tail bound =>
      simp only [List.length_cons, List.length_nil] at known
      omega
  | three first second third lead tail tail' code bound =>
      refine ⟨.triple first second third, ?_, (code_triple_lead lead tail tail').trans code, rfl⟩
      rw [unitsOf_cons_triple (accepted_of_lead lead tail tail')]
      rfl
  | four first second third fourth lead tail tail' tail'' bound =>
      simp only [List.length_cons, List.length_nil] at known
      omega

/-- What the decoder makes of any character starts at its first byte. -/
theorem unitsOf_nonempty (character : Char) :
    ∃ unit rest, unitsOf (String.utf8EncodeChar character) = unit :: rest := by
  rcases (Utf8.code_utf8EncodeChar character).head with ⟨first, others, shape, _⟩
  rw [shape, unitsOf_cons]
  exact ⟨_, _, rfl⟩

theorem encode_nulFree {text : List Char} (noNul : ∀ character ∈ text, character.toNat ≠ 0) :
    CString.NulFree (Utf8.encode text) := by
  intro member
  rcases List.mem_flatMap.mp member with ⟨character, inText, inBytes⟩
  exact (Utf8.code_utf8EncodeChar character).nul_free (noNul character inText) inBytes

/-! ## Every character is met at its first byte -/

/-- The loop visits the offset of every character, and a character below U+007F
or of three bytes is decoded there to its code point and consumed whole. -/
theorem drawString_visits_characters (text : List Char)
    (noNul : ∀ character ∈ text, character.toNat ≠ 0) (images : UInt32 → tImage)
    (x y : UInt32) :
    ∃ draws, LcdTouch_DrawString true images (Utf8.encode text ++ [0]) x y = some draws ∧
      ∀ before character after, text = before ++ character :: after →
        ∃ draw ∈ draws, draw.str_index = (Utf8.encode before).length ∧
          (character.toNat < 0x7F ∨ (String.utf8EncodeChar character).length = 3 →
            draw.unicode.toNat = character.toNat ∧
              draw.out_len.toNat = (String.utf8EncodeChar character).length) := by
  refine ⟨_, LcdTouch_DrawString_eq images (encode_nulFree noNul) [] x y, ?_⟩
  rintro before character after rfl
  rcases unitsOf_nonempty character with ⟨unit, others, first⟩
  have units : unitsOf (Utf8.encode (before ++ character :: after)) =
      unitsOf (Utf8.encode before) ++ unit :: (others ++ unitsOf (Utf8.encode after)) := by
    rw [unitsOf_encode_append, unitsOf_encode_cons, first, List.cons_append]
  rcases glyph_mem_place images 0 ⟨x.toUInt16, y.toUInt16⟩ (unitsOf (Utf8.encode before))
    (others ++ unitsOf (Utf8.encode after)) unit with ⟨draw, member, offset, code, length⟩
  rw [flatMap_bytes_unitsOf, Nat.zero_add] at offset
  refine ⟨draw, by rw [units]; exact member, offset, ?_⟩
  intro known
  rcases unitsOf_known character known with ⟨unit', single, code', length'⟩
  have same : unit = unit' := (List.cons.inj (first.symm.trans single)).1
  rw [code, length, same]
  exact ⟨code', length'⟩

/-- A four-byte character between two letters. -/
theorem drawString_visits_characters_mixed :
    ∃ draws, LcdTouch_DrawString true fontImages (Utf8.encode ['a', '😀', 'b'] ++ [0]) 10 10 =
        some draws ∧
      ∀ before character after, ['a', '😀', 'b'] = before ++ character :: after →
        ∃ draw ∈ draws, draw.str_index = (Utf8.encode before).length ∧
          (character.toNat < 0x7F ∨ (String.utf8EncodeChar character).length = 3 →
            draw.unicode.toNat = character.toNat ∧
              draw.out_len.toNat = (String.utf8EncodeChar character).length) :=
  drawString_visits_characters ['a', '😀', 'b'] (by simp) fontImages 10 10

end Display
end ToothVoca
