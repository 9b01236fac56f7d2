import Mathlib.Data.UInt

namespace Library

/-!
# The byte patterns of UTF-8

The encoder is Lean's `String.utf8EncodeChar`; a character is a Unicode scalar
value.  What a decoder has to know about it is collected in `Code`: for each
of the four lengths, the range of the lead byte, that every further byte is a
tail byte, and for one and three bytes how the code point is assembled.

No lead byte is a tail byte.  A decoder that is positioned inside a character
it does not understand can therefore overrun that character only by taking a
lead byte for a tail.
-/

namespace Utf8

/-- The form `10xxxxxx`. -/
def Tail (byte : UInt8) : Prop :=
  0x80 ≤ byte.toNat ∧ byte.toNat < 0xC0

instance (byte : UInt8) : Decidable (Tail byte) :=
  inferInstanceAs (Decidable (_ ∧ _))

/-- The form `1110xxxx`. -/
def Lead3 (byte : UInt8) : Prop :=
  0xE0 ≤ byte.toNat ∧ byte.toNat < 0xF0

instance (byte : UInt8) : Decidable (Lead3 byte) :=
  inferInstanceAs (Decidable (_ ∧ _))

/-- The code point assembled from a three-byte form. -/
def codePoint3 (first second third : UInt8) : Nat :=
  (first.toNat - 0xE0) * 4096 + (second.toNat - 0x80) * 64 + (third.toNat - 0x80)

/-- The three payloads of the encoder assemble to the number they come from. -/
theorem codePoint3_assemble {number : Nat} (bound : number < 0x10000) :
    codePoint3 (UInt8.ofNat (number / 4096 % 16 + 0xE0)) (UInt8.ofNat (number / 64 % 64 + 0x80))
      (UInt8.ofNat (number % 64 + 0x80)) = number := by
  have byte {payload : Nat} (small : payload < 256) : (UInt8.ofNat payload).toNat = payload := by
    rw [UInt8.toNat_ofNat']
    exact Nat.mod_eq_of_lt small
  unfold codePoint3
  rw [byte (by omega), byte (by omega), byte (by omega), Nat.add_sub_cancel, Nat.add_sub_cancel,
    Nat.add_sub_cancel]
  omega

/-- A list of characters in UTF-8. -/
def encode (text : List Char) : List UInt8 :=
  text.flatMap String.utf8EncodeChar

theorem encode_cons (character : Char) (text : List Char) :
    encode (character :: text) = String.utf8EncodeChar character ++ encode text :=
  rfl

/-- The four shapes of an encoded character. -/
inductive Code (character : Char) : List UInt8 → Prop where
  | one (first : UInt8) (code : first.toNat = character.toNat)
      (bound : character.toNat < 0x80) : Code character [first]
  | two (first second : UInt8) (lead : 0xC0 ≤ first.toNat ∧ first.toNat < 0xE0)
      (tail : Tail second) (bound : 0x80 ≤ character.toNat ∧ character.toNat < 0x800) :
      Code character [first, second]
  | three (first second third : UInt8) (lead : Lead3 first) (tail : Tail second)
      (tail' : Tail third) (code : codePoint3 first second third = character.toNat)
      (bound : 0x800 ≤ character.toNat ∧ character.toNat < 0x10000) :
      Code character [first, second, third]
  | four (first second third fourth : UInt8) (lead : 0xF0 ≤ first.toNat) (tail : Tail second)
      (tail' : Tail third) (tail'' : Tail fourth) (bound : 0x10000 ≤ character.toNat) :
      Code character [first, second, third, fourth]

/-- Every character is encoded in one of the four shapes. -/
theorem code_utf8EncodeChar (character : Char) :
    Code character (String.utf8EncodeChar character) := by
  have value : character.val.toNat = character.toNat := rfl
  have scalar : character.toNat < 0x110000 := by
    have valid := character.valid
    simp only [UInt32.isValidChar, Nat.isValidChar, value] at valid
    omega
  unfold String.utf8EncodeChar
  simp only [value]
  split
  · apply Code.one
    · rw [UInt8.toNat_ofNat']
      omega
    · omega
  · split
    · apply Code.two
      · simp only [UInt8.toNat_ofNat']
        omega
      · simp only [Tail, UInt8.toNat_ofNat']
        omega
      · omega
    · split
      · apply Code.three
        · simp only [Lead3, UInt8.toNat_ofNat']
          omega
        · simp only [Tail, UInt8.toNat_ofNat']
          omega
        · simp only [Tail, UInt8.toNat_ofNat']
          omega
        · exact codePoint3_assemble (by omega)
        · omega
      · apply Code.four
        · simp only [UInt8.toNat_ofNat']
          omega
        · simp only [Tail, UInt8.toNat_ofNat']
          omega
        · simp only [Tail, UInt8.toNat_ofNat']
          omega
        · simp only [Tail, UInt8.toNat_ofNat']
          omega
        · omega

/-- The encoding of a character starts with a byte that is not a tail. -/
theorem Code.head {character : Char} {bytes : List UInt8} (code : Code character bytes) :
    ∃ first rest, bytes = first :: rest ∧ ¬ Tail first := by
  cases code with
  | one first code bound => exact ⟨first, [], rfl, by unfold Tail; omega⟩
  | two first second lead tail bound => exact ⟨first, _, rfl, by unfold Tail; omega⟩
  | three first second third lead tail tail' code bound =>
      unfold Lead3 at lead
      exact ⟨first, _, rfl, by unfold Tail; omega⟩
  | four first second third fourth lead tail tail' tail'' bound =>
      exact ⟨first, _, rfl, by unfold Tail; omega⟩

/-- What follows a complete character does not start with a tail byte. -/
theorem encode_head_not_tail (text : List Char) :
    ∀ byte ∈ (encode text).head?, ¬ Tail byte := by
  intro byte member
  cases text with
  | nil => cases member
  | cons character rest =>
      rcases (code_utf8EncodeChar character).head with ⟨first, others, shape, notTail⟩
      rw [encode_cons, shape, List.cons_append, List.head?_cons] at member
      cases member
      exact notTail

/-- Only the character NUL has a NUL byte in its encoding. -/
theorem Code.nul_free {character : Char} {bytes : List UInt8} (code : Code character bytes)
    (nonzero : character.toNat ≠ 0) : 0 ∉ bytes := by
  have zero : (0 : UInt8).toNat = 0 := rfl
  intro member
  cases code with
  | one first code bound =>
      simp only [List.mem_singleton] at member
      rw [← member, zero] at code
      exact nonzero code.symm
  | two first second lead tail bound =>
      unfold Tail at tail
      simp only [List.mem_cons, List.not_mem_nil, or_false, ← UInt8.toNat_inj, zero] at member
      omega
  | three first second third lead tail tail' code bound =>
      unfold Lead3 Tail at *
      simp only [List.mem_cons, List.not_mem_nil, or_false, ← UInt8.toNat_inj, zero] at member
      omega
  | four first second third fourth lead tail tail' tail'' bound =>
      unfold Tail at *
      simp only [List.mem_cons, List.not_mem_nil, or_false, ← UInt8.toNat_inj, zero] at member
      omega

/-! ## Cutting an encoded text to a number of bytes -/

/-- The limit falls inside of a character of the text. -/
def cutInside : List Char → Nat → Bool
  | [], _ => false
  | character :: rest, limit =>
      if limit < (String.utf8EncodeChar character).length then limit != 0
      else cutInside rest (limit - (String.utf8EncodeChar character).length)

/-- The bytes up to the limit are whole characters exactly when the limit does
not fall inside of one. -/
theorem take_encode_iff (text : List Char) (limit : Nat) :
    (∃ front, front <+: text ∧ (encode text).take limit = encode front) ↔
      cutInside text limit = false := by
  induction text generalizing limit with
  | nil => exact iff_of_true ⟨[], List.nil_prefix, List.take_nil⟩ rfl
  | cons character rest ih =>
      rw [cutInside, encode_cons]
      by_cases inside : limit < (String.utf8EncodeChar character).length
      · rw [if_pos inside, List.take_append_of_le_length (Nat.le_of_lt inside)]
        constructor
        · rintro ⟨front, isPrefix, same⟩
          have lengths := congrArg List.length same
          rw [List.length_take, Nat.min_eq_left (Nat.le_of_lt inside)] at lengths
          cases front with
          | nil =>
              rw [lengths]
              rfl
          | cons first others =>
              rw [(List.cons_prefix_cons.mp isPrefix).1, encode_cons, List.length_append] at lengths
              omega
        · intro zero
          have none : limit = 0 := by simpa using zero
          exact ⟨[], List.nil_prefix, by rw [none]; rfl⟩
      · have beyond : limit = (String.utf8EncodeChar character).length +
            (limit - (String.utf8EncodeChar character).length) := by omega
        rw [if_neg inside, ← ih]
        generalize limit - (String.utf8EncodeChar character).length = left at *
        rw [beyond, List.take_length_add_append]
        constructor
        · rintro ⟨front, isPrefix, same⟩
          cases front with
          | nil =>
              have empty := (List.append_eq_nil_iff.mp same).1
              have positive := character.utf8Size_pos
              rw [← String.length_utf8EncodeChar, empty] at positive
              exact absurd positive (Nat.lt_irrefl 0)
          | cons first others =>
              rcases List.cons_prefix_cons.mp isPrefix with ⟨sameFirst, others'⟩
              rw [sameFirst, encode_cons] at same
              exact ⟨others, others', List.append_cancel_left same⟩
        · rintro ⟨front, isPrefix, same⟩
          exact ⟨character :: front, List.cons_prefix_cons.mpr ⟨rfl, isPrefix⟩, by
            rw [same, encode_cons]⟩

/-- Another character than a given one of one byte starts with another byte. -/
theorem head_ne_of_single {character other : Char} {byte : UInt8}
    (single : String.utf8EncodeChar character = [byte]) (differ : other ≠ character) :
    ∃ first rest, String.utf8EncodeChar other = first :: rest ∧ first ≠ byte := by
  have value : byte.toNat = character.toNat ∧ character.toNat < 0x80 := by
    have code := code_utf8EncodeChar character
    rw [single] at code
    cases code with
    | one first code bound => exact ⟨code, bound⟩
  have code := code_utf8EncodeChar other
  generalize String.utf8EncodeChar other = bytes at code
  cases code with
  | one first code bound =>
      refine ⟨first, [], rfl, fun same => differ (Char.toNat_inj.mp ?_)⟩
      rw [← code, same, value.1]
  | two first second lead tail bound =>
      refine ⟨first, _, rfl, fun same => ?_⟩
      rw [same] at lead
      omega
  | three first second third lead tail tail' code bound =>
      refine ⟨first, _, rfl, fun same => ?_⟩
      rw [same] at lead
      unfold Lead3 at lead
      omega
  | four first second third fourth lead tail tail' tail'' bound =>
      refine ⟨first, _, rfl, fun same => ?_⟩
      rw [same] at lead
      omega

/-- Skipping a character of one byte in a cut text is skipping it in the text,
and cutting off as many bytes less. -/
theorem dropWhile_take_encode {skipped : Char} {byte : UInt8}
    (single : String.utf8EncodeChar skipped = [byte]) (text : List Char) (limit : Nat) :
    ((encode text).take limit).dropWhile (· == byte) =
      (encode (text.dropWhile (· == skipped))).take
        (limit - (text.takeWhile (· == skipped)).length) := by
  induction text generalizing limit with
  | nil => simp [encode]
  | cons character rest ih =>
      cases limit with
      | zero => simp
      | succ limit =>
          by_cases same : character = skipped
          · rw [same, encode_cons, single, List.singleton_append, List.take_succ_cons]
            simp only [List.dropWhile_cons, List.takeWhile_cons, beq_self_eq_true, if_true,
              List.length_cons, Nat.add_sub_add_right]
            exact ih limit
          · rcases head_ne_of_single single same with ⟨first, others, shape, differs⟩
            rw [encode_cons, shape, List.cons_append, List.take_succ_cons]
            simp only [List.dropWhile_cons, List.takeWhile_cons, beq_iff_eq, same, differs,
              if_false, encode_cons, shape, List.cons_append, List.length_nil, Nat.sub_zero,
              List.take_succ_cons]

end Utf8

end Library
