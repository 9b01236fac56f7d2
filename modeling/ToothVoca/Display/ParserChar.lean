import Mathlib.Data.UInt
import ToothVoca.Library.CString
import ToothVoca.Library.Utf8

namespace ToothVoca
namespace Display

open Library

/-!
# The character decoder of `parser_char.c`

The decoder is given a pointer and no length.  A read is modelled as partial:
it yields nothing where the text has no byte any more, so a decoder that looks
beyond the terminator of its text has no result.  The operator `&&` of
`ParserChar_IsKoreanText` evaluates its right side only behind a true left
side, and so do the nested reads here.

`unitsOf` is the abstract decoder: it groups a text into single bytes and
accepted triples, without positions and without reads.  The lead test accepts
more than the form `1110xxxx`, which is the only place where a decoded text
can differ from its UTF-8 reading.
-/

def ParserChar_IsASCIIText (text : UInt8) : Bool :=
  if text < 127 then true else false

/-- The lead test: one of the upper three bits is set and bit 4 is clear. -/
def leadTest (byte : UInt8) : Bool :=
  (byte &&& 0b11100000) != 0 && !((byte &&& 0b00010000) != 0)

/-- The test of the two following bytes: bit 7 is set and bit 6 is clear. -/
def tailTest (byte : UInt8) : Bool :=
  (byte &&& 0b10000000) != 0 && !((byte &&& 0b01000000) != 0)

def ParserChar_IsKoreanText (text : List UInt8) (startIndex : UInt8) : Option Bool := do
  let first ← text[startIndex.toNat]?
  if leadTest first then
    let second ← text[startIndex.toNat + 1]?
    if tailTest second then
      let third ← text[startIndex.toNat + 2]?
      if tailTest third then
        return true
      else
        return false
    else
      return false
  else
    return false

/-- The differences are taken in `int` and stored in `uint32_t`. -/
def ParserChar_GetUnicodeNumOfKorean (text : List UInt8) (startIndex : UInt8) :
    Option UInt32 := do
  let first ← text[startIndex.toNat]?
  let num1 := (first.toUInt32 - 0b11100000) <<< 12
  let second ← text[startIndex.toNat + 1]?
  let num2 := (second.toUInt32 - 0b10000000) <<< 6
  let third ← text[startIndex.toNat + 2]?
  let num3 := third.toUInt32 - 0b10000000
  return num1 + num2 + num3

/-- The returned code and the output parameter `outLen`. -/
def ParserChar_GetUnicode (text : List UInt8) : Option (UInt32 × UInt8) := do
  let first ← text[0]?
  if ParserChar_IsASCIIText first then
    return (first.toUInt32, 1)
  else if ← ParserChar_IsKoreanText text 0 then
    let code ← ParserChar_GetUnicodeNumOfKorean text 0
    return (code, 3)
  else
    return (first.toUInt32, 1)

/-! ## The abstract decoder -/

/-- What the decoder takes as one unit. -/
inductive DecodedUnit where
  | single (byte : UInt8)
  | triple (first second third : UInt8)
deriving DecidableEq, Repr

namespace DecodedUnit

def bytes : DecodedUnit → List UInt8
  | single byte => [byte]
  | triple first second third => [first, second, third]

def outLen : DecodedUnit → UInt8
  | single _ => 1
  | triple _ _ _ => 3

def code : DecodedUnit → UInt32
  | single byte => byte.toUInt32
  | triple first second third =>
      ((first.toUInt32 - 0b11100000) <<< 12) + ((second.toUInt32 - 0b10000000) <<< 6) +
        (third.toUInt32 - 0b10000000)

theorem length_bytes (unit : DecodedUnit) : unit.bytes.length = unit.outLen.toNat := by
  cases unit <;> rfl

theorem outLen_pos (unit : DecodedUnit) : 0 < unit.outLen.toNat := by
  cases unit with
  | single byte => exact Nat.one_pos
  | triple first second third => exact Nat.succ_pos 2

end DecodedUnit

/-- The triples that are taken as one character. -/
def Accepted (first second third : UInt8) : Prop :=
  127 ≤ first.toNat ∧ first.toNat / 16 % 2 = 0 ∧ Utf8.Tail second ∧ Utf8.Tail third

instance (first second third : UInt8) : Decidable (Accepted first second third) :=
  inferInstanceAs (Decidable (_ ∧ _))

/-- Group a text into units, from the left. -/
def unitsOf : List UInt8 → List DecodedUnit
  | first :: second :: third :: rest =>
      if Accepted first second third then
        .triple first second third :: unitsOf rest
      else
        .single first :: unitsOf (second :: third :: rest)
  | first :: rest => .single first :: unitsOf rest
  | [] => []

/-! ## The bit tests as ranges -/

/-- A property of every byte, checked on the 256 of them. -/
theorem forall_byte (property : UInt8 → Prop)
    (checked : ∀ number < 256, property (UInt8.ofNat number)) (byte : UInt8) : property byte := by
  have same := checked byte.toNat byte.toNat_lt
  rwa [UInt8.ofNat_toNat] at same

theorem leadTest_eq (byte : UInt8) :
    leadTest byte = decide (32 ≤ byte.toNat ∧ byte.toNat / 16 % 2 = 0) :=
  forall_byte (fun byte =>
    leadTest byte = decide (32 ≤ byte.toNat ∧ byte.toNat / 16 % 2 = 0)) (by decide +kernel) byte

theorem tailTest_eq (byte : UInt8) : tailTest byte = decide (Utf8.Tail byte) :=
  forall_byte (fun byte => tailTest byte = decide (Utf8.Tail byte))
    (by decide +kernel) byte

theorem not_tail_nul : ¬ Utf8.Tail 0 := by
  decide

/-! ## The decoder against the abstract one -/

/-- The first unit of a nonempty text. -/
def nextUnit (first : UInt8) (rest : List UInt8) : DecodedUnit :=
  match rest with
  | second :: third :: _ =>
      if Accepted first second third then .triple first second third else .single first
  | _ => .single first

theorem unitsOf_cons (first : UInt8) (rest : List UInt8) :
    unitsOf (first :: rest) = nextUnit first rest ::
      unitsOf ((first :: rest).drop (nextUnit first rest).outLen.toNat) := by
  match rest with
  | [] => rfl
  | [second] => rfl
  | second :: third :: rest =>
      by_cases accepted : Accepted first second third
      · simp [unitsOf, nextUnit, accepted, DecodedUnit.outLen]
      · simp [unitsOf, nextUnit, accepted, DecodedUnit.outLen]

/-- The units of a text are the text, regrouped. -/
theorem flatMap_bytes_unitsOf (text : List UInt8) :
    (unitsOf text).flatMap DecodedUnit.bytes = text := by
  fun_induction unitsOf text with
  | case1 first second third rest accepted ih =>
      rw [List.flatMap_cons, ih]
      rfl
  | case2 first second third rest refused ih =>
      rw [List.flatMap_cons, ih]
      rfl
  | case3 first rest short ih =>
      rw [List.flatMap_cons, ih]
      rfl
  | case4 => rfl

/-- With three bytes at hand, the test is the conjunction of the three bit
tests. -/
theorem ParserChar_IsKoreanText_three (first second third : UInt8) (rest : List UInt8) :
    ParserChar_IsKoreanText (first :: second :: third :: rest) 0 =
      some (leadTest first && tailTest second && tailTest third) := by
  cases lead : leadTest first <;> cases tail : tailTest second <;>
    cases tail' : tailTest third <;> simp [ParserChar_IsKoreanText, lead, tail, tail']

/-- In front of the terminator the second byte is refused before a third one
is read. -/
theorem ParserChar_IsKoreanText_last (first : UInt8) :
    ParserChar_IsKoreanText [first, 0] 0 = some false := by
  have refused : tailTest 0 = false := by decide
  simp [ParserChar_IsKoreanText, refused]

theorem ParserChar_IsASCIIText_eq (byte : UInt8) :
    ParserChar_IsASCIIText byte = decide (byte.toNat < 127) := by
  unfold ParserChar_IsASCIIText
  by_cases small : byte < 127
  · rw [if_pos small]
    exact (decide_eq_true (UInt8.lt_iff_toNat_lt.mp small)).symm
  · rw [if_neg small]
    exact (decide_eq_false fun bound => small (UInt8.lt_iff_toNat_lt.mpr bound)).symm

theorem accepted_iff {first second third : UInt8} (large : 127 ≤ first.toNat) :
    (leadTest first && tailTest second && tailTest third) = true ↔ Accepted first second third := by
  rw [leadTest_eq, tailTest_eq, tailTest_eq]
  simp only [Bool.and_eq_true, decide_eq_true_eq, Accepted]
  constructor
  · rintro ⟨⟨⟨_, bit⟩, tail⟩, tail'⟩
    exact ⟨large, bit, tail, tail'⟩
  · rintro ⟨_, bit, tail, tail'⟩
    exact ⟨⟨⟨by omega, bit⟩, tail⟩, tail'⟩

/-- The decoder with three bytes at hand. -/
theorem ParserChar_GetUnicode_three (first second third : UInt8) (rest : List UInt8) :
    ParserChar_GetUnicode (first :: second :: third :: rest) =
      if Accepted first second third then
        some ((DecodedUnit.triple first second third).code, 3)
      else some (first.toUInt32, 1) := by
  have korean := ParserChar_IsKoreanText_three first second third rest
  by_cases small : first.toNat < 127
  · have refused : ¬ Accepted first second third := fun accepted =>
      absurd accepted.1 (Nat.not_le_of_lt small)
    rw [if_neg refused]
    simp [ParserChar_GetUnicode, ParserChar_IsASCIIText_eq, small]
  · have large := Nat.le_of_not_lt small
    by_cases accepted : Accepted first second third
    · rw [(accepted_iff large).mpr accepted] at korean
      rw [if_pos accepted]
      simp [ParserChar_GetUnicode, ParserChar_IsASCIIText_eq, small, korean,
        ParserChar_GetUnicodeNumOfKorean, DecodedUnit.code]
    · rw [Bool.eq_false_iff.mpr fun tests => accepted ((accepted_iff large).mp tests)] at korean
      rw [if_neg accepted]
      simp [ParserChar_GetUnicode, ParserChar_IsASCIIText_eq, korean]

/-- The decoder at the front of a terminated text takes the same unit as the
abstract one.  Its result does not depend on what stands behind the
terminator, and it exists also where nothing stands there. -/
theorem ParserChar_GetUnicode_terminated (first : UInt8) (rest behind : List UInt8) :
    ParserChar_GetUnicode (first :: rest ++ 0 :: behind) =
      some ((nextUnit first rest).code, (nextUnit first rest).outLen) := by
  match rest, behind with
  | [], [] =>
      have korean := ParserChar_IsKoreanText_last first
      simp [ParserChar_GetUnicode, korean, nextUnit, DecodedUnit.code, DecodedUnit.outLen]
  | [], third :: behind =>
      have refused : ¬ Accepted first 0 third := fun accepted => not_tail_nul accepted.2.2.1
      simp only [List.cons_append, List.nil_append, ParserChar_GetUnicode_three, if_neg refused]
      rfl
  | [second], behind =>
      have refused : ¬ Accepted first second 0 := fun accepted => not_tail_nul accepted.2.2.2
      simp only [List.cons_append, List.nil_append, ParserChar_GetUnicode_three, if_neg refused]
      rfl
  | second :: third :: rest, behind =>
      simp only [List.cons_append, ParserChar_GetUnicode_three, nextUnit]
      by_cases accepted : Accepted first second third
      · simp only [if_pos accepted]
        rfl
      · simp only [if_neg accepted]
        rfl

/-- A unit takes bytes of the text only. -/
theorem nextUnit_le (first : UInt8) (rest : List UInt8) :
    (nextUnit first rest).outLen.toNat ≤ (first :: rest).length := by
  have one : (DecodedUnit.single first).outLen.toNat ≤ (first :: rest).length :=
    Nat.succ_le_succ (Nat.zero_le _)
  match rest with
  | [] => exact one
  | [second] => exact one
  | second :: third :: rest =>
      by_cases accepted : Accepted first second third
      · simp only [nextUnit, if_pos accepted]
        exact Nat.le_add_left 3 rest.length
      · simp only [nextUnit, if_neg accepted]
        exact one

/-- A byte that starts no accepted triple is a unit of its own. -/
theorem unitsOf_cons_single {first : UInt8} {rest : List UInt8}
    (refused : ∀ second third tail, rest = second :: third :: tail →
      ¬ Accepted first second third) :
    unitsOf (first :: rest) = .single first :: unitsOf rest := by
  match rest with
  | [] => rfl
  | [second] => rfl
  | second :: third :: rest => rw [unitsOf, if_neg (refused second third rest rfl)]

theorem unitsOf_cons_triple {first second third : UInt8} {rest : List UInt8}
    (accepted : Accepted first second third) :
    unitsOf (first :: second :: third :: rest) =
      .triple first second third :: unitsOf rest := by
  rw [unitsOf, if_pos accepted]

/-! ## The code of an accepted triple -/

/-- The unsigned arithmetic of the decoder, with the wrap that a lead byte
below `0xE0` causes. -/
theorem code_triple (first second third : UInt8) (tail : Utf8.Tail second)
    (tail' : Utf8.Tail third) :
    (DecodedUnit.triple first second third).code.toNat =
      ((first.toNat + (2 ^ 32 - 0xE0)) * 4096 + (second.toNat - 0x80) * 64 +
        (third.toNat - 0x80)) % 2 ^ 32 := by
  have first32 : first.toUInt32.toNat = first.toNat := UInt8.toNat_toUInt32 first
  have second32 : second.toUInt32.toNat = second.toNat := UInt8.toNat_toUInt32 second
  have third32 : third.toUInt32.toNat = third.toNat := UInt8.toNat_toUInt32 third
  have small := first.toNat_lt
  unfold Utf8.Tail at tail tail'
  simp only [DecodedUnit.code, UInt32.toNat_add, UInt32.toNat_shiftLeft, UInt32.toNat_sub, first32,
    second32, third32, Nat.shiftLeft_eq, UInt32.reduceToNat, Nat.reduceMod, Nat.reducePow]
  omega

/-- Behind a lead byte `1110xxxx` nothing wraps: the code is the code point. -/
theorem code_triple_lead {first second third : UInt8} (lead : Utf8.Lead3 first)
    (tail : Utf8.Tail second) (tail' : Utf8.Tail third) :
    (DecodedUnit.triple first second third).code.toNat = Utf8.codePoint3 first second third := by
  have small := first.toNat_lt
  have value := code_triple first second third tail tail'
  unfold Utf8.Lead3 Utf8.Tail at *
  unfold Utf8.codePoint3
  omega

/-- Any other accepted lead byte wraps below zero, to a code close to `2 ^ 32`. -/
theorem code_triple_wrapped {first second third : UInt8}
    (accepted : Accepted first second third) (low : ¬ Utf8.Lead3 first) :
    2 ^ 32 - 2 ^ 20 ≤ (DecodedUnit.triple first second third).code.toNat := by
  rcases accepted with ⟨large, bit, tail, tail'⟩
  have small := first.toNat_lt
  have value := code_triple first second third tail tail'
  unfold Utf8.Lead3 Utf8.Tail at *
  omega

end Display
end ToothVoca
