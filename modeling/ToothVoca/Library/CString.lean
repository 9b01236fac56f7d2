import Mathlib.Data.List.TakeWhile
import Mathlib.Data.List.Infix

namespace Library

/-!
# NUL-terminated byte strings in arrays of fixed size

A C string is the part of an array before its first NUL.  The array behind
it keeps whatever an earlier, longer string left there, so equality of two
strings is not equality of their arrays.  `Buffer` is the array and
`CString.content` is the string.

A pointer into an array is represented by the list of bytes from its target
to the end of the array.  A block can be stored only together with the proof
that it ends inside the array: a write past the end cannot be expressed as a
`Buffer.store`, it has to be described as a write to raw memory.
-/

/-- An array of `n` bytes. -/
structure Buffer (n : Nat) where
  bytes : List UInt8
  length_bytes : bytes.length = n
deriving DecidableEq

namespace Buffer

variable {n : Nat}

@[ext] theorem ext {first second : Buffer n} (same : first.bytes = second.bytes) :
    first = second := by
  cases first
  cases second
  cases same
  rfl

/-- The array that a static initializer `{0}` leaves. -/
def zero (n : Nat) : Buffer n :=
  ⟨List.replicate n 0, List.length_replicate⟩

/-- Overwrite the bytes from `offset` on by a block that ends inside the
array.  Everything before and behind the block is kept. -/
def store (buffer : Buffer n) (offset : Nat) (block : List UInt8)
    (fits : offset + block.length ≤ n) : Buffer n where
  bytes := buffer.bytes.take offset ++ block ++ buffer.bytes.drop (offset + block.length)
  length_bytes := by
    have total := buffer.length_bytes
    simp only [List.length_append, List.length_take, List.length_drop]
    omega

theorem store_bytes (buffer : Buffer n) (offset : Nat) (block : List UInt8)
    (fits : offset + block.length ≤ n) :
    (buffer.store offset block fits).bytes =
      buffer.bytes.take offset ++ block ++ buffer.bytes.drop (offset + block.length) :=
  rfl

/-- The prefix up to the end of the stored block.  It does not depend on
what the array held behind the block. -/
theorem take_store (buffer : Buffer n) (offset : Nat) (block : List UInt8)
    (fits : offset + block.length ≤ n) :
    (buffer.store offset block fits).bytes.take (offset + block.length) =
      buffer.bytes.take offset ++ block := by
  have total := buffer.length_bytes
  have prefixLength : (buffer.bytes.take offset ++ block).length = offset + block.length := by
    simp only [List.length_append, List.length_take]
    omega
  rw [store_bytes, ← prefixLength, List.take_left]

end Buffer

namespace CString

/-- No byte of the text is the terminator. -/
def NulFree (text : List UInt8) : Prop :=
  0 ∉ text

instance (text : List UInt8) : Decidable (NulFree text) :=
  inferInstanceAs (Decidable (0 ∉ text))

/-- The string at a pointer: the bytes before the first NUL. -/
def content (text : List UInt8) : List UInt8 :=
  text.takeWhile (· != 0)

def strlen (text : List UInt8) : Nat :=
  (content text).length

/-- The block of exactly `count` bytes that `strncpy` stores: the string, cut
to `count` bytes, and NULs up to the full count. -/
def strncpy (source : List UInt8) (count : Nat) : List UInt8 :=
  (content source).take count ++ List.replicate (count - strlen source) 0

/-- Offset of the first occurrence of a block in a list. -/
def occurrence {X : Type} [DecidableEq X] (block : List X) : List X → Option Nat
  | [] => if block = [] then some 0 else none
  | head :: tail =>
      if block <+: head :: tail then some 0 else (occurrence block tail).map (· + 1)

/-- Offset of the first occurrence of a character other than NUL. -/
def strchr (text : List UInt8) (character : UInt8) : Option Nat :=
  occurrence [character] (content text)

/-- Offset of the first occurrence of a string in a string. -/
def strstr (text block : List UInt8) : Option Nat :=
  occurrence (content block) (content text)

/-! ## Strings and their arrays -/

theorem nulFree_append {first second : List UInt8} :
    NulFree (first ++ second) ↔ NulFree first ∧ NulFree second := by
  simp only [NulFree, List.mem_append, not_or]

theorem NulFree.take {text : List UInt8} (free : NulFree text) (count : Nat) :
    NulFree (text.take count) :=
  fun member => free (List.mem_of_mem_take member)

theorem content_nulFree (text : List UInt8) : NulFree (content text) := by
  intro member
  have kept := List.mem_takeWhile_imp member
  simp only [bne_self_eq_false, Bool.false_eq_true] at kept

theorem content_eq_self {text : List UInt8} (free : NulFree text) : content text = text := by
  apply List.takeWhile_eq_self_iff.mpr
  intro byte member
  have nonzero : byte ≠ 0 := fun zero => free (zero ▸ member)
  simpa only [bne_iff_ne] using nonzero

/-- What stands behind a terminator is invisible. -/
theorem content_append_nul (text rest : List UInt8) :
    content (text ++ 0 :: rest) = content text := by
  induction text with
  | nil => simp [content]
  | cons head tail ih =>
      unfold content at ih ⊢
      rw [List.cons_append, List.takeWhile_cons, List.takeWhile_cons, ih]

theorem content_of_split {text : List UInt8} (free : NulFree text) (rest : List UInt8) :
    content (text ++ 0 :: rest) = text := by
  rw [content_append_nul, content_eq_self free]

/-- Moving a pointer forward inside its string drops the same bytes from the
string. -/
theorem content_drop {text : List UInt8} {offset : Nat} (inside : offset ≤ strlen text) :
    content (text.drop offset) = (content text).drop offset := by
  induction text generalizing offset with
  | nil => simp [content]
  | cons head tail ih =>
      cases offset with
      | zero => rfl
      | succ offset =>
          by_cases terminator : head = 0
          · subst terminator
            simp [strlen, content] at inside
          · have kept : content (head :: tail) = head :: content tail := by
              simp [content, terminator]
            rw [strlen, kept] at inside
            rw [kept, List.drop_succ_cons, List.drop_succ_cons]
            exact ih (Nat.le_of_succ_le_succ inside)

/-- A loop that skips characters stops at the terminator. -/
theorem content_dropWhile {skipped : UInt8 → Bool} (stops : skipped 0 = false)
    (text : List UInt8) :
    content (text.dropWhile skipped) = (content text).dropWhile skipped := by
  induction text with
  | nil => rfl
  | cons head tail ih =>
      by_cases terminator : head = 0
      · subst terminator
        simp [content, stops]
      · have kept : content (head :: tail) = head :: content tail := by
          simp [content, terminator]
        rw [kept, List.dropWhile_cons, List.dropWhile_cons]
        cases skipped head with
        | true => exact ih
        | false => exact kept

/-! ## `strncpy` -/

theorem length_strncpy (source : List UInt8) (count : Nat) :
    (strncpy source count).length = count := by
  simp only [strncpy, strlen, List.length_append, List.length_take, List.length_replicate]
  omega

/-- The front of a copied block is the block of a smaller copy. -/
theorem take_strncpy (source : List UInt8) {shorter count : Nat} (le : shorter ≤ count) :
    (strncpy source count).take shorter = strncpy source shorter := by
  have padding : min (shorter - min count (content source).length)
      (count - (content source).length) = shorter - (content source).length := by
    omega
  simp only [strncpy, strlen, List.take_append, List.take_take, List.length_take,
    List.take_replicate, Nat.min_eq_left le, padding]

/-- `strncpy` never stores a terminator in the middle of the string it
copies: reading its block back gives the string cut to the count. -/
theorem content_strncpy_append_nul (source : List UInt8) (count : Nat) (rest : List UInt8) :
    content (strncpy source count ++ 0 :: rest) = (content source).take count := by
  have free : NulFree ((content source).take count) := (content_nulFree source).take count
  cases padding : count - strlen source with
  | zero =>
      rw [strncpy, padding, List.replicate_zero, List.append_nil]
      exact content_of_split free rest
  | succ extra =>
      rw [strncpy, padding, List.replicate_succ, List.append_assoc, List.cons_append]
      exact content_of_split free _

/-- `strncpy` to the start of an array. -/
def copyInto {n : Nat} (buffer : Buffer n) (source : List UInt8) (count : Nat)
    (fits : count ≤ n) : Buffer n :=
  buffer.store 0 (strncpy source count) (by rw [length_strncpy, Nat.zero_add]; exact fits)

/-- A copy that is then terminated by hand, at its end or before, holds the
source cut at the terminator.  Nothing of the earlier array is visible. -/
theorem content_copyInto_store {n : Nat} (buffer : Buffer n) (source : List UInt8)
    {count position : Nat} (fits : count ≤ n) (le : position ≤ count)
    (inside : position + [(0 : UInt8)].length ≤ n) :
    content ((copyInto buffer source count fits).store position [0] inside).bytes =
      (content source).take position := by
  have front : (copyInto buffer source count fits).bytes.take position =
      strncpy source position := by
    rw [copyInto, Buffer.store_bytes, List.take_zero, List.nil_append, List.take_append_of_le_length
      (by rw [length_strncpy]; exact le), take_strncpy source le]
  rw [Buffer.store_bytes, front, List.append_assoc, List.singleton_append,
    content_strncpy_append_nul]

/-! ## First occurrences -/

section Occurrence

variable {X : Type} [DecidableEq X]

/-- An occurrence reported at `offset` is there, and none stands before it. -/
theorem occurrence_eq_some {block text : List X} {offset : Nat}
    (found : occurrence block text = some offset) :
    offset ≤ text.length ∧ block <+: text.drop offset ∧
      ∀ earlier < offset, ¬ block <+: text.drop earlier := by
  induction text generalizing offset with
  | nil =>
      by_cases empty : block = []
      · simp only [occurrence, if_pos empty, Option.some.injEq] at found
        subst found
        simp [empty]
      · simp [occurrence, empty] at found
  | cons head tail ih =>
      by_cases here : block <+: head :: tail
      · simp only [occurrence, if_pos here, Option.some.injEq] at found
        subst found
        exact ⟨Nat.zero_le _, here, fun earlier before => absurd before (Nat.not_lt_zero _)⟩
      · simp only [occurrence, if_neg here, Option.map_eq_some_iff] at found
        rcases found with ⟨inner, foundInner, shifted⟩
        subst shifted
        rcases ih foundInner with ⟨inside, matched, first⟩
        refine ⟨Nat.succ_le_succ inside, matched, ?_⟩
        intro earlier before
        cases earlier with
        | zero => exact here
        | succ earlier => exact first earlier (Nat.lt_of_succ_lt_succ before)

theorem occurrence_eq_none {block text : List X} (absent : occurrence block text = none)
    (offset : Nat) (inside : offset ≤ text.length) : ¬ block <+: text.drop offset := by
  induction text generalizing offset with
  | nil =>
      by_cases empty : block = []
      · simp [occurrence, empty] at absent
      · intro matched
        simp only [List.drop_nil, List.prefix_nil] at matched
        exact empty matched
  | cons head tail ih =>
      by_cases here : block <+: head :: tail
      · simp [occurrence, here] at absent
      · simp only [occurrence, if_neg here, Option.map_eq_none_iff] at absent
        cases offset with
        | zero => exact here
        | succ offset => exact ih absent offset (Nat.le_of_succ_le_succ inside)

/-- The search is characterized by where the first match stands. -/
theorem occurrence_eq_some_iff {block text : List X} {offset : Nat}
    (inside : offset ≤ text.length) :
    occurrence block text = some offset ↔
      block <+: text.drop offset ∧ ∀ earlier < offset, ¬ block <+: text.drop earlier := by
  constructor
  · exact fun found => (occurrence_eq_some found).2
  · intro spec
    cases result : occurrence block text with
    | none => exact absurd spec.1 (occurrence_eq_none result offset inside)
    | some found =>
        rcases occurrence_eq_some result with ⟨_, matched, first⟩
        rcases Nat.lt_trichotomy found offset with before | same | after
        · exact absurd matched (spec.2 found before)
        · rw [same]
        · exact absurd spec.1 (first offset after)

/-- The text around the first occurrence. -/
theorem occurrence_split {block text : List X} {offset : Nat}
    (found : occurrence block text = some offset) :
    ∃ after, text = text.take offset ++ block ++ after ∧ (text.take offset).length = offset := by
  rcases occurrence_eq_some found with ⟨inside, ⟨after, matched⟩, _⟩
  refine ⟨after, ?_, List.length_take_of_le inside⟩
  rw [List.append_assoc, matched, List.take_append_drop]

/-- A first occurrence stays the first one when more text follows it. -/
theorem occurrence_of_split {block before after : List X}
    (first : ∀ earlier < before.length, ¬ block <+: (before ++ block ++ after).drop earlier) :
    occurrence block (before ++ block ++ after) = some before.length := by
  have inside : before.length ≤ (before ++ block ++ after).length := by
    simp only [List.length_append]
    omega
  apply (occurrence_eq_some_iff inside).mpr
  refine ⟨?_, first⟩
  rw [List.append_assoc, List.drop_left]
  exact List.prefix_append block after

/-- What is found first in a cut text is found first in the whole text. -/
theorem occurrence_of_take {block text : List X} {count offset : Nat}
    (found : occurrence block (text.take count) = some offset) :
    occurrence block text = some offset := by
  rcases occurrence_eq_some found with ⟨inside, matched, first⟩
  rw [List.drop_take, List.prefix_take_iff] at matched
  rw [List.length_take] at inside
  apply (occurrence_eq_some_iff (Nat.le_trans inside (Nat.min_le_right _ _))).mpr
  refine ⟨matched.1, fun earlier before there => first earlier before ?_⟩
  rw [List.drop_take, List.prefix_take_iff]
  exact ⟨there, by omega⟩

omit [DecidableEq X] in
theorem singleton_prefix_drop {character : X} {text : List X} {offset : Nat} :
    [character] <+: text.drop offset ↔ text[offset]? = some character := by
  rw [← List.head?_drop]
  cases text.drop offset with
  | nil => simp
  | cons head tail => simp [eq_comm]

/-- A single element is found behind the part that does not contain it. -/
theorem occurrence_singleton {character : X} {before : List X} (absent : character ∉ before)
    (after : List X) :
    occurrence [character] (before ++ character :: after) = some before.length := by
  have regroup : before ++ character :: after = before ++ [character] ++ after := by simp
  rw [regroup]
  apply occurrence_of_split
  intro earlier inside matched
  rw [← regroup, singleton_prefix_drop, List.getElem?_append_left inside] at matched
  exact absent (List.mem_of_getElem? matched)

end Occurrence

/-- What `strchr` finds is the end of the part without that character. -/
theorem strchr_eq_some {text : List UInt8} {character : UInt8} {offset : Nat}
    (found : strchr text character = some offset) :
    ∃ before after, content text = before ++ character :: after ∧
      before.length = offset ∧ character ∉ before := by
  rcases occurrence_split found with ⟨after, split, length⟩
  refine ⟨(content text).take offset, after, by simpa using split, length, ?_⟩
  intro member
  rcases List.mem_iff_getElem?.mp member with ⟨earlier, at_earlier⟩
  have before : earlier < offset := by
    have bound := (List.getElem?_eq_some_iff.mp at_earlier).1
    rwa [length] at bound
  rw [List.getElem?_take_of_lt before] at at_earlier
  exact (occurrence_eq_some found).2.2 earlier before (singleton_prefix_drop.mpr at_earlier)

theorem strchr_eq_none {text : List UInt8} {character : UInt8}
    (absent : strchr text character = none) : character ∉ content text := by
  intro member
  rcases List.mem_iff_getElem?.mp member with ⟨offset, found⟩
  have inside := (List.getElem?_eq_some_iff.mp found).1
  exact occurrence_eq_none absent offset (Nat.le_of_lt inside) (singleton_prefix_drop.mpr found)

end CString

end Library
