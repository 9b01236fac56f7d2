import Mathlib.Logic.Function.Basic

namespace Library

/-!
# Writes through a pointer that carries no size

A callee that gets only an address writes wherever its loop leads.  Such a
call is the list of its writes, each an index relative to the pointer and a
byte.  Applying the list to a memory keeps every address that no write names;
whether the named ones belong to one array is a fact about the caller.
-/

namespace RawMemory

/-- One write: an index relative to the pointer, and the stored byte. -/
abbrev Write := Nat × UInt8

/-- Consecutive writes of a block. -/
def block : Nat → List UInt8 → List Write
  | _, [] => []
  | offset, byte :: bytes => (offset, byte) :: block (offset + 1) bytes

/-- Perform the writes in order. -/
def apply (base : Nat) : List Write → (Nat → UInt8) → Nat → UInt8
  | [], memory => memory
  | (index, byte) :: writes, memory =>
      apply base writes (Function.update memory (base + index) byte)

theorem mem_block_iff {offset : Nat} {bytes : List UInt8} {write : Write} :
    write ∈ block offset bytes ↔
      ∃ position, offset + position = write.1 ∧ bytes[position]? = some write.2 := by
  induction bytes generalizing offset with
  | nil => simp [block]
  | cons byte bytes ih =>
      rw [block, List.mem_cons, ih]
      constructor
      · rintro (here | ⟨position, index, found⟩)
        · subst here
          exact ⟨0, rfl, rfl⟩
        · exact ⟨position + 1, by omega, by simpa using found⟩
      · rintro ⟨position, index, found⟩
        cases position with
        | zero =>
            left
            simp only [List.getElem?_cons_zero, Option.some.injEq] at found
            exact Prod.ext index.symm found.symm
        | succ position => exact Or.inr ⟨position, by omega, by simpa using found⟩

theorem index_lt_of_mem_block {offset : Nat} {bytes : List UInt8} {write : Write}
    (member : write ∈ block offset bytes) : write.1 < offset + bytes.length := by
  rcases mem_block_iff.mp member with ⟨position, index, found⟩
  have inside := (List.getElem?_eq_some_iff.mp found).1
  omega

/-- A block names consecutive indices, each once. -/
theorem map_fst_block (offset : Nat) (bytes : List UInt8) :
    (block offset bytes).map Prod.fst = List.range' offset bytes.length := by
  induction bytes generalizing offset with
  | nil => rfl
  | cons byte bytes ih => rw [block, List.map_cons, ih, List.length_cons, List.range'_succ]

/-- The frame rule: an address that no write names keeps its byte. -/
theorem apply_of_not_named {base address : Nat} {writes : List Write}
    (unnamed : ∀ write ∈ writes, base + write.1 ≠ address) (memory : Nat → UInt8) :
    apply base writes memory address = memory address := by
  induction writes generalizing memory with
  | nil => rfl
  | cons write writes ih =>
      rcases write with ⟨index, byte⟩
      rw [apply, ih (fun later member => unnamed later (List.mem_cons_of_mem _ member))]
      have other : address ≠ base + index := (unnamed (index, byte) List.mem_cons_self).symm
      exact Function.update_of_ne other _ _

theorem block_append (offset : Nat) (first second : List UInt8) :
    block offset (first ++ second) =
      block offset first ++ block (offset + first.length) second := by
  induction first generalizing offset with
  | nil => rfl
  | cons byte first ih =>
      rw [List.cons_append, block, block, ih, List.cons_append, List.length_cons,
        Nat.add_assoc, Nat.add_comm 1]

/-- The value rule: a block leaves its bytes behind each other. -/
theorem apply_block (base offset : Nat) {position : Nat} {bytes : List UInt8} {byte : UInt8}
    (found : bytes[position]? = some byte) (memory : Nat → UInt8) :
    apply base (block offset bytes) memory (base + (offset + position)) = byte := by
  induction bytes generalizing offset position memory with
  | nil => cases found
  | cons first bytes ih =>
      rw [block, apply]
      cases position with
      | zero =>
          rw [List.getElem?_cons_zero, Option.some.injEq] at found
          rw [apply_of_not_named, Nat.add_zero, Function.update_self, found]
          intro write member
          rcases mem_block_iff.mp member with ⟨later, index, _⟩
          omega
      | succ position =>
          rw [List.getElem?_cons_succ] at found
          have rest := ih (offset + 1) found (Function.update memory (base + offset) first)
          rwa [Nat.add_assoc offset, Nat.add_comm 1] at rest

/-- The bytes that stand from an address on. -/
def span (memory : Nat → UInt8) (address count : Nat) : List UInt8 :=
  (List.range count).map fun index => memory (address + index)

/-- A text that stands in memory is the front of what is read there. -/
theorem span_of_held {memory : Nat → UInt8} {address count : Nat} {text : List UInt8}
    (held : ∀ index < text.length, text[index]? = some (memory (address + index)))
    (inside : text.length ≤ count) :
    ∃ behind, span memory address count = text ++ behind := by
  refine ⟨(span memory address count).drop text.length, ?_⟩
  have front : (span memory address count).take text.length = text := by
    apply List.ext_getElem?
    intro index
    by_cases below : index < text.length
    · rw [List.getElem?_take_of_lt below, held index below, span, List.getElem?_map,
        List.getElem?_range (by omega)]
      rfl
    · have length : ((span memory address count).take text.length).length = text.length := by
        rw [List.length_take, span, List.length_map, List.length_range]
        omega
      rw [List.getElem?_eq_none (by omega), List.getElem?_eq_none (by omega)]
  have split := List.take_append_drop text.length (span memory address count)
  rw [front] at split
  exact split.symm

end RawMemory

end Library
