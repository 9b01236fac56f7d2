import Mathlib.Data.List.Basic

namespace Library

/-!
# Binary semaphores behind handles

A table holds every semaphore that was ever created, and a handle is a
position of the table or the null handle.  Deletion marks a semaphore; its
handle stays around wherever it was stored.  A handle is live when the
semaphore exists and has not been deleted.
-/

namespace Semaphore

structure Cell where
  given : Bool
  deleted : Bool
deriving DecidableEq, Repr

abbrev Table := List Cell

/-- A new semaphore, not given.  Its handle is the length of the table. -/
def create (table : Table) : Table :=
  table ++ [⟨false, false⟩]

def live (table : Table) (handle : Option Nat) : Bool :=
  match handle.bind (table[·]?) with
  | some cell => !cell.deleted
  | none => false

def isGiven (table : Table) (handle : Option Nat) : Bool :=
  match handle.bind (table[·]?) with
  | some cell => cell.given
  | none => false

/-- Change the semaphore of a handle, if there is one. -/
def update (table : Table) (handle : Option Nat) (change : Cell → Cell) : Table :=
  match handle with
  | some position => table.modify position change
  | none => table

def give (table : Table) (handle : Option Nat) : Table :=
  update table handle fun cell => { cell with given := true }

def take (table : Table) (handle : Option Nat) : Table :=
  update table handle fun cell => { cell with given := false }

def delete (table : Table) (handle : Option Nat) : Table :=
  update table handle fun cell => { cell with deleted := true }

/-- A semaphore that exists, with its state. -/
def Holds (table : Table) (position : Nat) (given : Bool) : Prop :=
  table[position]? = some ⟨given, false⟩

variable {table : Table} {position : Nat} {given : Bool}

theorem holds_create (table : Table) : Holds (create table) table.length false :=
  List.getElem?_concat_length

theorem Holds.live (holds : Holds table position given) : live table (some position) = true := by
  simp only [Semaphore.live, Option.bind_some, show table[position]? = _ from holds]
  rfl

theorem Holds.isGiven (holds : Holds table position given) :
    isGiven table (some position) = given := by
  simp only [Semaphore.isGiven, Option.bind_some, show table[position]? = _ from holds]

theorem Holds.give (holds : Holds table position given) :
    Holds (give table (some position)) position true := by
  simp only [Holds, Semaphore.give, update, List.getElem?_modify_eq,
    show table[position]? = _ from holds]
  rfl

theorem Holds.take (holds : Holds table position given) :
    Holds (take table (some position)) position false := by
  simp only [Holds, Semaphore.take, update, List.getElem?_modify_eq,
    show table[position]? = _ from holds]
  rfl

/-- An operation on another handle. -/
theorem Holds.update {handle : Option Nat} (holds : Holds table position given)
    (different : handle ≠ some position) (change : Cell → Cell) :
    Holds (update table handle change) position given := by
  cases handle with
  | none => exact holds
  | some place =>
      have apart : place ≠ position := fun same => different (congrArg some same)
      exact (List.getElem?_modify_ne _ _ apart).trans holds

theorem Holds.lt_length (holds : Holds table position given) : position < table.length := by
  rcases List.getElem?_eq_some_iff.mp holds with ⟨inside, _⟩
  exact inside

theorem Holds.create (holds : Holds table position given) :
    Holds (create table) position given := by
  exact (List.getElem?_append_left holds.lt_length).trans holds

/-! ## Which handles are live -/

theorem live_update {change : Cell → Cell} (keeps : ∀ cell, (change cell).deleted = cell.deleted)
    (table : Table) (handle other : Option Nat) :
    live (update table handle change) other = live table other := by
  cases handle with
  | none => rfl
  | some position =>
      cases other with
      | none => rfl
      | some place =>
          simp only [live, update, Option.bind_some]
          by_cases same : position = place
          · rw [same, List.getElem?_modify_eq]
            cases table[place]? with
            | none => rfl
            | some cell => exact congrArg not (keeps cell)
          · rw [List.getElem?_modify_ne _ _ same]

theorem live_give (table : Table) (handle other : Option Nat) :
    live (give table handle) other = live table other := by
  apply live_update
  exact fun _ => rfl

theorem live_take (table : Table) (handle other : Option Nat) :
    live (take table handle) other = live table other := by
  apply live_update
  exact fun _ => rfl

theorem live_create {table : Table} {handle : Option Nat}
    (isLive : live (create table) handle = true) :
    handle = some table.length ∨ live table handle = true := by
  cases handle with
  | none => cases isLive
  | some position =>
      by_cases old : position < table.length
      · refine Or.inr ?_
        simpa only [live, create, Option.bind_some, List.getElem?_append_left old] using isLive
      · by_cases new : position = table.length
        · exact Or.inl (congrArg some new)
        · have outside : (create table)[position]? = none := by
            apply List.getElem?_eq_none
            rw [create, List.length_append, List.length_singleton]
            omega
          simp only [live, Option.bind_some, outside, Bool.false_eq_true] at isLive

theorem live_delete {table : Table} {handle other : Option Nat}
    (isLive : live (delete table handle) other = true) :
    other ≠ handle ∧ live table other = true := by
  cases handle with
  | none =>
      refine ⟨?_, isLive⟩
      rintro rfl
      cases isLive
  | some position =>
      cases other with
      | none => cases isLive
      | some place =>
          simp only [live, delete, update, Option.bind_some] at isLive
          by_cases same : position = place
          · rw [same, List.getElem?_modify_eq] at isLive
            cases found : table[place]? with
            | none =>
                rw [found] at isLive
                cases isLive
            | some cell =>
                rw [found] at isLive
                cases isLive
          · rw [List.getElem?_modify_ne _ _ same] at isLive
            exact ⟨fun equal => same (Option.some.inj equal).symm, isLive⟩

end Semaphore

end Library
