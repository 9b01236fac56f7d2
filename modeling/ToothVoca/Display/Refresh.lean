import ToothVoca.Display.Font
import ToothVoca.Library.Semaphore
import ToothVoca.Library.Transition

namespace ToothVoca
namespace Display

open Library

/-!
# Waiting for the panel (`lcd_touch.c`)

`LcdToudh_FillBackground` and `LcdToudh_DrawImageData` wait for each of their
transfers on a semaphore that they create and delete themselves, but whose
handle is kept in one global for both of them and for the completion
interrupt.  The main task calls the first and the task of the screen the
second, on two cores.

A state holds the global, all semaphores, the transfers in flight in start
order, and for each task the statement it is at.  The argument of
`xSemaphoreTake` is read when it is called; the wait itself is on the handle
read then.  An operation on a handle that is not live, a wait that is passed
while the own transfer is in flight, and a buffer freed while its transfer is
in flight are recorded.

The record stays empty as long as a task creates its semaphore only while the
other one is outside of its own span from creation to deletion.  The global
and the semaphore in it then belong to the task inside.
-/

/-- The task that fills the background and the task that draws glyphs. -/
inductive RefreshTask where
  | MainTask
  | LcdTouchTask
deriving DecidableEq, Repr

def RefreshTask.other : RefreshTask → RefreshTask
  | .MainTask => .LcdTouchTask
  | .LcdTouchTask => .MainTask

/-- The statement that a task is at, with the number of transfers left in its
loop. -/
inductive RefreshPoint where
  | idle
  | create (rows : Nat)
  | allocate (rows : Nat)
  | abandon
  | start (rows : Nat)
  | take (rows number : Nat)
  | wait (rows number : Nat) (handle : Option Nat)
  | delete
  | free
deriving DecidableEq, Repr

/-- A transfer: who started it, and as which one. -/
structure Transfer where
  owner : RefreshTask
  number : Nat
deriving DecidableEq, Repr

inductive RefreshViolation where
  | give
  | wait
  | delete
  | passedEarly
  | freedEarly
deriving DecidableEq, Repr

structure RefreshState where
  refresh_finish : Option Nat
  semaphores : Semaphore.Table
  inFlight : List Transfer
  started : Nat
  points : RefreshTask → RefreshPoint
  violations : List RefreshViolation

def RefreshState.initial : RefreshState where
  refresh_finish := none
  semaphores := []
  inFlight := []
  started := 0
  points := fun _ => .idle
  violations := []

namespace RefreshTask

/-- Only the background has its buffer allocated behind the semaphore. -/
def afterCreate (rows : Nat) : RefreshTask → RefreshPoint
  | .MainTask => .allocate rows
  | .LcdTouchTask => .start rows

/-- The early return when no semaphore could be created. -/
def afterNull : RefreshTask → RefreshPoint
  | .MainTask => .idle
  | .LcdTouchTask => .free

/-- The background frees its buffer in front of the deletion, a glyph behind. -/
def afterLoop : RefreshTask → RefreshPoint
  | .MainTask => .free
  | .LcdTouchTask => .delete

def afterFree : RefreshTask → RefreshPoint
  | .MainTask => .delete
  | .LcdTouchTask => .idle

def afterDelete : RefreshTask → RefreshPoint
  | .MainTask => .idle
  | .LcdTouchTask => .free

end RefreshTask

namespace RefreshState

def move (state : RefreshState) (task : RefreshTask) (point : RefreshPoint) : RefreshState :=
  { state with points := Function.update state.points task point }

def record (state : RefreshState) (bad : Bool) (violation : RefreshViolation) : RefreshState :=
  { state with violations := if bad then state.violations ++ [violation] else state.violations }

/-- `vSemaphoreDelete(refresh_finish)`. -/
def deleteSemaphore (state : RefreshState) : RefreshState :=
  { state with semaphores := Semaphore.delete state.semaphores state.refresh_finish }.record
    (!Semaphore.live state.semaphores state.refresh_finish) .delete

end RefreshState

/-- One statement of `LcdToudh_FillBackground` or of `LcdTouch_DrawText` with
`LcdToudh_DrawImageData`. -/
def refreshProceed (task : RefreshTask) (before : RefreshState) : Option RefreshState :=
  match before.points task with
  | .idle => none
  | .create rows =>
      some ({ before with
        refresh_finish := some before.semaphores.length
        semaphores := Semaphore.create before.semaphores }.move task (task.afterCreate rows))
  | .allocate rows => some (before.move task (.start rows))
  | .abandon => some (before.deleteSemaphore.move task .idle)
  | .start 0 => some (before.move task task.afterLoop)
  | .start (rows + 1) =>
      some ({ before with
        inFlight := before.inFlight ++ [Transfer.mk task before.started]
        started := before.started + 1 }.move task (.take rows before.started))
  | .take rows number =>
      some ((before.record (!Semaphore.live before.semaphores before.refresh_finish) .wait).move
        task (.wait rows number before.refresh_finish))
  | .wait rows number handle =>
      if Semaphore.live before.semaphores handle = false then
        some ((before.record true .wait).move task (.start rows))
      else if Semaphore.isGiven before.semaphores handle then
        some (({ before with semaphores := Semaphore.take before.semaphores handle }.record
          (Transfer.mk task number ∈ before.inFlight) .passedEarly).move task (.start rows))
      else none
  | .delete => some (before.deleteSemaphore.move task task.afterDelete)
  | .free =>
      some ((before.record (before.inFlight.any fun transfer => transfer.owner == task)
        .freedEarly).move task task.afterFree)

/-- What the system does next: a task calls its function, executes one
statement, or has a creation or allocation fail; or a transfer completes. -/
inductive RefreshAction where
  | call (task : RefreshTask) (rows : Nat)
  | proceed (task : RefreshTask)
  | fail (task : RefreshTask)
  | complete
deriving DecidableEq, Repr

def refreshNext (before : RefreshState) : RefreshAction → Option RefreshState
  | .call task rows =>
      match before.points task, task with
      | .idle, .MainTask => some (before.move task (.create LT_LCD_BIT_PER_PIXEL))
      | .idle, .LcdTouchTask => some (before.move task (.create rows))
      | _, _ => none
  | .proceed task => refreshProceed task before
  | .fail task =>
      match before.points task with
      | .create _ => some ({ before with refresh_finish := none }.move task task.afterNull)
      | .allocate _ => some (before.move task .abandon)
      | _ => none
  -- `LcdTouch_NotifyRefreshReady`
  | .complete =>
      match before.inFlight with
      | [] => none
      | _ :: later =>
          some ({ before with
            inFlight := later
            semaphores := Semaphore.give before.semaphores before.refresh_finish }.record
              (!Semaphore.live before.semaphores before.refresh_finish) .give)

/-! ## One task at a time -/

/-- The statements outside of the span from creation to deletion. -/
def Outside (task : RefreshTask) : RefreshPoint → Prop
  | .idle | .create _ => True
  | .free => task = .LcdTouchTask
  | _ => False

/-- The condition on a step: a task creates its semaphore only while the other
task is outside. -/
def Exclusive (before : RefreshState) : RefreshAction → Prop
  | .proceed task | .fail task =>
      (∃ rows, before.points task = .create rows) →
        Outside task.other (before.points task.other)
  | _ => True

/-- A transfer is in flight, or it has completed and its semaphore is given. -/
def Pending (state : RefreshState) (handle : Nat) (transfer : Transfer) : Prop :=
  (state.inFlight = [transfer] ∧ Semaphore.Holds state.semaphores handle false) ∨
    (state.inFlight = [] ∧ Semaphore.Holds state.semaphores handle true)

/-- Nothing is in flight and the semaphore is not given. -/
def Quiet (state : RefreshState) (handle : Nat) : Prop :=
  state.inFlight = [] ∧ Semaphore.Holds state.semaphores handle false

/-- What a task inside can rely on: the global holds its own semaphore. -/
def Inside (state : RefreshState) (task : RefreshTask) (handle : Nat) : Prop :=
  state.refresh_finish = some handle ∧
    match state.points task with
    | .idle | .create _ => False
    | .allocate _ | .abandon | .start _ | .delete => Quiet state handle
    | .free => task = .MainTask ∧ Quiet state handle
    | .take _ number => Pending state handle ⟨task, number⟩
    | .wait _ number handle' => handle' = some handle ∧ Pending state handle ⟨task, number⟩

/-- Either no task is inside and no transfer in flight, or exactly one is. -/
def Owned (state : RefreshState) : Prop :=
  (state.inFlight = [] ∧ ∀ task, Outside task (state.points task)) ∨
    ∃ task handle, Inside state task handle ∧ Outside task.other (state.points task.other)

theorem RefreshTask.other_ne (task : RefreshTask) : task.other ≠ task := by
  cases task <;> decide

theorem RefreshTask.eq_or_other (task task' : RefreshTask) : task' = task ∨ task' = task.other := by
  cases task <;> cases task' <;> decide

namespace RefreshState

@[simp] theorem move_points_self (state : RefreshState) (task : RefreshTask)
    (point : RefreshPoint) : (state.move task point).points task = point := by
  simp only [move, Function.update_self]

@[simp] theorem move_points_other (state : RefreshState) (task : RefreshTask)
    (point : RefreshPoint) :
    (state.move task point).points task.other = state.points task.other := by
  simp only [move, Function.update_of_ne task.other_ne]

@[simp] theorem record_false (state : RefreshState) (violation : RefreshViolation) :
    state.record false violation = state :=
  rfl

end RefreshState

/-- The deletion of a live semaphore. -/
theorem deleteSemaphore_live {state : RefreshState} {handle : Nat} {given : Bool}
    (global : state.refresh_finish = some handle)
    (holds : Semaphore.Holds state.semaphores handle given) :
    state.deleteSemaphore =
      { state with semaphores := Semaphore.delete state.semaphores (some handle) } := by
  unfold RefreshState.deleteSemaphore
  rw [global, holds.live, Bool.not_true, RefreshState.record_false]

theorem outside_cases {task : RefreshTask} {point : RefreshPoint} (outside : Outside task point) :
    point = .idle ∨ (∃ rows, point = .create rows) ∨ (point = .free ∧ task = .LcdTouchTask) := by
  cases point with
  | idle => exact Or.inl rfl
  | create rows => exact Or.inr (Or.inl ⟨rows, rfl⟩)
  | free => exact Or.inr (Or.inr ⟨rfl, outside⟩)
  | _ => exact outside.elim

/-- The task inside is not outside. -/
theorem Inside.not_outside {state : RefreshState} {task : RefreshTask} {handle : Nat}
    (inside : Inside state task handle) : ¬ Outside task (state.points task) := by
  intro outside
  rcases inside with ⟨_, here⟩
  rcases outside_cases outside with point | ⟨rows, point⟩ | ⟨point, isLcd⟩
  · simp only [point] at here
  · simp only [point] at here
  · simp only [point] at here
    rw [isLcd] at here
    cases here.1

/-- Between two transfers of the task inside nothing is in flight. -/
theorem Inside.quiet_or_pending {state : RefreshState} {task : RefreshTask} {handle : Nat}
    (inside : Inside state task handle) :
    Quiet state handle ∨ ∃ number, Pending state handle ⟨task, number⟩ := by
  rcases inside with ⟨_, here⟩
  cases point : state.points task with
  | idle => simp only [point] at here
  | create rows => simp only [point] at here
  | take rows number =>
      simp only [point] at here
      exact Or.inr ⟨number, here⟩
  | wait rows number handle' =>
      simp only [point] at here
      exact Or.inr ⟨number, here.2⟩
  | free =>
      simp only [point] at here
      exact Or.inl here.2
  | _ =>
      simp only [point] at here
      exact Or.inl here

/-- The global holds a semaphore that exists. -/
theorem Inside.live {state : RefreshState} {task : RefreshTask} {handle : Nat}
    (inside : Inside state task handle) :
    Semaphore.live state.semaphores state.refresh_finish = true := by
  rw [inside.1]
  rcases inside.quiet_or_pending with ⟨_, holds⟩ | ⟨_, ⟨_, holds⟩ | ⟨_, holds⟩⟩
  · exact holds.live
  · exact holds.live
  · exact holds.live

/-- Only the task inside has transfers in flight. -/
theorem Inside.inFlight {state : RefreshState} {task : RefreshTask} {handle : Nat}
    (inside : Inside state task handle) :
    ∀ transfer ∈ state.inFlight, transfer.owner = task := by
  intro transfer member
  rcases inside.quiet_or_pending with ⟨empty, _⟩ | ⟨number, ⟨single, _⟩ | ⟨empty, _⟩⟩
  · rw [empty] at member
    cases member
  · rw [single] at member
    rw [List.mem_singleton.mp member]
  · rw [empty] at member
    cases member

/-- A statement of the task inside violates nothing, and the task is then
still inside, or outside with nothing in flight. -/
theorem proceed_inside {state after : RefreshState} {task : RefreshTask} {handle : Nat}
    (inside : Inside state task handle) (moved : refreshProceed task state = some after) :
    after.violations = state.violations ∧
      after.points task.other = state.points task.other ∧
      ((after.inFlight = [] ∧ Outside task (after.points task)) ∨ Inside after task handle) := by
  have live := inside.live
  rcases inside with ⟨global, here⟩
  unfold refreshProceed at moved
  cases point : state.points task with
  | idle => simp only [point] at here
  | create rows => simp only [point] at here
  | allocate rows =>
      simp only [point] at here moved
      cases moved
      refine ⟨rfl, state.move_points_other task _, Or.inr ⟨global, ?_⟩⟩
      simp only [RefreshState.move_points_self]
      exact here
  | abandon =>
      simp only [point] at here moved
      cases moved
      rw [deleteSemaphore_live global here.2]
      refine ⟨rfl, RefreshState.move_points_other _ task _, Or.inl ⟨here.1, ?_⟩⟩
      rw [RefreshState.move_points_self]
      exact True.intro
  | start rows =>
      cases rows with
      | zero =>
          simp only [point] at here moved
          cases moved
          refine ⟨rfl, state.move_points_other task _, Or.inr ⟨global, ?_⟩⟩
          rw [RefreshState.move_points_self]
          cases task with
          | MainTask => exact ⟨rfl, here⟩
          | LcdTouchTask => exact here
      | succ rows =>
          simp only [point] at here moved
          cases moved
          refine ⟨rfl, RefreshState.move_points_other _ task _, Or.inr ⟨global, ?_⟩⟩
          rw [RefreshState.move_points_self]
          refine Or.inl ⟨?_, here.2⟩
          show state.inFlight ++ [_] = [_]
          rw [here.1, List.nil_append]
  | take rows number =>
      simp only [point] at here moved
      cases moved
      rw [live, Bool.not_true, RefreshState.record_false]
      refine ⟨rfl, state.move_points_other task _, Or.inr ⟨global, ?_⟩⟩
      rw [RefreshState.move_points_self]
      exact ⟨global, here⟩
  | wait rows number handle' =>
      simp only [point] at here moved
      rcases here with ⟨own, ⟨flight, holds⟩ | ⟨flight, holds⟩⟩
      · rw [own, if_neg (by rw [holds.live]; decide), holds.isGiven, if_neg (by decide)] at moved
        cases moved
      · have noneInFlight : decide (Transfer.mk task number ∈ state.inFlight) = false := by
          rw [flight]
          rfl
        rw [own, if_neg (by rw [holds.live]; decide), holds.isGiven, if_pos rfl, noneInFlight,
          RefreshState.record_false] at moved
        cases moved
        refine ⟨rfl, RefreshState.move_points_other _ task _, Or.inr ⟨global, ?_⟩⟩
        rw [RefreshState.move_points_self]
        exact ⟨flight, holds.take⟩
  | delete =>
      simp only [point] at here moved
      cases moved
      rw [deleteSemaphore_live global here.2]
      refine ⟨rfl, RefreshState.move_points_other _ task _, Or.inl ⟨here.1, ?_⟩⟩
      rw [RefreshState.move_points_self]
      cases task with
      | MainTask => exact True.intro
      | LcdTouchTask => exact rfl
  | free =>
      simp only [point] at here moved
      cases moved
      rcases here with ⟨isMain, flight, holds⟩
      rw [flight, List.any_nil, RefreshState.record_false, isMain]
      refine ⟨rfl, state.move_points_other .MainTask _, Or.inr ⟨global, ?_⟩⟩
      rw [RefreshState.move_points_self]
      exact ⟨flight, holds⟩

/-- A statement of a task outside: the creation, or the release of a buffer
whose transfers are over. -/
theorem proceed_outside {state after : RefreshState} {task : RefreshTask}
    (outside : Outside task (state.points task))
    (noOwn : ∀ transfer ∈ state.inFlight, transfer.owner ≠ task)
    (moved : refreshProceed task state = some after) :
    (∃ rows, state.points task = .create rows ∧
        after = { state with
          refresh_finish := some state.semaphores.length
          semaphores := Semaphore.create state.semaphores }.move task (task.afterCreate rows)) ∨
      after = state.move task .idle := by
  unfold refreshProceed at moved
  rcases outside_cases outside with point | ⟨rows, point⟩ | ⟨point, isLcd⟩
  · simp only [point, reduceCtorEq] at moved
  · simp only [point] at moved
    cases moved
    exact Or.inl ⟨rows, point, rfl⟩
  · have none : (state.inFlight.any fun transfer => transfer.owner == task) = false := by
      rw [List.any_eq_false]
      intro transfer member same
      exact noOwn transfer member (beq_iff_eq.mp same)
    have idle : task.afterFree = .idle := by
      rw [isLcd]
      rfl
    simp only [point, none, RefreshState.record_false, idle] at moved
    cases moved
    exact Or.inr rfl

/-- What the other task is at does not matter to the task inside. -/
theorem Inside.move_other {state : RefreshState} {task : RefreshTask} {handle : Nat}
    (inside : Inside state task handle) (point : RefreshPoint) :
    Inside (state.move task.other point) task handle := by
  have same : (state.move task.other point).points task = state.points task := by
    simp only [RefreshState.move, Function.update_of_ne task.other_ne.symm]
  unfold Inside at inside ⊢
  rw [same]
  exact inside

/-- A completed transfer gives the semaphore of the task inside. -/
theorem Inside.complete {state : RefreshState} {task : RefreshTask} {handle : Nat}
    {transfer : Transfer} {later : List Transfer} (inside : Inside state task handle)
    (flight : state.inFlight = transfer :: later) :
    Semaphore.live state.semaphores state.refresh_finish = true ∧
      Inside { state with
        inFlight := later
        semaphores := Semaphore.give state.semaphores state.refresh_finish } task handle := by
  have pending {own : Transfer} (here : Pending state handle own) :
      Pending { state with
        inFlight := later
        semaphores := Semaphore.give state.semaphores state.refresh_finish } handle own := by
    rcases here with ⟨single, holds⟩ | ⟨empty, _⟩
    · rw [flight] at single
      cases single
      refine Or.inr ⟨rfl, ?_⟩
      show Semaphore.Holds (Semaphore.give state.semaphores state.refresh_finish) handle true
      rw [inside.1]
      exact holds.give
    · rw [flight] at empty
      cases empty
  have busy (here : Quiet state handle) : False := by
    rw [Quiet, flight] at here
    cases here.1
  refine ⟨inside.live, inside.1, ?_⟩
  rcases inside with ⟨_, here⟩
  cases point : state.points task with
  | idle => simp only [point] at here
  | create rows => simp only [point] at here
  | take rows number =>
      simp only [point] at here ⊢
      exact pending here
  | wait rows number handle' =>
      simp only [point] at here ⊢
      exact ⟨here.1, pending here.2⟩
  | free =>
      simp only [point] at here
      exact (busy here.2).elim
  | _ =>
      simp only [point] at here
      exact (busy here).elim

/-- The other task, or any task where none is inside, leaves everything to the
task inside. -/
theorem Owned.of_outside {state : RefreshState} {task : RefreshTask} {point : RefreshPoint}
    (owned : Owned state) (outside : Outside task (state.points task))
    (stays : Outside task point) : Owned (state.move task point) := by
  rcases owned with ⟨empty, outsides⟩ | ⟨inner, handle, inside, other⟩
  · refine Or.inl ⟨empty, fun task' => ?_⟩
    rcases task.eq_or_other task' with same | same
    · rw [same, RefreshState.move_points_self]
      exact stays
    · rw [same, RefreshState.move_points_other]
      exact outsides task.other
  · rcases inner.eq_or_other task with same | same
    · rw [same] at outside
      exact absurd outside inside.not_outside
    · rw [same] at stays ⊢
      refine Or.inr ⟨inner, handle, inside.move_other point, ?_⟩
      rw [RefreshState.move_points_self]
      exact stays

theorem Owned.inFlight {state : RefreshState} {task : RefreshTask} (owned : Owned state)
    (outside : Outside task (state.points task)) :
    ∀ transfer ∈ state.inFlight, transfer.owner ≠ task := by
  rcases owned with ⟨empty, _⟩ | ⟨inner, handle, inside, _⟩
  · rw [empty]
    exact fun transfer member => absurd member List.not_mem_nil
  · intro transfer member same
    rw [inside.inFlight transfer member] at same
    rw [← same] at outside
    exact inside.not_outside outside

/-- Where both tasks are outside, nothing is in flight. -/
theorem Owned.quiet {state : RefreshState} {task : RefreshTask} (owned : Owned state)
    (outside : Outside task (state.points task))
    (other : Outside task.other (state.points task.other)) : state.inFlight = [] := by
  rcases owned with ⟨empty, _⟩ | ⟨inner, handle, inside, _⟩
  · exact empty
  · rcases task.eq_or_other inner with same | same
    · rw [same] at inside
      exact absurd outside inside.not_outside
    · rw [same] at inside
      exact absurd other inside.not_outside

theorem Owned.inside_of_not_outside {state : RefreshState} {task : RefreshTask}
    (owned : Owned state) (notOutside : ¬ Outside task (state.points task)) :
    ∃ handle, Inside state task handle ∧ Outside task.other (state.points task.other) := by
  rcases owned with ⟨_, outsides⟩ | ⟨inner, handle, inside, other⟩
  · exact absurd (outsides task) notOutside
  · rcases inner.eq_or_other task with same | same
    · rw [same]
      exact ⟨handle, inside, other⟩
    · rw [same] at notOutside
      exact absurd other notOutside

/-- The invariant of the exclusive runs. -/
structure RefreshInvariant (state : RefreshState) : Prop where
  owned : Owned state
  clean : state.violations = []

theorem invariant_call {before after : RefreshState} {task : RefreshTask} {rows : Nat}
    (invariant : RefreshInvariant before)
    (moved : refreshNext before (.call task rows) = some after) : RefreshInvariant after := by
  have called : ∃ rows', before.points task = .idle ∧ after = before.move task (.create rows') := by
    unfold refreshNext at moved
    cases point : before.points task with
    | idle =>
        cases task with
        | MainTask =>
            simp only [point] at moved
            cases moved
            exact ⟨_, rfl, rfl⟩
        | LcdTouchTask =>
            simp only [point] at moved
            cases moved
            exact ⟨_, rfl, rfl⟩
    | _ => simp only [point, reduceCtorEq] at moved
  rcases called with ⟨rows', idle, shape⟩
  rw [shape]
  exact ⟨invariant.owned.of_outside (by rw [idle]; exact True.intro) True.intro, invariant.clean⟩

theorem invariant_proceed {before after : RefreshState} {task : RefreshTask}
    (invariant : RefreshInvariant before) (exclusive : Exclusive before (.proceed task))
    (moved : refreshNext before (.proceed task) = some after) : RefreshInvariant after := by
  by_cases outside : Outside task (before.points task)
  · rcases proceed_outside outside (invariant.owned.inFlight outside) moved with
      ⟨rows, creates, shape⟩ | shape
    · have other := exclusive ⟨rows, creates⟩
      have empty := invariant.owned.quiet outside other
      rw [shape]
      refine ⟨Or.inr ⟨task, before.semaphores.length, ⟨rfl, ?_⟩, ?_⟩, invariant.clean⟩
      · have quiet : Quiet { before with
            refresh_finish := some before.semaphores.length
            semaphores := Semaphore.create before.semaphores } before.semaphores.length :=
          ⟨empty, Semaphore.holds_create before.semaphores⟩
        rw [RefreshState.move_points_self]
        cases task with
        | MainTask => exact quiet
        | LcdTouchTask => exact quiet
      · rw [RefreshState.move_points_other]
        exact other
    · rw [shape]
      exact ⟨invariant.owned.of_outside outside True.intro, invariant.clean⟩
  · rcases invariant.owned.inside_of_not_outside outside with ⟨handle, inside, other⟩
    rcases proceed_inside inside moved with ⟨clean, same, left | stays⟩
    · refine ⟨Or.inl ⟨left.1, fun task' => ?_⟩, clean.trans invariant.clean⟩
      rcases task.eq_or_other task' with here | there
      · rw [here]
        exact left.2
      · rw [there, same]
        exact other
    · exact ⟨Or.inr ⟨task, handle, stays, by rw [same]; exact other⟩, clean.trans invariant.clean⟩

theorem invariant_fail {before after : RefreshState} {task : RefreshTask}
    (invariant : RefreshInvariant before) (exclusive : Exclusive before (.fail task))
    (moved : refreshNext before (.fail task) = some after) : RefreshInvariant after := by
  unfold refreshNext at moved
  cases point : before.points task with
  | create rows =>
      have outside : Outside task (before.points task) := by
        rw [point]
        exact True.intro
      have other := exclusive ⟨rows, point⟩
      have empty := invariant.owned.quiet outside other
      simp only [point] at moved
      cases moved
      refine ⟨Or.inl ⟨empty, fun task' => ?_⟩, invariant.clean⟩
      rcases task.eq_or_other task' with here | there
      · rw [here, RefreshState.move_points_self]
        cases task with
        | MainTask => exact True.intro
        | LcdTouchTask => exact rfl
      · rw [there, RefreshState.move_points_other]
        exact other
  | allocate rows =>
      have notOutside : ¬ Outside task (before.points task) := by
        rw [point]
        exact id
      rcases invariant.owned.inside_of_not_outside notOutside with
        ⟨handle, ⟨global, here⟩, other⟩
      simp only [point] at moved here
      cases moved
      refine ⟨Or.inr ⟨task, handle, ⟨global, ?_⟩, ?_⟩, invariant.clean⟩
      · rw [RefreshState.move_points_self]
        exact here
      · rw [RefreshState.move_points_other]
        exact other
  | _ => simp only [point, reduceCtorEq] at moved

theorem invariant_complete {before after : RefreshState} (invariant : RefreshInvariant before)
    (moved : refreshNext before .complete = some after) : RefreshInvariant after := by
  unfold refreshNext at moved
  cases flight : before.inFlight with
  | nil => simp only [flight, reduceCtorEq] at moved
  | cons transfer later =>
      rcases invariant.owned with ⟨empty, _⟩ | ⟨task, handle, inside, other⟩
      · rw [flight] at empty
        cases empty
      · rcases inside.complete flight with ⟨live, stays⟩
        simp only [flight, live, Bool.not_true, RefreshState.record_false] at moved
        cases moved
        exact ⟨Or.inr ⟨task, handle, stays, other⟩, invariant.clean⟩

/-- In every run in which a task creates its semaphore only while the other
one is outside, no operation is ever on a deleted semaphore, no wait is passed
before the own transfer has completed, and no buffer is freed before. -/
theorem refresh_exclusive_clean (state : RefreshState)
    (reachable : Transition.Reachable refreshNext Exclusive RefreshState.initial state) :
    state.violations = [] := by
  have initial : RefreshInvariant RefreshState.initial :=
    ⟨Or.inl ⟨rfl, fun _ => True.intro⟩, rfl⟩
  have invariant := Transition.Reachable.invariant RefreshInvariant reachable initial (by
    intro before action after invariant exclusive moved
    cases action with
    | call task rows => exact invariant_call invariant moved
    | proceed task => exact invariant_proceed invariant exclusive moved
    | fail task => exact invariant_fail invariant exclusive moved
    | complete => exact invariant_complete invariant moved)
  exact invariant.clean

/-- A glyph of one row, drawn up to the start of its transfer. -/
theorem refresh_exclusive_clean_glyph :
    ∃ state, Transition.Reachable refreshNext Exclusive RefreshState.initial state ∧
      state.inFlight = [⟨.LcdTouchTask, 0⟩] ∧ state.violations = [] := by
  have called := Relation.ReflTransGen.tail
    (Relation.ReflTransGen.refl (r := Transition.Step refreshNext Exclusive)
      (a := RefreshState.initial)) ⟨.call .LcdTouchTask 1, True.intro, rfl⟩
  have created := called.tail ⟨.proceed .LcdTouchTask, fun _ => True.intro, rfl⟩
  have started := created.tail ⟨.proceed .LcdTouchTask, fun _ => True.intro, rfl⟩
  exact ⟨_, started, rfl, refresh_exclusive_clean _ started⟩

/-- The transfer of the glyph completes into the semaphore that the main task
has created since, and lets the main task pass while its own transfer is in
flight. -/
theorem refresh_not_clean :
    ¬ ∀ state, Transition.Reachable refreshNext Transition.anyStep RefreshState.initial state →
      state.violations = [] := by
  intro clean
  have executed : (Transition.run refreshNext RefreshState.initial
      [.call .LcdTouchTask 1, .proceed .LcdTouchTask, .proceed .LcdTouchTask, .call .MainTask 16,
        .proceed .MainTask, .proceed .MainTask, .proceed .MainTask, .proceed .MainTask, .complete,
        .proceed .MainTask]).map RefreshState.violations = some [.passedEarly] := by
    decide
  rcases Option.map_eq_some_iff.mp executed with ⟨state, run, violations⟩
  rw [clean state (Transition.reachable_of_run _ Relation.ReflTransGen.refl run)] at violations
  cases violations

end Display
end ToothVoca
