import ToothVoca.Display.Refresh

namespace ToothVoca
namespace Display

open Library

/-!
# Both tasks get through their waiting (`lcd_touch.c`)

`LcdToudh_FillBackground` and `LcdToudh_DrawImageData` wait with
`portMAX_DELAY`, so that a transfer whose completion goes to another semaphore
stops the task for good.  As long as a task creates its semaphore only while
the other one is outside of its own span, this does not happen.  One of the
tasks can always go on, or the transfer that it waits for completes.

What is left to do is a number that every step makes smaller.  So all calls
return, and then no transfer is in flight and no semaphore is left, whichever
semaphores and buffers of the background were refused.  Every transfer that is
started here is accepted and sent, and every glyph has its buffer.
-/

/-! ## What a statement does -/

/-- The statements, by where the task stands. -/
inductive Proceeds (task : RefreshTask) (before : RefreshState) : RefreshState → Prop where
  | create (rows : Nat) (stands : before.points task = .create rows) :
      Proceeds task before ({ before with
        refresh_finish := some before.semaphores.length
        semaphores := Semaphore.create before.semaphores }.move task (task.afterCreate rows))
  | allocate (rows : Nat) (stands : before.points task = .allocate rows) :
      Proceeds task before (before.move task (.start rows))
  | abandon (stands : before.points task = .abandon) :
      Proceeds task before (before.deleteSemaphore.move task .idle)
  | finish (stands : before.points task = .start 0) :
      Proceeds task before (before.move task task.afterLoop)
  | start (rows : Nat) (stands : before.points task = .start (rows + 1)) :
      Proceeds task before ({ before with
        inFlight := before.inFlight ++ [Transfer.mk task before.started]
        started := before.started + 1 }.move task (.take rows before.started))
  | take (rows number : Nat) (stands : before.points task = .take rows number) :
      Proceeds task before
        ((before.record (!Semaphore.live before.semaphores before.refresh_finish) .wait).move
          task (.wait rows number before.refresh_finish))
  | fall (rows number : Nat) (handle : Option Nat)
      (stands : before.points task = .wait rows number handle)
      (dead : Semaphore.live before.semaphores handle = false) :
      Proceeds task before ((before.record true .wait).move task (.start rows))
  | pass (rows number : Nat) (handle : Option Nat)
      (stands : before.points task = .wait rows number handle)
      (given : Semaphore.isGiven before.semaphores handle = true) :
      Proceeds task before
        (({ before with semaphores := Semaphore.take before.semaphores handle }.record
          (Transfer.mk task number ∈ before.inFlight) .passedEarly).move task (.start rows))
  | delete (stands : before.points task = .delete) :
      Proceeds task before (before.deleteSemaphore.move task task.afterDelete)
  | free (stands : before.points task = .free) :
      Proceeds task before
        ((before.record (before.inFlight.any fun transfer => transfer.owner == task)
          .freedEarly).move task task.afterFree)

theorem proceeds_of_moved {before after : RefreshState} {task : RefreshTask}
    (moved : refreshProceed task before = some after) : Proceeds task before after := by
  unfold refreshProceed at moved
  cases point : before.points task with
  | idle => simp only [point, reduceCtorEq] at moved
  | create rows =>
      simp only [point] at moved
      cases moved
      exact .create rows point
  | allocate rows =>
      simp only [point] at moved
      cases moved
      exact .allocate rows point
  | abandon =>
      simp only [point] at moved
      cases moved
      exact .abandon point
  | start rows =>
      cases rows with
      | zero =>
          simp only [point] at moved
          cases moved
          exact .finish point
      | succ rows =>
          simp only [point] at moved
          cases moved
          exact .start rows point
  | take rows number =>
      simp only [point] at moved
      cases moved
      exact .take rows number point
  | wait rows number handle =>
      simp only [point] at moved
      by_cases dead : Semaphore.live before.semaphores handle = false
      · rw [if_pos dead] at moved
        cases moved
        exact .fall rows number handle point dead
      · rw [if_neg dead] at moved
        by_cases given : Semaphore.isGiven before.semaphores handle = true
        · rw [if_pos given] at moved
          cases moved
          exact .pass rows number handle point given
        · rw [if_neg given] at moved
          cases moved
  | delete =>
      simp only [point] at moved
      cases moved
      exact .delete point
  | free =>
      simp only [point] at moved
      cases moved
      exact .free point

/-! ## What is left to do -/

/-- The statements that a task has still to execute, where a transfer not yet
started counts one more. -/
def statementsLeft (task : RefreshTask) : RefreshPoint → Nat
  | .idle => 0
  | .create rows => 4 * rows + 5
  | .allocate rows => 4 * rows + 4
  | .abandon => 1
  | .start rows => 4 * rows + 3
  | .take rows _ => 4 * rows + 5
  | .wait rows _ _ => 4 * rows + 4
  | .delete => statementsBehind task.afterDelete + 1
  | .free => statementsBehind task.afterFree + 1
where
  /-- The last two statements, in the order that the task has them in. -/
  statementsBehind : RefreshPoint → Nat
    | .idle => 0
    | _ => 1

/-- The statements of both tasks and the transfers to complete. -/
def remaining (state : RefreshState) : Nat :=
  statementsLeft .MainTask (state.points .MainTask) +
    statementsLeft .LcdTouchTask (state.points .LcdTouchTask) + state.inFlight.length

theorem remaining_move (state : RefreshState) (task : RefreshTask) (point : RefreshPoint) :
    remaining (state.move task point) + statementsLeft task (state.points task) =
      remaining state + statementsLeft task point := by
  cases task with
  | MainTask =>
      have other : (state.move .MainTask point).points .LcdTouchTask =
          state.points .LcdTouchTask :=
        state.move_points_other .MainTask point
      rw [remaining, RefreshState.move_points_self, other]
      simp only [remaining, RefreshState.move]
      omega
  | LcdTouchTask =>
      have other : (state.move .LcdTouchTask point).points .MainTask = state.points .MainTask :=
        state.move_points_other .LcdTouchTask point
      rw [remaining, RefreshState.move_points_self, other]
      simp only [remaining, RefreshState.move]
      omega

/-- Only the points and the transfers count. -/
theorem remaining_congr {state state' : RefreshState} (points : state'.points = state.points)
    (inFlight : state'.inFlight = state.inFlight) : remaining state' = remaining state := by
  rw [remaining, points, inFlight, remaining]

/-- A task that moves to a point with less to do. -/
theorem remaining_move_lt {state state' : RefreshState} {task : RefreshTask}
    {here point : RefreshPoint} (stands : state.points task = here)
    (points : state'.points = state.points) (inFlight : state'.inFlight = state.inFlight)
    (less : statementsLeft task point < statementsLeft task here) :
    remaining (state'.move task point) < remaining state := by
  have moved := remaining_move state' task point
  rw [remaining_congr points inFlight, points, stands] at moved
  omega

theorem remaining_proceed {before after : RefreshState} {task : RefreshTask}
    (moved : refreshProceed task before = some after) : remaining after < remaining before := by
  cases proceeds_of_moved moved with
  | create rows stands =>
      apply remaining_move_lt stands rfl rfl
      cases task with
      | MainTask => exact Nat.lt_succ_self _
      | LcdTouchTask => exact Nat.lt_succ_of_lt (Nat.lt_succ_self _)
  | allocate rows stands =>
      apply remaining_move_lt stands rfl rfl
      exact Nat.lt_succ_self _
  | abandon stands =>
      apply remaining_move_lt stands rfl rfl
      exact Nat.zero_lt_one
  | finish stands =>
      apply remaining_move_lt stands rfl rfl
      cases task <;> decide
  | start rows stands =>
      -- The transfer counts from here on instead of its start.
      have counted := remaining_move { before with
        inFlight := before.inFlight ++ [Transfer.mk task before.started]
        started := before.started + 1 } task (.take rows before.started)
      have started : remaining { before with
          inFlight := before.inFlight ++ [Transfer.mk task before.started]
          started := before.started + 1 } = remaining before + 1 := by
        simp only [remaining, List.length_append, List.length_singleton]
        omega
      rw [started, stands] at counted
      simp only [statementsLeft] at counted
      omega
  | take rows number stands =>
      apply remaining_move_lt stands rfl rfl
      exact Nat.lt_succ_self _
  | fall rows number handle stands dead =>
      apply remaining_move_lt stands rfl rfl
      exact Nat.lt_succ_self _
  | pass rows number handle stands given =>
      apply remaining_move_lt stands rfl rfl
      exact Nat.lt_succ_self _
  | delete stands =>
      apply remaining_move_lt stands rfl rfl
      cases task <;> decide
  | free stands =>
      apply remaining_move_lt stands rfl rfl
      cases task <;> decide

/-- The steps other than a new call of one of the functions. -/
def NoCall : RefreshAction → Prop
  | .call _ _ => False
  | _ => True

/-- Every step makes what is left smaller, whether it is exclusive or not. -/
theorem remaining_step {before after : RefreshState} {action : RefreshAction}
    (noCall : NoCall action) (moved : refreshNext before action = some after) :
    remaining after < remaining before := by
  unfold refreshNext at moved
  cases action with
  | call task rows => exact noCall.elim
  | proceed task => exact remaining_proceed moved
  | fail task =>
      cases point : before.points task with
      | create rows =>
          simp only [point] at moved
          cases moved
          apply remaining_move_lt point rfl rfl
          cases task with
          | MainTask => exact Nat.succ_pos _
          | LcdTouchTask => exact Nat.succ_lt_succ (Nat.succ_pos _)
      | allocate rows =>
          simp only [point] at moved
          cases moved
          apply remaining_move_lt point rfl rfl
          exact Nat.succ_lt_succ (Nat.succ_pos _)
      | _ => simp only [point, reduceCtorEq] at moved
  | complete =>
      cases flight : before.inFlight with
      | nil => simp only [flight, reduceCtorEq] at moved
      | cons transfer later =>
          simp only [flight] at moved
          cases moved
          simp only [remaining, RefreshState.record, flight, List.length_cons]
          omega

/-! ## Which semaphores are left -/

/-- The only semaphore that may exist is that of a task inside, in the global. -/
def OnlyOwn (state : RefreshState) : Prop :=
  ∀ handle, Semaphore.live state.semaphores handle = true →
    handle = state.refresh_finish ∧ ∃ task, ¬ Outside task (state.points task)

/-- No semaphore exists. -/
def NoneLive (state : RefreshState) : Prop :=
  ∀ handle, Semaphore.live state.semaphores handle = false

theorem OnlyOwn.none_live {state : RefreshState} (only : OnlyOwn state)
    (outside : ∀ task, Outside task (state.points task)) : NoneLive state := by
  intro handle
  by_cases isLive : Semaphore.live state.semaphores handle = true
  · rcases (only handle isLive).2 with ⟨task, inside⟩
    exact absurd (outside task) inside
  · exact Bool.eq_false_iff.mpr isLive

theorem NoneLive.only {state : RefreshState} (none : NoneLive state) : OnlyOwn state := by
  intro handle isLive
  rw [none handle] at isLive
  cases isLive

theorem outside_both {state : RefreshState} {task : RefreshTask}
    (self : Outside task (state.points task))
    (other : Outside task.other (state.points task.other)) :
    ∀ task', Outside task' (state.points task') := by
  intro task'
  rcases task.eq_or_other task' with same | same
  · rw [same]
    exact self
  · rw [same]
    exact other

/-- A task that stays inside leaves all semaphores as they are. -/
theorem OnlyOwn.inside {state state' : RefreshState} {task : RefreshTask} {point : RefreshPoint}
    (only : OnlyOwn state) (global : state'.refresh_finish = state.refresh_finish)
    (live : ∀ handle, Semaphore.live state'.semaphores handle =
      Semaphore.live state.semaphores handle)
    (inside : ¬ Outside task point) : OnlyOwn (state'.move task point) := by
  intro handle isLive
  have before := only handle ((live handle).symm.trans isLive)
  refine ⟨before.1.trans global.symm, task, ?_⟩
  rw [RefreshState.move_points_self]
  exact inside

/-- A task that moves outside of its span. -/
theorem OnlyOwn.outside {state : RefreshState} {task : RefreshTask} {point : RefreshPoint}
    (only : OnlyOwn state) (outside : Outside task (state.points task)) :
    OnlyOwn (state.move task point) := by
  intro handle isLive
  rcases only handle isLive with ⟨global, inner, inside⟩
  rcases task.eq_or_other inner with same | same
  · rw [same] at inside
    exact absurd outside inside
  · refine ⟨global, task.other, ?_⟩
    rw [RefreshState.move_points_other, ← same]
    exact inside

/-- The deletion is of the only semaphore that there is. -/
theorem OnlyOwn.deleted {state : RefreshState} {task : RefreshTask} {point : RefreshPoint}
    (only : OnlyOwn state) : OnlyOwn (state.deleteSemaphore.move task point) := by
  apply NoneLive.only
  intro handle
  by_cases isLive : Semaphore.live state.deleteSemaphore.semaphores handle = true
  · rcases Semaphore.live_delete isLive with ⟨different, before⟩
    exact absurd (only handle before).1 different
  · exact Bool.eq_false_iff.mpr isLive

theorem onlyOwn_proceed {before after : RefreshState} {task : RefreshTask} (only : OnlyOwn before)
    (exclusive : Exclusive before (.proceed task))
    (moved : refreshProceed task before = some after) : OnlyOwn after := by
  cases proceeds_of_moved moved with
  | create rows stands =>
      have none : NoneLive before := by
        apply only.none_live
        apply outside_both _ (exclusive ⟨rows, stands⟩)
        rw [stands]
        exact True.intro
      intro handle isLive
      rcases Semaphore.live_create isLive with new | old
      · refine ⟨new, task, ?_⟩
        rw [RefreshState.move_points_self]
        cases task <;> exact id
      · rw [none handle] at old
        cases old
  | allocate rows stands => exact only.inside rfl (fun _ => rfl) id
  | abandon stands => exact only.deleted
  | finish stands =>
      apply only.inside rfl (fun _ => rfl)
      cases task with
      | MainTask =>
          intro outside
          cases outside
      | LcdTouchTask => exact id
  | start rows stands => exact only.inside rfl (fun _ => rfl) id
  | take rows number stands => exact only.inside rfl (fun _ => rfl) id
  | fall rows number handle stands dead => exact only.inside rfl (fun _ => rfl) id
  | pass rows number handle stands given =>
      exact only.inside rfl (Semaphore.live_take before.semaphores handle) id
  | delete stands => exact only.deleted
  | free stands =>
      cases task with
      | MainTask => exact only.inside rfl (fun _ => rfl) id
      | LcdTouchTask =>
          have outside : Outside .LcdTouchTask (before.points .LcdTouchTask) := by
            rw [stands]
            exact rfl
          exact OnlyOwn.outside only outside

theorem onlyOwn_step {before after : RefreshState} {action : RefreshAction}
    (only : OnlyOwn before) (exclusive : Exclusive before action)
    (moved : refreshNext before action = some after) : OnlyOwn after := by
  unfold refreshNext at moved
  cases action with
  | call task rows =>
      cases point : before.points task with
      | idle =>
          have outside : Outside task (before.points task) := by
            rw [point]
            exact True.intro
          cases task with
          | MainTask =>
              simp only [point] at moved
              cases moved
              exact only.outside outside
          | LcdTouchTask =>
              simp only [point] at moved
              cases moved
              exact only.outside outside
      | _ => simp only [point, reduceCtorEq] at moved
  | proceed task => exact onlyOwn_proceed only exclusive moved
  | fail task =>
      cases point : before.points task with
      | create rows =>
          have none : NoneLive before := by
            apply only.none_live
            apply outside_both _ (exclusive ⟨rows, point⟩)
            rw [point]
            exact True.intro
          simp only [point] at moved
          cases moved
          exact NoneLive.only none
      | allocate rows =>
          simp only [point] at moved
          cases moved
          exact only.inside rfl (fun _ => rfl) id
      | _ => simp only [point, reduceCtorEq] at moved
  | complete =>
      cases flight : before.inFlight with
      | nil => simp only [flight, reduceCtorEq] at moved
      | cons transfer later =>
          simp only [flight] at moved
          cases moved
          intro handle isLive
          exact only handle ((Semaphore.live_give _ _ handle).symm.trans isLive)

/-! ## No task waits for good -/

/-- The steps that do not depend on memory running out or on a new call. -/
def Moves : RefreshAction → Prop
  | .proceed _ | .complete => True
  | _ => False

/-- Both functions have returned, all transfers have completed and all
semaphores are deleted. -/
structure AtRest (state : RefreshState) : Prop where
  returned : ∀ task, state.points task = .idle
  completed : state.inFlight = []
  deleted : NoneLive state

/-- The system can go on in an exclusive way. -/
def Continues (state : RefreshState) : Prop :=
  ∃ action after, Moves action ∧ Exclusive state action ∧ refreshNext state action = some after

/-- A task with something left to do proceeds, unless it waits. -/
theorem continues_of_point {state : RefreshState} {task : RefreshTask}
    (busy : state.points task ≠ .idle)
    (ready : ∀ rows number handle, state.points task = .wait rows number handle →
      Semaphore.isGiven state.semaphores handle = true)
    (exclusive : Exclusive state (.proceed task)) : Continues state := by
  have enabled : ∃ after, refreshProceed task state = some after := by
    unfold refreshProceed
    cases point : state.points task with
    | idle => exact absurd point busy
    | start rows => cases rows <;> exact ⟨_, rfl⟩
    | wait rows number handle =>
        simp only [ready rows number handle point, if_true]
        by_cases dead : Semaphore.live state.semaphores handle = false
        · exact ⟨_, if_pos dead⟩
        · exact ⟨_, if_neg dead⟩
    | _ => exact ⟨_, rfl⟩
  rcases enabled with ⟨after, moved⟩
  exact ⟨.proceed task, after, True.intro, exclusive, moved⟩

/-- The task inside goes on, or its own transfer completes. -/
theorem Inside.continues {state : RefreshState} {task : RefreshTask} {handle : Nat}
    (inside : Inside state task handle) : Continues state := by
  have exclusive : Exclusive state (.proceed task) := by
    rintro ⟨rows, creates⟩
    refine absurd ?_ inside.not_outside
    rw [creates]
    exact True.intro
  have busy : state.points task ≠ .idle := by
    intro idle
    refine absurd ?_ inside.not_outside
    rw [idle]
    exact True.intro
  by_cases flight : state.inFlight = []
  · apply continues_of_point busy _ exclusive
    intro rows number handle' waits
    have here := inside.2
    simp only [waits] at here
    rcases here with ⟨own, ⟨single, _⟩ | ⟨_, holds⟩⟩
    · rw [flight] at single
      cases single
    · rw [own]
      exact holds.isGiven
  · rcases List.exists_cons_of_ne_nil flight with ⟨transfer, later, shape⟩
    have completes : ∃ after, refreshNext state .complete = some after := by
      simp only [refreshNext, shape, Option.some.injEq, exists_eq']
    rcases completes with ⟨after, moved⟩
    exact ⟨.complete, after, True.intro, True.intro, moved⟩

/-- Where no task is inside, each one proceeds. -/
theorem continues_of_outside {state : RefreshState} {task : RefreshTask}
    (outside : ∀ task, Outside task (state.points task)) (busy : state.points task ≠ .idle) :
    Continues state := by
  apply continues_of_point busy
  · intro rows number handle waits
    have out := outside task
    rw [waits] at out
    exact out.elim
  · exact fun _ => outside task.other

theorem rest_or_continues {state : RefreshState} (owned : Owned state) (only : OnlyOwn state) :
    AtRest state ∨ Continues state := by
  rcases owned with ⟨empty, outside⟩ | ⟨task, handle, inside, _⟩
  · by_cases returned : ∀ task, state.points task = .idle
    · exact Or.inl ⟨returned, empty, only.none_live outside⟩
    · rcases not_forall.mp returned with ⟨task, busy⟩
      exact Or.inr (continues_of_outside outside busy)
  · exact Or.inr inside.continues

theorem exclusive_invariant {state : RefreshState}
    (reachable : Transition.Reachable refreshNext Exclusive RefreshState.initial state) :
    RefreshInvariant state ∧ OnlyOwn state := by
  apply reachable.invariant (fun state => RefreshInvariant state ∧ OnlyOwn state)
  · refine ⟨⟨Or.inl ⟨rfl, fun _ => True.intro⟩, rfl⟩, ?_⟩
    intro handle isLive
    cases handle <;> cases isLive
  · rintro before action after ⟨invariant, only⟩ exclusive moved
    refine ⟨?_, onlyOwn_step only exclusive moved⟩
    cases action with
    | call task rows => exact invariant_call invariant moved
    | proceed task => exact invariant_proceed invariant exclusive moved
    | fail task => exact invariant_fail invariant exclusive moved
    | complete => exact invariant_complete invariant moved

/-- In every run in which a task creates its semaphore only while the other
one is outside, what is called returns.  A continuation without new calls is
bounded by what is left to do.  As long as a task has not returned, a transfer
is in flight or a semaphore exists, it can go on, and neither a lost
completion nor a refused semaphore or background stops it. -/
theorem refresh_returns {state after : RefreshState} {actions : List RefreshAction}
    (reachable : Transition.Reachable refreshNext Exclusive RefreshState.initial state)
    (path : Transition.Path refreshNext
      (fun before action => Exclusive before action ∧ NoCall action) state actions after) :
    actions.length + remaining after ≤ remaining state ∧ (AtRest after ∨ Continues after) := by
  constructor
  · apply path.length_le
    intro before action after permitted moved
    exact remaining_step permitted.2 moved
  · have reached : Transition.Reachable refreshNext Exclusive RefreshState.initial after :=
      path.reachable (fun _ _ permitted => permitted.1) reachable
    rcases exclusive_invariant reached with ⟨invariant, only⟩
    exact rest_or_continues invariant.owned only

/-- A glyph of one row, up to the start of its transfer, has six steps left. -/
theorem refresh_returns_glyph :
    ∃ state after, ∃ actions : List RefreshAction,
      state.inFlight = [⟨.LcdTouchTask, 0⟩] ∧ actions.length = 6 ∧
        actions.length + remaining after ≤ remaining state ∧ (AtRest after ∨ Continues after) := by
  have called := Relation.ReflTransGen.tail
    (Relation.ReflTransGen.refl (r := Transition.Step refreshNext Exclusive)
      (a := RefreshState.initial)) ⟨.call .LcdTouchTask 1, True.intro, rfl⟩
  have created := called.tail ⟨.proceed .LcdTouchTask, fun _ => True.intro, rfl⟩
  have started := created.tail ⟨.proceed .LcdTouchTask, fun _ => True.intro, rfl⟩
  have proceeds {before : RefreshState} (idle : before.points .MainTask = .idle) :
      Exclusive before (.proceed .LcdTouchTask) ∧ NoCall (.proceed .LcdTouchTask) := by
    refine ⟨fun _ => ?_, True.intro⟩
    rw [show RefreshTask.other .LcdTouchTask = .MainTask from rfl, idle]
    exact True.intro
  have returned := @refresh_returns _ _
    (.complete :: List.replicate 5 (.proceed .LcdTouchTask)) started
    (.step ⟨True.intro, True.intro⟩ rfl (.step (proceeds rfl) rfl (.step (proceeds rfl) rfl
      (.step (proceeds rfl) rfl (.step (proceeds rfl) rfl (.step (proceeds rfl) rfl
        (.done _)))))))
  exact ⟨_, _, _, rfl, rfl, returned⟩

/-! ## A wait that never ends -/

/-- A task waits on a semaphore that is not given and that nobody can reach any
more: the global holds another one, and the other task does not wait on it. -/
structure Abandoned (task : RefreshTask) (rows number position : Nat) (state : RefreshState) :
    Prop where
  waits : state.points task = .wait rows number (some position)
  holds : Semaphore.Holds state.semaphores position false
  replaced : state.refresh_finish ≠ some position
  alone : ∀ rows number, state.points task.other ≠ .wait rows number (some position)

/-- What the other task does with its own point. -/
theorem Abandoned.move {task : RefreshTask} {rows number position : Nat}
    {state state' : RefreshState} {point : RefreshPoint}
    (abandoned : Abandoned task rows number position state)
    (points : state'.points = state.points)
    (holds : Semaphore.Holds state'.semaphores position false)
    (replaced : state'.refresh_finish ≠ some position)
    (alone : ∀ rows number, point ≠ .wait rows number (some position)) :
    Abandoned task rows number position (state'.move task.other point) := by
  refine ⟨?_, holds, replaced, ?_⟩
  · simp only [RefreshState.move, Function.update_of_ne task.other_ne.symm, points]
    exact abandoned.waits
  · rw [RefreshState.move_points_self]
    exact alone

/-- The task itself is blocked. -/
theorem Abandoned.blocked {task : RefreshTask} {rows number position : Nat}
    {state : RefreshState} (abandoned : Abandoned task rows number position state) :
    refreshProceed task state = none := by
  unfold refreshProceed
  simp only [abandoned.waits, abandoned.holds.live, abandoned.holds.isGiven,
    Bool.true_eq_false, Bool.false_eq_true, if_false]

theorem Abandoned.proceed {task mover : RefreshTask} {rows number position : Nat}
    {before after : RefreshState} (abandoned : Abandoned task rows number position before)
    (moved : refreshProceed mover before = some after) :
    Abandoned task rows number position after := by
  rcases task.eq_or_other mover with same | same
  · rw [same, abandoned.blocked] at moved
    cases moved
  · rw [same] at moved
    cases proceeds_of_moved moved with
    | create left stands =>
        refine abandoned.move rfl abandoned.holds.create ?_ ?_
        · intro new
          exact absurd (Option.some.inj new) (Nat.ne_of_gt abandoned.holds.lt_length)
        · cases task <;> exact fun _ _ => nofun
    | allocate left stands =>
        exact abandoned.move rfl abandoned.holds abandoned.replaced fun _ _ => nofun
    | abandon stands =>
        exact abandoned.move rfl (abandoned.holds.update abandoned.replaced _)
          abandoned.replaced fun _ _ => nofun
    | finish stands =>
        refine abandoned.move rfl abandoned.holds abandoned.replaced ?_
        cases task <;> exact fun _ _ => nofun
    | start left stands =>
        exact abandoned.move rfl abandoned.holds abandoned.replaced fun _ _ => nofun
    | take left started stands =>
        refine abandoned.move rfl abandoned.holds abandoned.replaced ?_
        intro rows' number' reads
        exact abandoned.replaced (RefreshPoint.wait.inj reads).2.2
    | fall left started handle stands dead =>
        exact abandoned.move rfl abandoned.holds abandoned.replaced fun _ _ => nofun
    | pass left started handle stands given =>
        have different : handle ≠ some position := by
          intro equal
          rw [equal] at stands
          exact abandoned.alone left started stands
        exact abandoned.move rfl (abandoned.holds.update different _) abandoned.replaced
          fun _ _ => nofun
    | delete stands =>
        refine abandoned.move rfl (abandoned.holds.update abandoned.replaced _)
          abandoned.replaced ?_
        cases task <;> exact fun _ _ => nofun
    | free stands =>
        refine abandoned.move rfl abandoned.holds abandoned.replaced ?_
        cases task <;> exact fun _ _ => nofun

theorem Abandoned.step {task : RefreshTask} {rows number position : Nat}
    {before after : RefreshState} {action : RefreshAction}
    (abandoned : Abandoned task rows number position before)
    (moved : refreshNext before action = some after) :
    Abandoned task rows number position after := by
  cases action with
  | call mover left =>
      unfold refreshNext at moved
      rcases task.eq_or_other mover with same | same
      · rw [same] at moved
        simp only [abandoned.waits, reduceCtorEq] at moved
      · rw [same] at moved
        cases point : before.points task.other with
        | idle =>
            cases task with
            | MainTask =>
                simp only [RefreshTask.other] at point moved
                simp only [point] at moved
                cases moved
                exact abandoned.move rfl abandoned.holds abandoned.replaced fun _ _ => nofun
            | LcdTouchTask =>
                simp only [RefreshTask.other] at point moved
                simp only [point] at moved
                cases moved
                exact abandoned.move rfl abandoned.holds abandoned.replaced fun _ _ => nofun
        | _ => simp only [point, reduceCtorEq] at moved
  | proceed mover => exact abandoned.proceed moved
  | fail mover =>
      unfold refreshNext at moved
      rcases task.eq_or_other mover with same | same
      · rw [same] at moved
        simp only [abandoned.waits, reduceCtorEq] at moved
      · rw [same] at moved
        cases point : before.points task.other with
        | create left =>
            simp only [point] at moved
            cases moved
            refine abandoned.move rfl abandoned.holds (by nofun) ?_
            cases task <;> exact fun _ _ => nofun
        | allocate left =>
            simp only [point] at moved
            cases moved
            exact abandoned.move rfl abandoned.holds abandoned.replaced fun _ _ => nofun
        | _ => simp only [point, reduceCtorEq] at moved
  | complete =>
      unfold refreshNext at moved
      cases flight : before.inFlight with
      | nil => simp only [flight, reduceCtorEq] at moved
      | cons transfer later =>
          simp only [flight] at moved
          cases moved
          exact ⟨abandoned.waits, abandoned.holds.update abandoned.replaced _,
            abandoned.replaced, abandoned.alone⟩

end Display
end ToothVoca
