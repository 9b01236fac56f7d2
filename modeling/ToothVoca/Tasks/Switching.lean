import ToothVoca.Tasks.Device

namespace ToothVoca
namespace Tasks

open Library Network

/-!
# Whether the display is on while the timer counts (`task.c`)

The callback sets `s_isStartTimer` and then switches the display on, one part
after the other.  At the end of a session the timer task clears the flag and
switches the display off in the same way.  The flag is as the last of the two
left it, and a part of the display is as the last of the two left it; nothing
makes these the same one.

A switch is outstanding when its task has set the flag and not switched the
part yet.  While both tasks have a switch of one part outstanding, either may
come first.  The last one has to agree with the flag.  Where it always does, a
part without an outstanding switch is as the flag says, and so is the display
when both tasks are at their delay.
-/

/-- The switch of a part to the given side is still to be made by the task that
has set the flag to this side. -/
def Outstanding (state : DeviceState) (part : DisplayPart) : Bool → Prop
  | true => state.lcdTouch = .turnOn ∨ .switch part true ∈ state.calls .LcdTouch
  | false =>
      state.timer.point = .reload ∨ state.timer.point = .turnOff ∨
        .switch part false ∈ state.calls .TimerTask

instance (state : DeviceState) (part : DisplayPart) (on : Bool) :
    Decidable (Outstanding state part on) :=
  match on with
  | true => inferInstanceAs (Decidable (_ ∨ _))
  | false => inferInstanceAs (Decidable (_ ∨ _ ∨ _))

/-- A switch agrees with the flag, or the other task switches the part later. -/
def InOrder (before : DeviceState) : DeviceCall → Prop
  | .switch part on => on = before.timer.s_isStartTimer ∨ Outstanding before part (!on)
  | .pipeline _ => True

instance (before : DeviceState) (call : DeviceCall) : Decidable (InOrder before call) :=
  match call with
  | .switch _ _ => inferInstanceAs (Decidable (_ ∨ _))
  | .pipeline _ => isTrue True.intro

/-- The parts of the display are last switched by the task that last set the
flag. -/
def SwitchesInOrder (before : DeviceState) (action : DeviceAction) : Prop :=
  ∀ call ∈ nextCall before action, InOrder before call

instance (before : DeviceState) (action : DeviceAction) :
    Decidable (SwitchesInOrder before action) :=
  inferInstanceAs (Decidable (∀ call ∈ nextCall before action, InOrder before call))

/-- Both tasks are at their `vTaskDelay`. -/
def AtDelay (state : DeviceState) : Prop :=
  state.timer.point = .delay ∧ state.calls .TimerTask = [] ∧ state.lcdTouch = .delay ∧
    state.calls .LcdTouch = []

/-- A part without an outstanding switch is as the flag says. -/
def Settled (state : DeviceState) : Prop :=
  ∀ part, (∀ on, ¬ Outstanding state part on) → state.display part = state.timer.s_isStartTimer

/-- A call settles at most the switch that it makes. -/
theorem Outstanding.call {before : DeviceState} {part : DisplayPart} {on : Bool}
    {task : DeviceTask} {call : DeviceCall} {left : List DeviceCall}
    (outstanding : Outstanding before part on) (calls : before.calls task = call :: left)
    (other : call ≠ .switch part on) :
    Outstanding ((before.perform call).enter task left) part on := by
  have kept (source : DeviceTask) (member : .switch part on ∈ before.calls source) :
      .switch part on ∈ Function.update before.calls task left source := by
    by_cases same : source = task
    · subst same
      rw [calls, List.mem_cons] at member
      rw [Function.update_self]
      exact member.resolve_left fun equal => other equal.symm
    · rw [Function.update_of_ne same]
      exact member
  cases on with
  | true =>
      simp only [Outstanding, DeviceState.enter, DeviceState.lcdTouch_perform,
        DeviceState.calls_perform] at outstanding ⊢
      exact outstanding.imp_right (kept .LcdTouch)
  | false =>
      simp only [Outstanding, DeviceState.enter, DeviceState.timer_perform,
        DeviceState.calls_perform] at outstanding ⊢
      exact outstanding.imp_right fun later => later.imp_right (kept .TimerTask)

/-- A call in order keeps the parts without an outstanding switch settled. -/
theorem Settled.call {before : DeviceState} {task : DeviceTask} {call : DeviceCall}
    {left : List DeviceCall} (settled : Settled before) (inOrder : InOrder before call)
    (calls : before.calls task = call :: left) :
    Settled ((before.perform call).enter task left) := by
  intro part none
  have before_none (different : ∀ on, call ≠ .switch part on) (on : Bool) :
      ¬ Outstanding before part on :=
    fun outstanding => none on (outstanding.call calls (different on))
  cases call with
  | pipeline call => exact settled part (before_none nofun)
  | switch switched on =>
      by_cases same : switched = part
      · subst same
        have now : ((before.perform (.switch switched on)).enter task left).display switched =
            on := by
          simp only [DeviceState.perform, DeviceState.enter, Function.update_self]
        rw [now]
        rcases inOrder with agrees | later
        · exact agrees
        · have different : DeviceCall.switch switched on ≠ .switch switched (!on) := by
            cases on <;> simp
          exact absurd (later.call calls different) (none (!on))
      · have kept : ((before.perform (.switch switched on)).enter task left).display part =
            before.display part := by
          simp only [DeviceState.perform, DeviceState.enter,
            Function.update_of_ne (Ne.symm same)]
        rw [kept]
        apply settled part
        apply before_none
        intro on' equal
        cases equal
        exact same rfl

theorem Settled.timer {before : DeviceState} (settled : Settled before)
    (setting : TimeSetting) (idle : before.calls .TimerTask = []) :
    Settled (timerStatement setting before) := by
  intro part none
  by_cases stopping : before.timer.point = .stop ∨ before.timer.point = .reload ∨
      before.timer.point = .turnOff
  · -- the switch to the dark side is outstanding
    refine absurd ?_ (none false)
    rcases stopping with point | point | point
    · simp [Outstanding, timerStatement, DeviceState.enter, Task_TimerTask, point]
    · simp [Outstanding, timerStatement, DeviceState.enter, Task_TimerTask, point]
    · cases part <;>
        simp [Outstanding, timerStatement, DeviceState.enter, Task_TimerTask, point,
          timerCalls, LcdTouch_TurnOff]
  · simp only [not_or] at stopping
    have flag := Task_TimerTask_s_isStartTimer setting stopping.1
    refine (settled part ?_).trans flag.symm
    intro on outstanding
    cases on with
    | true => exact none true outstanding
    | false => simp [Outstanding, idle, stopping] at outstanding

theorem Settled.main {before : DeviceState} (settled : Settled before)
    (layer : SocketLayer) : Settled (mainStatement layer before) := by
  have same : (mainStatement layer before).display = before.display ∧
      (mainStatement layer before).timer.s_isStartTimer = before.timer.s_isStartTimer ∧
      ∀ part on, Outstanding (mainStatement layer before) part on ↔ Outstanding before part on := by
    rw [mainStatement]
    split <;> refine ⟨rfl, rfl, fun part on => ?_⟩ <;> cases on <;> exact Iff.rfl
  intro part none
  rw [same.1, same.2.1]
  apply settled part
  intro on outstanding
  exact none on ((same.2.2 part on).mpr outstanding)

theorem Settled.lcdTouch {before : DeviceState} (settled : Settled before)
    (idle : before.calls .LcdTouch = []) : Settled (lcdTouchStatement before) := by
  intro part none
  by_cases starting : before.lcdTouch = .startTimer ∨ before.lcdTouch = .turnOn
  · -- the switch to the bright side is outstanding
    refine absurd ?_ (none true)
    rcases starting with point | point
    · simp [Outstanding, lcdTouchStatement, point]
    · cases part <;>
        simp [Outstanding, lcdTouchStatement, DeviceState.enter, point, LcdTouch_TurnOn]
  · simp only [not_or] at starting
    have same : (lcdTouchStatement before).display = before.display ∧
        (lcdTouchStatement before).timer = before.timer ∧
        (lcdTouchStatement before).calls = before.calls := by
      rw [lcdTouchStatement]
      split <;> simp_all
    rw [same.1, same.2.1]
    apply settled part
    intro on outstanding
    cases on with
    | true => simp [Outstanding, idle, starting] at outstanding
    | false =>
        apply none false
        simpa only [Outstanding, same.2.1, same.2.2] using outstanding

theorem Settled.step {setting : TimeSetting} {before after : DeviceState} {action : DeviceAction}
    (settled : Settled before) (inOrder : SwitchesInOrder before action)
    (moved : deviceNext setting before action = some after) : Settled after := by
  cases deviceNext_step moved with
  | touch => exact settled
  | call task call left moves calls =>
      refine settled.call (inOrder call ?_) calls
      simp [nextCall, moves, calls]
  | timer idle => exact settled.timer setting idle
  | main layer => exact settled.main layer
  | lcdTouch idle => exact settled.lcdTouch idle

/-- In every run in which the parts of the display are last switched by the task
that last set the flag, the display is on exactly while the timer is, whenever
both tasks are at their delay. -/
theorem display_matches (setting : TimeSetting) (state : DeviceState)
    (reachable : Transition.Reachable (deviceNext setting) SwitchesInOrder
      (DeviceState.initial setting) state) :
    AtDelay state → ∀ part, state.display part = state.timer.s_isStartTimer := by
  rintro ⟨timerPoint, timerCalls, lcdTouchPoint, lcdTouchCalls⟩ part
  have settled := reachable.invariant Settled (fun part _ => rfl)
    fun _ _ _ settled inOrder moved => settled.step inOrder moved
  apply settled part
  intro on outstanding
  cases on with
  | true => simp [Outstanding, lcdTouchPoint, lcdTouchCalls] at outstanding
  | false => simp [Outstanding, timerPoint, timerCalls] at outstanding

instance (state : DeviceState) : Decidable (AtDelay state) :=
  inferInstanceAs (Decidable (_ ∧ _))

/-- The timer task waits at its first delay while a touch switches the display
on. -/
theorem display_matches_first :
    ∃ state : DeviceState, AtDelay state ∧ state.timer.s_isStartTimer = true ∧
      ∀ part, state.display part = state.timer.s_isStartTimer := by
  have executed : (Transition.runWithin (deviceNext .source) SwitchesInOrder
      (DeviceState.initial .source)
      (List.replicate 2 .timer ++ firstTouch ++ List.replicate 5 .lcdTouch)).map
        (fun state => (decide (AtDelay state), state.timer.s_isStartTimer)) =
      some (true, true) := by decide +kernel
  rcases Transition.exists_reachable_of_runWithin _ executed with ⟨state, reachable, observed⟩
  have atDelay := of_decide_eq_true (congrArg Prod.fst observed)
  exact ⟨state, atDelay, congrArg Prod.snd observed,
    display_matches .source state reachable atDelay⟩

/-- A touch falls between the end of the first session and the call of
`LcdTouch_TurnOff`: the timer counts, and the panel is off. -/
theorem display_not_matching :
    ¬ ∀ (setting : TimeSetting) (state : DeviceState),
      Transition.Reachable (deviceNext setting) Transition.anyStep
        (DeviceState.initial setting) state →
      AtDelay state → (state.display .panel = true ↔ state.timer.s_isStartTimer = true) := by
  intro matching
  have executed : (Transition.run (deviceNext .source) (DeviceState.initial .source)
      (firstTouch ++ List.replicate 5 .lcdTouch ++ List.replicate 766 .timer ++
        .touch :: List.replicate 9 .lcdTouch ++ List.replicate 5 .timer)).map
        (fun state =>
          (decide (AtDelay state), state.display .panel, state.timer.s_isStartTimer)) =
      some (true, false, true) := by decide +kernel
  rcases Transition.exists_reachable_of_run _ executed with ⟨state, reachable, observed⟩
  have atDelay := of_decide_eq_true (congrArg Prod.fst observed)
  have counting := congrArg (fun values => values.2.2) observed
  have dark := congrArg (fun values => values.2.1) observed
  have lit := (matching .source state reachable atDelay).mpr counting
  exact absurd (lit.symm.trans dark) (by decide)

end Tasks
end ToothVoca
