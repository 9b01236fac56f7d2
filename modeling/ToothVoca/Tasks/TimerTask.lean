import Mathlib.Data.UInt
import ToothVoca.Library.Transition

namespace ToothVoca
namespace Tasks

open Library

/-!
# The timer task (`task.c`)

`Task_TimerTask` counts a session down in two `uint8_t` variables.  The borrow
is taken after `sec` has wrapped to 255, and three exits of one iteration
interact: the borrow with its word request, the end of the session, and the
repetition of the audio.

The task is a machine that takes one statement of the loop at a time, so that
a touch can set `s_isStartTimer` between any two of them.  What the task does
to the outside is recorded in a log.  `sessionTrace` says, in plain numbers,
what a session of a given length leaves in the log; `ahead` says what a state
inside of a session has still to leave there.  The sum of the two is kept by
every step, and the facts about sessions follow from that.
-/

/-- The compile-time settings, within the range that the counters are made
for. -/
structure TimeSetting where
  TV_TASK_TIME_MIN : Nat
  TV_TASK_TIME_SEC : Nat
  min_le : TV_TASK_TIME_MIN ≤ 60
  sec_le : TV_TASK_TIME_SEC ≤ 59
  positive : 1 ≤ 60 * TV_TASK_TIME_MIN + TV_TASK_TIME_SEC

/-- The settings of the source. -/
def TimeSetting.source : TimeSetting where
  TV_TASK_TIME_MIN := 2
  TV_TASK_TIME_SEC := 0
  min_le := by decide
  sec_le := by decide
  positive := by decide

/-- The length of a session in seconds. -/
def TimeSetting.total (setting : TimeSetting) : Nat :=
  60 * setting.TV_TASK_TIME_MIN + setting.TV_TASK_TIME_SEC

def TV_TASK_REPEAT_TIME_SEC : UInt8 := 15

/-- The conversion `%02d`. -/
def twoDigits (value : UInt8) : List UInt8 :=
  if value < 100 then [48 + value / 10, 48 + value % 10]
  else [48 + value / 100, 48 + value / 10 % 10, 48 + value % 10]

/-- The text that `sprintf` writes for `"%02d : %02d"`. -/
def timeText (min sec : UInt8) : List UInt8 :=
  twoDigits min ++ [32, 58, 32] ++ twoDigits sec

/-- The statements of the loop. -/
inductive TimerPoint where
  | tick
  | test
  | display
  | count
  | request
  | borrow
  | restart
  | check
  | stop
  | reload
  | turnOff
  | sleep
  | audio
  | delay
deriving DecidableEq, Repr

/-- What the task does to the outside. -/
inductive TimerEvent where
  | displayed (min sec : UInt8)
  | wordRequested
  | minRestarted
  | audioRun
  | turnedOff
  | slept
deriving DecidableEq, Repr

structure TimerState where
  point : TimerPoint
  min : UInt8
  sec : UInt8
  s_isStartTimer : Bool
  s_isWordRequest : Bool
  s_timerTick : UInt32
  log : List TimerEvent
deriving DecidableEq, Repr

/-- The state in which the task enters its loop. -/
def TimerState.initial (setting : TimeSetting) : TimerState where
  point := .tick
  min := UInt8.ofNat setting.TV_TASK_TIME_MIN
  sec := UInt8.ofNat setting.TV_TASK_TIME_SEC
  s_isStartTimer := false
  s_isWordRequest := false
  s_timerTick := 0
  log := []

/-- One statement of the loop of `Task_TimerTask`. -/
def Task_TimerTask (setting : TimeSetting) (before : TimerState) : TimerState :=
  match before.point with
  | .tick => { before with s_timerTick := before.s_timerTick + 1, point := .test }
  | .test => { before with point := if before.s_isStartTimer then .display else .delay }
  | .display =>
      { before with log := before.log ++ [.displayed before.min before.sec], point := .count }
  | .count =>
      let sec := before.sec - 1
      { before with sec := sec, point := if 60 < sec then .request else .check }
  | .request =>
      { before with
        s_isWordRequest := true
        log := before.log ++ [.wordRequested]
        point := .borrow }
  | .borrow =>
      let min := before.min - 1
      { before with sec := 59, min := min, point := if 60 < min then .restart else .check }
  | .restart =>
      { before with
        min := UInt8.ofNat setting.TV_TASK_TIME_MIN
        log := before.log ++ [.minRestarted]
        point := .check }
  | .check =>
      { before with
        point :=
          if before.sec = 0 ∧ before.min = 0 then .stop
          else if before.sec % TV_TASK_REPEAT_TIME_SEC = 0 ∧ before.sec ≠ 0 then .audio
          else .delay }
  | .stop => { before with s_isStartTimer := false, point := .reload }
  | .reload =>
      { before with
        min := UInt8.ofNat setting.TV_TASK_TIME_MIN
        sec := UInt8.ofNat setting.TV_TASK_TIME_SEC
        point := .turnOff }
  | .turnOff => { before with log := before.log ++ [.turnedOff], point := .sleep }
  | .sleep => { before with log := before.log ++ [.slept], point := .delay }
  | .audio => { before with log := before.log ++ [.audioRun], point := .delay }
  | .delay => { before with point := .tick }

/-- Only the borrow requests a word. -/
theorem Task_TimerTask_s_isWordRequest (setting : TimeSetting) (before : TimerState) :
    (Task_TimerTask setting before).s_isWordRequest =
      (before.s_isWordRequest || decide (before.point = .request)) := by
  cases point : before.point <;> simp [Task_TimerTask, point]

/-- A request is logged exactly where the flag is raised. -/
theorem Task_TimerTask_logs (setting : TimeSetting) (before : TimerState) :
    ∃ events, (Task_TimerTask setting before).log = before.log ++ events ∧
      (Task_TimerTask setting before).s_isWordRequest =
        (before.s_isWordRequest || decide (.wordRequested ∈ events)) ∧
      events.count .wordRequested = (decide (before.point = .request)).toNat := by
  rcases before with ⟨point, min, sec, started, request, tick, log⟩
  rw [Task_TimerTask_s_isWordRequest]
  cases point with
  | display | request | restart | turnOff | sleep | audio => exact ⟨_, rfl, rfl, rfl⟩
  | _ => exact ⟨[], (List.append_nil log).symm, rfl, rfl⟩

/-- Who moves: the timer task, the touch callback, or the main task, which
clears the request flag. -/
inductive TimerAction where
  | timer
  | touch
  | requestTaken
deriving DecidableEq, Repr

def timerNext (setting : TimeSetting) (before : TimerState) : TimerAction → Option TimerState
  | .timer => some (Task_TimerTask setting before)
  | .touch => some { before with s_isStartTimer := true }
  | .requestTaken => some { before with s_isWordRequest := false }

/-- The states of all runs, with touches at any moment. -/
def TimerReachable (setting : TimeSetting) : TimerState → Prop :=
  Transition.Reachable (timerNext setting) Transition.anyStep (TimerState.initial setting)

/-- In every run a flag that is raised was logged as a request. -/
theorem request_logged {setting : TimeSetting} {state : TimerState}
    (reachable : TimerReachable setting state) :
    state.s_isWordRequest = true → .wordRequested ∈ state.log := by
  refine reachable.invariant (fun state => state.s_isWordRequest = true →
    .wordRequested ∈ state.log) (fun raised => by cases raised) ?_
  intro before action after logged _ moved raised
  cases action with
  | timer =>
      cases moved
      rcases Task_TimerTask_logs setting before with ⟨events, log, flag, _⟩
      rw [flag, Bool.or_eq_true, decide_eq_true_eq] at raised
      rw [log, List.mem_append]
      exact raised.imp logged id
  | touch =>
      cases moved
      exact logged raised
  | requestTaken =>
      cases moved
      cases raised

/-! ## What a session leaves in the log -/

/-- The display of so many seconds. -/
def displayEvent (left : Nat) : TimerEvent :=
  .displayed (UInt8.ofNat (left / 60)) (UInt8.ofNat (left % 60))

/-- The request of the iteration that starts with so many seconds left. -/
def requestTrace (left : Nat) : List TimerEvent :=
  if left % 60 = 0 then [.wordRequested] else []

/-- The end of the iteration after which so many seconds are left. -/
def checkTrace (left : Nat) : List TimerEvent :=
  if left = 0 then [.turnedOff, .slept]
  else if left % 15 = 0 ∧ left % 60 ≠ 0 then [.audioRun]
  else []

/-- The rest of a session with so many seconds left. -/
def sessionTrace : Nat → List TimerEvent
  | 0 => []
  | left + 1 =>
      displayEvent (left + 1) ::
        (requestTrace (left + 1) ++ (checkTrace left ++ sessionTrace left))

/-- So many whole sessions. -/
def sessionsTrace (setting : TimeSetting) (sessions : Nat) : List TimerEvent :=
  (List.replicate sessions (sessionTrace setting.total)).flatten

def displayedSeconds : TimerEvent → Option Nat
  | .displayed min sec => some (60 * min.toNat + sec.toNat)
  | _ => none

/-- The seconds left, as the counters hold them. -/
def TimerState.seconds (state : TimerState) : Nat :=
  60 * state.min.toNat + state.sec.toNat

/-- The seconds left behind the current iteration.  Between the wrap of `sec`
and its correction the minutes alone count. -/
def TimerState.left (state : TimerState) : Nat :=
  match state.point with
  | .request | .borrow => 60 * state.min.toNat - 1
  | .stop | .reload | .turnOff | .sleep => 0
  | _ => state.seconds

/-- What the session has still to leave in the log. -/
def ahead (state : TimerState) : List TimerEvent :=
  match state.point with
  | .tick | .test | .display | .delay => sessionTrace state.left
  | .count =>
      requestTrace state.left ++ (checkTrace (state.left - 1) ++ sessionTrace (state.left - 1))
  | .request => .wordRequested :: (checkTrace state.left ++ sessionTrace state.left)
  | .borrow | .restart | .check => checkTrace state.left ++ sessionTrace state.left
  | .stop | .reload | .turnOff => [.turnedOff, .slept]
  | .sleep => [.slept]
  | .audio => .audioRun :: sessionTrace state.left

/-- What the counters hold at each statement. -/
def Counted (setting : TimeSetting) (state : TimerState) : Prop :=
  match state.point with
  | .tick | .test | .display | .count | .delay =>
      0 < state.seconds ∧ state.seconds ≤ setting.total ∧ state.sec.toNat ≤ 59
  | .request | .borrow =>
      state.sec.toNat = 255 ∧ 1 ≤ state.min.toNat ∧ 60 * state.min.toNat ≤ setting.total
  | .restart => False
  | .check => state.seconds < setting.total ∧ state.sec.toNat ≤ 59
  | .audio =>
      0 < state.seconds ∧ state.seconds < setting.total ∧ state.sec.toNat ≤ 59
  | .stop | .reload => True
  | .turnOff | .sleep =>
      state.min.toNat = setting.TV_TASK_TIME_MIN ∧ state.sec.toNat = setting.TV_TASK_TIME_SEC

/-- The current iteration is not skipped. -/
def Running (state : TimerState) : Prop :=
  match state.point with
  | .reload | .turnOff | .sleep => True
  | _ => state.s_isStartTimer = true

/-- The task is between two sessions, or inside of one and not skipping. -/
def Started (setting : TimeSetting) (state : TimerState) : Prop :=
  ((state.point = .tick ∨ state.point = .test ∨ state.point = .delay) ∧
    setting.total ≤ state.seconds) ∨ Running state

/-- A bound on the number of statements up to the end of the session. -/
def work (state : TimerState) : Nat :=
  16 * state.left +
    match state.point with
    | .tick => 5
    | .test => 4
    | .display => 3
    | .count => 2
    | .request => 15
    | .borrow => 14
    | .restart => 13
    | .check => 12
    | .stop => 11
    | .reload => 10
    | .turnOff => 9
    | .sleep => 8
    | .audio => 10
    | .delay => 6

/-! ## The wrapping counters -/

/-- The decrement of `sec` with its test: it wraps exactly when the minute is
over. -/
theorem count_sec {sec : UInt8} (small : sec.toNat ≤ 59) :
    (sec.toNat = 0 ∧ (sec - 1).toNat = 255 ∧ 60 < sec - 1) ∨
      (0 < sec.toNat ∧ (sec - 1).toNat = sec.toNat - 1 ∧ ¬ 60 < sec - 1) := by
  have value : (sec - 1).toNat = (256 - 1 + sec.toNat) % 256 := UInt8.toNat_sub sec 1
  have compare : 60 < sec - 1 ↔ 60 < (sec - 1).toNat := UInt8.lt_iff_toNat_lt
  rw [compare]
  omega

/-- The decrement of `min` with its test, where a minute is left to borrow. -/
theorem borrow_min {min : UInt8} (some : 1 ≤ min.toNat) (small : min.toNat ≤ 60) :
    (min - 1).toNat = min.toNat - 1 ∧ ¬ 60 < min - 1 := by
  have value : (min - 1).toNat = (256 - 1 + min.toNat) % 256 := UInt8.toNat_sub min 1
  have compare : 60 < min - 1 ↔ 60 < (min - 1).toNat := UInt8.lt_iff_toNat_lt
  rw [compare]
  omega

/-- The three exits of the tests behind the decrement, with what each of them
leaves in the log. -/
theorem check_exits (min : UInt8) {sec : UInt8} (small : sec.toNat ≤ 59) :
    let seconds := 60 * min.toNat + sec.toNat
    let exit :=
      if sec = 0 ∧ min = 0 then TimerPoint.stop
      else if sec % TV_TASK_REPEAT_TIME_SEC = 0 ∧ sec ≠ 0 then .audio
      else .delay
    (seconds = 0 ∧ checkTrace seconds = [.turnedOff, .slept] ∧ exit = .stop) ∨
      (0 < seconds ∧ checkTrace seconds = [.audioRun] ∧ exit = .audio) ∨
      (0 < seconds ∧ checkTrace seconds = [] ∧ exit = .delay) := by
  have ends : (sec = 0 ∧ min = 0) ↔ 60 * min.toNat + sec.toNat = 0 := by
    rw [← UInt8.toNat_inj, ← UInt8.toNat_inj, UInt8.toNat_zero]
    omega
  have repeats : (sec % TV_TASK_REPEAT_TIME_SEC = 0 ∧ sec ≠ 0) ↔
      (60 * min.toNat + sec.toNat) % 15 = 0 ∧ (60 * min.toNat + sec.toNat) % 60 ≠ 0 := by
    have repeatSec : (sec % TV_TASK_REPEAT_TIME_SEC).toNat = sec.toNat % 15 :=
      UInt8.toNat_mod sec 15
    rw [ne_eq, ← UInt8.toNat_inj, ← UInt8.toNat_inj, UInt8.toNat_zero, repeatSec]
    omega
  simp only [ends, repeats, checkTrace]
  by_cases zero : 60 * min.toNat + sec.toNat = 0
  · rw [if_pos zero, if_pos zero]
    exact Or.inl ⟨zero, rfl, rfl⟩
  · rw [if_neg zero, if_neg zero]
    have positive := Nat.pos_of_ne_zero zero
    by_cases audio : (60 * min.toNat + sec.toNat) % 15 = 0 ∧
        (60 * min.toNat + sec.toNat) % 60 ≠ 0
    · rw [if_pos audio, if_pos audio]
      exact Or.inr (Or.inl ⟨positive, rfl, rfl⟩)
    · rw [if_neg audio, if_neg audio]
      exact Or.inr (Or.inr ⟨positive, rfl, rfl⟩)

/-- The first event of a session with so many seconds left shows them. -/
theorem sessionTrace_display {min sec : UInt8} (positive : 0 < 60 * min.toNat + sec.toNat)
    (small : sec.toNat ≤ 59) :
    sessionTrace (60 * min.toNat + sec.toNat) =
      .displayed min sec :: (requestTrace (60 * min.toNat + sec.toNat) ++
        (checkTrace (60 * min.toNat + sec.toNat - 1) ++
          sessionTrace (60 * min.toNat + sec.toNat - 1))) := by
  have minutes : (60 * min.toNat + sec.toNat) / 60 = min.toNat := by omega
  have seconds : (60 * min.toNat + sec.toNat) % 60 = sec.toNat := by omega
  rcases Nat.exists_eq_succ_of_ne_zero (Nat.ne_of_gt positive) with ⟨left, shape⟩
  rw [shape, Nat.succ_eq_add_one, Nat.add_sub_cancel, sessionTrace, ← Nat.succ_eq_add_one, ← shape,
    displayEvent, minutes, seconds, UInt8.ofNat_toNat, UInt8.ofNat_toNat]

section Setting

variable (setting : TimeSetting)

theorem setting_min : (UInt8.ofNat setting.TV_TASK_TIME_MIN).toNat = setting.TV_TASK_TIME_MIN := by
  have bound := setting.min_le
  rw [UInt8.toNat_ofNat']
  omega

theorem setting_sec : (UInt8.ofNat setting.TV_TASK_TIME_SEC).toNat = setting.TV_TASK_TIME_SEC := by
  have bound := setting.sec_le
  rw [UInt8.toNat_ofNat']
  omega

theorem total_le : setting.total ≤ 3659 := by
  have min_le := setting.min_le
  have sec_le := setting.sec_le
  unfold TimeSetting.total
  omega

end Setting

/-! ## What one statement keeps -/

variable {setting : TimeSetting}

/-- The counters stay in their ranges. -/
theorem counted_step {state : TimerState} (counted : Counted setting state) :
    Counted setting (Task_TimerTask setting state) := by
  rcases state with ⟨point, min, sec, started, request, tick, log⟩
  have total := total_le setting
  cases point with
  | tick => exact counted
  | test =>
      cases started with
      | false => exact counted
      | true => exact counted
  | display => exact counted
  | count =>
      simp only [Counted, TimerState.seconds] at counted
      rcases count_sec counted.2.2 with ⟨zero, wrapped, borrows⟩ | ⟨positive, value, stays⟩
      · simp only [Task_TimerTask, if_pos borrows, Counted]
        exact ⟨wrapped, by omega, by omega⟩
      · simp only [Task_TimerTask, if_neg stays, Counted, TimerState.seconds, value]
        omega
  | request => exact counted
  | borrow =>
      simp only [Counted] at counted
      rcases borrow_min counted.2.1 (by omega) with ⟨value, stays⟩
      have fiftyNine : (59 : UInt8).toNat = 59 := rfl
      simp only [Task_TimerTask, if_neg stays, Counted, TimerState.seconds, value, fiftyNine]
      omega
  | restart => exact counted.elim
  | check =>
      simp only [Counted, TimerState.seconds] at counted
      rcases check_exits min counted.2 with
        ⟨zero, _, exit⟩ | ⟨positive, _, exit⟩ | ⟨positive, _, exit⟩
      · simp only [Task_TimerTask, exit, Counted]
      · simp only [Task_TimerTask, exit, Counted, TimerState.seconds]
        exact ⟨positive, counted⟩
      · simp only [Task_TimerTask, exit, Counted, TimerState.seconds]
        exact ⟨positive, Nat.le_of_lt counted.1, counted.2⟩
  | stop => exact counted
  | reload => exact ⟨setting_min setting, setting_sec setting⟩
  | turnOff => exact counted
  | sleep =>
      have positive := setting.positive
      simp only [Counted] at counted
      simp only [Task_TimerTask, Counted, TimerState.seconds, counted.1, counted.2,
        TimeSetting.total]
      exact ⟨positive, Nat.le_refl _, setting.sec_le⟩
  | audio =>
      exact ⟨counted.1, Nat.le_of_lt counted.2.1, counted.2.2⟩
  | delay => exact counted

/-- Every statement but the last of a session moves what it logs from what is
ahead. -/
theorem ahead_step {state : TimerState} (counted : Counted setting state)
    (awake : state.point ≠ .sleep) :
    (Task_TimerTask setting state).log ++ ahead (Task_TimerTask setting state) =
      state.log ++ ahead state := by
  rcases state with ⟨point, min, sec, started, request, tick, log⟩
  have total := total_le setting
  cases point with
  | tick => rfl
  | test =>
      cases started with
      | false => rfl
      | true => rfl
  | display =>
      simp only [Counted, TimerState.seconds] at counted
      simp only [Task_TimerTask, ahead, TimerState.left, TimerState.seconds,
        sessionTrace_display counted.1 counted.2.2, List.append_assoc]
      rfl
  | count =>
      simp only [Counted, TimerState.seconds] at counted
      rcases count_sec counted.2.2 with ⟨zero, wrapped, borrows⟩ | ⟨positive, value, stays⟩
      · have requests : requestTrace (60 * min.toNat + sec.toNat) = [.wordRequested] :=
          if_pos (by omega)
        have same : 60 * min.toNat + sec.toNat - 1 = 60 * min.toNat - 1 := by omega
        simp only [Task_TimerTask, if_pos borrows, ahead, TimerState.left, TimerState.seconds,
          requests, same]
        rfl
      · have requests : requestTrace (60 * min.toNat + sec.toNat) = [] := if_neg (by omega)
        have same : 60 * min.toNat + (sec.toNat - 1) = 60 * min.toNat + sec.toNat - 1 := by omega
        simp only [Task_TimerTask, if_neg stays, ahead, TimerState.left, TimerState.seconds,
          requests, value, same]
        rfl
  | request => simp only [Task_TimerTask, ahead, TimerState.left, List.append_assoc]; rfl
  | borrow =>
      simp only [Counted] at counted
      rcases borrow_min counted.2.1 (by omega) with ⟨value, stays⟩
      have same : 60 * (min.toNat - 1) + (59 : UInt8).toNat = 60 * min.toNat - 1 := by
        have fiftyNine : (59 : UInt8).toNat = 59 := rfl
        omega
      simp only [Task_TimerTask, if_neg stays, ahead, TimerState.left, TimerState.seconds, value,
        same]
  | restart => exact counted.elim
  | check =>
      simp only [Counted, TimerState.seconds] at counted
      rcases check_exits min counted.2 with
        ⟨zero, trace, exit⟩ | ⟨_, trace, exit⟩ | ⟨_, trace, exit⟩
      · simp only [Task_TimerTask, exit, ahead, TimerState.left, TimerState.seconds, trace]
        rw [zero]
        rfl
      · simp only [Task_TimerTask, exit, ahead, TimerState.left, TimerState.seconds, trace]
        rfl
      · simp only [Task_TimerTask, exit, ahead, TimerState.left, TimerState.seconds, trace,
          List.nil_append]
  | stop => rfl
  | reload => rfl
  | turnOff => simp only [Task_TimerTask, ahead, List.append_assoc]; rfl
  | sleep => exact absurd rfl awake
  | audio => simp only [Task_TimerTask, ahead, TimerState.left, List.append_assoc]; rfl
  | delay => rfl

/-- The last statement of a session logs all that is ahead, and the counters
stand at the settings. -/
theorem sleep_step {state : TimerState} (counted : Counted setting state)
    (asleep : state.point = .sleep) :
    (Task_TimerTask setting state).log = state.log ++ ahead state ∧
      (Task_TimerTask setting state).point = .delay ∧
      (Task_TimerTask setting state).seconds = setting.total := by
  rcases state with ⟨point, min, sec, started, request, tick, log⟩
  cases asleep
  simp only [Counted] at counted
  refine ⟨rfl, rfl, ?_⟩
  simp only [Task_TimerTask, TimerState.seconds, counted.1, counted.2, TimeSetting.total]

theorem running_step {state : TimerState} (running : Running state)
    (awake : state.point ≠ .sleep) : Running (Task_TimerTask setting state) := by
  rcases state with ⟨point, min, sec, started, request, tick, log⟩
  cases point with
  | tick => exact running
  | test =>
      cases running
      exact rfl
  | display => exact running
  | count =>
      by_cases borrows : 60 < sec - 1
      · simp only [Task_TimerTask, if_pos borrows]
        exact running
      · simp only [Task_TimerTask, if_neg borrows]
        exact running
  | request => exact running
  | borrow =>
      by_cases restarts : 60 < min - 1
      · simp only [Task_TimerTask, if_pos restarts]
        exact running
      · simp only [Task_TimerTask, if_neg restarts]
        exact running
  | restart => exact running
  | check =>
      simp only [Task_TimerTask]
      split
      · exact running
      · split
        · exact running
        · exact running
  | stop => exact True.intro
  | reload => exact True.intro
  | turnOff => exact True.intro
  | sleep => exact absurd rfl awake
  | audio => exact running
  | delay => exact running

theorem started_step {state : TimerState} (counted : Counted setting state)
    (started : Started setting state) : Started setting (Task_TimerTask setting state) := by
  by_cases asleep : state.point = .sleep
  · rcases sleep_step counted asleep with ⟨_, delayed, seconds⟩
    exact Or.inl ⟨Or.inr (Or.inr delayed), Nat.le_of_eq seconds.symm⟩
  · rcases started with ⟨outside, full⟩ | running
    · rcases state with ⟨point, min, sec, flag, request, tick, log⟩
      rcases outside with same | same | same
      · cases same
        exact Or.inl ⟨Or.inr (Or.inl rfl), full⟩
      · cases same
        cases flag with
        | false => exact Or.inl ⟨Or.inr (Or.inr rfl), full⟩
        | true => exact Or.inr rfl
      · cases same
        exact Or.inl ⟨Or.inl rfl, full⟩
    · exact Or.inr (running_step running asleep)

/-- Every statement of a session brings its end closer. -/
theorem work_step {state : TimerState} (counted : Counted setting state)
    (running : Running state) (awake : state.point ≠ .sleep) :
    work (Task_TimerTask setting state) < work state := by
  rcases state with ⟨point, min, sec, started, request, tick, log⟩
  have total := total_le setting
  cases point with
  | tick => exact Nat.lt_succ_self _
  | test =>
      cases running
      exact Nat.lt_succ_self _
  | display => exact Nat.lt_succ_self _
  | count =>
      simp only [Counted, TimerState.seconds] at counted
      rcases count_sec counted.2.2 with ⟨zero, wrapped, borrows⟩ | ⟨positive, value, stays⟩
      · simp only [Task_TimerTask, if_pos borrows, work, TimerState.left, TimerState.seconds]
        omega
      · simp only [Task_TimerTask, if_neg stays, work, TimerState.left, TimerState.seconds, value]
        omega
  | request => exact Nat.lt_succ_self _
  | borrow =>
      simp only [Counted] at counted
      rcases borrow_min counted.2.1 (by omega) with ⟨value, stays⟩
      have fiftyNine : (59 : UInt8).toNat = 59 := rfl
      simp only [Task_TimerTask, if_neg stays, work, TimerState.left, TimerState.seconds, value,
        fiftyNine]
      omega
  | restart => exact counted.elim
  | check =>
      simp only [Task_TimerTask]
      split
      · simp only [work, TimerState.left]
        omega
      · split
        · simp only [work, TimerState.left, TimerState.seconds]
          omega
        · simp only [work, TimerState.left, TimerState.seconds]
          omega
  | stop => exact Nat.lt_succ_self _
  | reload => exact Nat.lt_succ_self _
  | turnOff => exact Nat.lt_succ_self _
  | sleep => exact absurd rfl awake
  | audio =>
      simp only [Task_TimerTask, work, TimerState.left, TimerState.seconds]
      omega
  | delay => exact Nat.lt_succ_self _

/-- The flags that other tasks set do not enter the counters. -/
theorem touch_keeps (setting : TimeSetting) (state : TimerState) (setByOthers requested : Bool) :
    let touched := { state with s_isStartTimer := setByOthers, s_isWordRequest := requested }
    (Counted setting touched ↔ Counted setting state) ∧ ahead touched = ahead state ∧
      work touched = work state := by
  rcases state with ⟨point, min, sec, started, request, tick, log⟩
  cases point <;> exact ⟨Iff.rfl, rfl, rfl⟩

theorem running_touched (state : TimerState) :
    Running { state with s_isStartTimer := true } := by
  rcases state with ⟨point, min, sec, started, request, tick, log⟩
  cases point <;> first | exact True.intro | exact rfl

/-! ## Whole runs -/

/-- What holds in every state of every run. -/
structure TimerInvariant (setting : TimeSetting) (state : TimerState) : Prop where
  counted : Counted setting state
  started : Started setting state
  logged : ∃ sessions, state.log ++ ahead state = sessionsTrace setting sessions

theorem sessionsTrace_succ (sessions : Nat) :
    sessionsTrace setting (sessions + 1) =
      sessionsTrace setting sessions ++ sessionTrace setting.total := by
  rw [sessionsTrace, List.replicate_succ', List.flatten_append, List.flatten_singleton]
  rfl

theorem invariant_initial (setting : TimeSetting) :
    TimerInvariant setting (TimerState.initial setting) := by
  have seconds : (TimerState.initial setting).seconds = setting.total := by
    simp only [TimerState.initial, TimerState.seconds, setting_min, setting_sec, TimeSetting.total]
  refine ⟨?_, Or.inl ⟨Or.inl rfl, Nat.le_of_eq seconds.symm⟩, 1, ?_⟩
  · refine ⟨by rw [seconds]; exact setting.positive, Nat.le_of_eq seconds, ?_⟩
    rw [TimerState.initial, setting_sec]
    exact setting.sec_le
  · rw [sessionsTrace_succ]
    simp only [ahead, TimerState.initial, TimerState.left]
    exact congrArg sessionTrace seconds

theorem invariant_step {before after : TimerState} {action : TimerAction}
    (invariant : TimerInvariant setting before)
    (moved : timerNext setting before action = some after) : TimerInvariant setting after := by
  rcases invariant.logged with ⟨sessions, logged⟩
  cases action with
  | timer =>
      cases moved
      refine ⟨counted_step invariant.counted, started_step invariant.counted invariant.started, ?_⟩
      by_cases asleep : before.point = .sleep
      · rcases sleep_step invariant.counted asleep with ⟨complete, delayed, seconds⟩
        refine ⟨sessions + 1, ?_⟩
        rw [sessionsTrace_succ, complete, logged]
        simp only [ahead, TimerState.left, delayed, seconds]
      · exact ⟨sessions, by rw [ahead_step invariant.counted asleep, logged]⟩
  | touch =>
      cases moved
      rcases touch_keeps setting before true before.s_isWordRequest with
        ⟨counted, same, _⟩
      exact ⟨counted.mpr invariant.counted, Or.inr (running_touched before), sessions,
        by rw [same, logged]⟩
  | requestTaken =>
      cases moved
      rcases touch_keeps setting before before.s_isStartTimer false with
        ⟨counted, same, _⟩
      exact ⟨counted.mpr invariant.counted, invariant.started, sessions, by rw [same, logged]⟩

theorem timer_invariant {state : TimerState} (reachable : TimerReachable setting state) :
    TimerInvariant setting state :=
  Transition.Reachable.invariant (TimerInvariant setting) reachable (invariant_initial setting)
    fun _ _ _ invariant _ moved => invariant_step invariant moved

/-- The log only grows. -/
theorem log_prefix_step {before after : TimerState} {action : TimerAction}
    (moved : timerNext setting before action = some after) : before.log <+: after.log := by
  cases action with
  | timer =>
      cases moved
      rcases before with ⟨point, min, sec, started, request, tick, log⟩
      cases point <;> first | exact List.prefix_rfl | exact List.prefix_append _ _
  | touch =>
      cases moved
      exact List.prefix_rfl
  | requestTaken =>
      cases moved
      exact List.prefix_rfl

theorem log_prefix_run {before after : TimerState} {actions : List TimerAction}
    (executed : Transition.run (timerNext setting) before actions = some after) :
    before.log <+: after.log := by
  induction actions generalizing before with
  | nil =>
      cases executed
      exact List.prefix_rfl
  | cons action rest ih =>
      simp only [Transition.run, Option.bind_eq_some_iff] at executed
      rcases executed with ⟨middle, moved, executed⟩
      exact (log_prefix_step moved).trans (ih executed)

/-- A session that is running is completed by every run with enough statements
of the timer task, whatever else happens in between. -/
theorem session_completed (before : TimerState) {after : TimerState} {actions : List TimerAction}
    (counted : Counted setting before) (running : Running before)
    (enough : work before ≤ actions.count .timer)
    (executed : Transition.run (timerNext setting) before actions = some after) :
    before.log ++ ahead before <+: after.log := by
  induction actions generalizing before with
  | nil =>
      rcases before with ⟨point, min, sec, started, request, tick, log⟩
      simp only [work, List.count_nil] at enough
      cases point <;> simp only at enough <;> omega
  | cons action rest ih =>
      simp only [Transition.run, Option.bind_eq_some_iff] at executed
      rcases executed with ⟨middle, moved, executed⟩
      cases action with
      | timer =>
          cases moved
          rw [List.count_cons_self] at enough
          by_cases asleep : before.point = .sleep
          · rw [← (sleep_step counted asleep).1]
            exact log_prefix_run executed
          · have less := work_step counted running asleep
            rw [← ahead_step counted asleep]
            exact ih _ (counted_step counted) (running_step running asleep) (by omega) executed
      | touch =>
          cases moved
          rcases touch_keeps setting before true before.s_isWordRequest with
            ⟨counted', same, bound⟩
          rw [List.count_cons_of_ne (by decide)] at enough
          have completed := ih { before with s_isStartTimer := true }
            (counted'.mpr counted) (running_touched before) (by rw [bound]; exact enough) executed
          rwa [same] at completed
      | requestTaken =>
          cases moved
          rcases touch_keeps setting before before.s_isStartTimer false with
            ⟨counted', same, bound⟩
          rw [List.count_cons_of_ne (by decide)] at enough
          have completed := ih { before with s_isWordRequest := false }
            (counted'.mpr counted) running (by rw [bound]; exact enough) executed
          rwa [same] at completed

/-! ## What a session consists of -/

theorem mem_requestTrace {event : TimerEvent} {left : Nat} (member : event ∈ requestTrace left) :
    event = .wordRequested := by
  unfold requestTrace at member
  split at member
  · exact List.mem_singleton.mp member
  · cases member

theorem mem_checkTrace {event : TimerEvent} {left : Nat} (member : event ∈ checkTrace left) :
    (left = 0 ∧ (event = .turnedOff ∨ event = .slept)) ∨ (left ≠ 0 ∧ event = .audioRun) := by
  unfold checkTrace at member
  split at member
  case isTrue zero => exact Or.inl ⟨zero, by simpa using member⟩
  case isFalse positive =>
    split at member
    · exact Or.inr ⟨positive, List.mem_singleton.mp member⟩
    · cases member

theorem displayed_sessionTrace {left : Nat} (bound : left ≤ 3659) :
    (sessionTrace left).filterMap displayedSeconds = (List.range left).reverse.map (· + 1) := by
  induction left with
  | zero => rfl
  | succ left ih =>
      have request : (requestTrace (left + 1)).filterMap displayedSeconds = [] := by
        unfold requestTrace
        split <;> rfl
      have check : (checkTrace left).filterMap displayedSeconds = [] := by
        unfold checkTrace
        split
        · rfl
        · split <;> rfl
      have shown : displayedSeconds (displayEvent (left + 1)) = some (left + 1) := by
        simp only [displayEvent, displayedSeconds, UInt8.toNat_ofNat']
        congr 1
        omega
      rw [sessionTrace, List.filterMap_cons_some shown, List.filterMap_append,
        List.filterMap_append, request, check, ih (by omega), List.range_succ,
        List.reverse_append]
      rfl

/-- How often an event other than a display occurs, one second at a time. -/
theorem count_sessionTrace_succ {event : TimerEvent}
    (silent : ∀ min sec, event ≠ .displayed min sec) (left : Nat) :
    (sessionTrace (left + 1)).count event =
      (requestTrace (left + 1)).count event +
        ((checkTrace left).count event + (sessionTrace left).count event) := by
  have other : displayEvent (left + 1) ≠ event := (silent _ _).symm
  rw [sessionTrace, List.count_cons_of_ne other, List.count_append, List.count_append]

theorem count_request_sessionTrace (left : Nat) :
    (sessionTrace left).count .wordRequested = left / 60 := by
  induction left with
  | zero => rfl
  | succ left ih =>
      have request : (requestTrace (left + 1)).count .wordRequested =
          if (left + 1) % 60 = 0 then 1 else 0 := by
        unfold requestTrace
        split <;> rfl
      have check : (checkTrace left).count .wordRequested = 0 :=
        List.count_eq_zero.mpr fun member => by
          rcases mem_checkTrace member with ⟨_, same | same⟩ | ⟨_, same⟩ <;> cases same
      rw [count_sessionTrace_succ (by simp), request, check, ih]
      split <;> omega

/-- How many of 15, 30 and 45 are below. -/
def repeatsBelow (sec : Nat) : Nat :=
  ([15, 30, 45].filter (· < sec)).length

theorem count_audio_sessionTrace (left : Nat) :
    (sessionTrace left).count .audioRun = 3 * (left / 60) + repeatsBelow (left % 60) := by
  induction left with
  | zero => rfl
  | succ left ih =>
      have request : (requestTrace (left + 1)).count .audioRun = 0 :=
        List.count_eq_zero.mpr fun member => by cases mem_requestTrace member
      have check : (checkTrace left).count .audioRun =
          if left % 15 = 0 ∧ left % 60 ≠ 0 then 1 else 0 := by
        unfold checkTrace
        by_cases zero : left = 0
        · rw [if_pos zero, zero]
          rfl
        · rw [if_neg zero]
          split <;> rfl
      have below : 3 * ((left + 1) / 60) + repeatsBelow ((left + 1) % 60) =
          (if left % 15 = 0 ∧ left % 60 ≠ 0 then 1 else 0) +
            (3 * (left / 60) + repeatsBelow (left % 60)) := by
        have table : ∀ sec < 60, 3 * ((sec + 1) / 60) + repeatsBelow ((sec + 1) % 60) =
            (if sec % 15 = 0 ∧ sec ≠ 0 then 1 else 0) + repeatsBelow sec := by decide
        have here := table (left % 60) (Nat.mod_lt _ (by decide))
        have modulo : left % 60 % 15 = left % 15 := by omega
        have next : (left % 60 + 1) % 60 = (left + 1) % 60 := by omega
        rw [modulo, next] at here
        omega
      rw [count_sessionTrace_succ (by simp), request, check, ih, below, Nat.zero_add]

theorem ending_sessionTrace (left : Nat) :
    ∃ front, sessionTrace (left + 1) = front ++ [.turnedOff, .slept] ∧
      .turnedOff ∉ front ∧ .slept ∉ front := by
  have request (left : Nat) : .turnedOff ∉ requestTrace left ∧ .slept ∉ requestTrace left := by
    constructor
    · intro member
      cases mem_requestTrace member
    · intro member
      cases mem_requestTrace member
  induction left with
  | zero => exact ⟨displayEvent 1 :: requestTrace 1, rfl, by simp [displayEvent, request 1],
      by simp [displayEvent, request 1]⟩
  | succ left ih =>
      rcases ih with ⟨front, shape, noTurnOff, noSleep⟩
      have onlyAudio {event : TimerEvent} (member : event ∈ checkTrace (left + 1)) :
          event = .audioRun := by
        rcases mem_checkTrace member with ⟨zero, _⟩ | ⟨_, same⟩
        · exact absurd zero (Nat.succ_ne_zero left)
        · exact same
      have check : .turnedOff ∉ checkTrace (left + 1) ∧ .slept ∉ checkTrace (left + 1) := by
        constructor
        · intro member
          cases onlyAudio member
        · intro member
          cases onlyAudio member
      refine ⟨displayEvent (left + 1 + 1) ::
        (requestTrace (left + 1 + 1) ++ (checkTrace (left + 1) ++ front)), ?_, ?_, ?_⟩
      · rw [sessionTrace, shape]
        simp only [List.append_assoc, List.cons_append]
      · simp [displayEvent, request, check, noTurnOff]
      · simp [displayEvent, request, check, noSleep]

theorem noRestart_sessionTrace (left : Nat) : .minRestarted ∉ sessionTrace left := by
  induction left with
  | zero => exact List.not_mem_nil
  | succ left ih =>
      have request : .minRestarted ∉ requestTrace (left + 1) :=
        fun member => by cases mem_requestTrace member
      have check : .minRestarted ∉ checkTrace left := by
        intro member
        rcases mem_checkTrace member with ⟨_, same | same⟩ | ⟨_, same⟩ <;> cases same
      simp [sessionTrace, displayEvent, request, check, ih]

theorem sessionTrace_suffix {left total : Nat} (le : left ≤ total) :
    sessionTrace left <:+ sessionTrace total := by
  induction total with
  | zero =>
      cases Nat.le_zero.mp le
      exact List.suffix_rfl
  | succ total ih =>
      rcases Nat.lt_or_ge total left with above | inside
      · cases Nat.le_antisymm le above
        exact List.suffix_rfl
      · refine (ih inside).trans ⟨displayEvent (total + 1) ::
          (requestTrace (total + 1) ++ checkTrace total), ?_⟩
        rw [sessionTrace, List.cons_append, List.append_assoc]

/-- What one session consists of: every second is displayed once, downwards,
with one request for each minute, and the two last events end it. -/
structure SessionShape (setting : TimeSetting) (trace : List TimerEvent) : Prop where
  displayed : trace.filterMap displayedSeconds = (List.range setting.total).reverse.map (· + 1)
  requests : trace.count .wordRequested = setting.TV_TASK_TIME_MIN
  audio : trace.count .audioRun =
    3 * setting.TV_TASK_TIME_MIN + repeatsBelow setting.TV_TASK_TIME_SEC
  ending : ∃ front, trace = front ++ [.turnedOff, .slept] ∧
    .turnedOff ∉ front ∧ .slept ∉ front
  noRestart : .minRestarted ∉ trace

theorem sessionShape (setting : TimeSetting) :
    SessionShape setting (sessionTrace setting.total) := by
  have sec_le := setting.sec_le
  have minutes : setting.total / 60 = setting.TV_TASK_TIME_MIN := by
    unfold TimeSetting.total
    omega
  have seconds : setting.total % 60 = setting.TV_TASK_TIME_SEC := by
    unfold TimeSetting.total
    omega
  have ending := ending_sessionTrace (setting.total - 1)
  rw [Nat.sub_add_cancel (show 1 ≤ setting.total from setting.positive)] at ending
  exact {
    displayed := displayed_sessionTrace (total_le setting)
    requests := by rw [count_request_sessionTrace, minutes]
    audio := by rw [count_audio_sessionTrace, minutes, seconds]
    ending := ending
    noRestart := noRestart_sessionTrace _ }

theorem length_sessionsTrace (sessions : Nat) :
    (sessionsTrace setting sessions).length = sessions * (sessionTrace setting.total).length := by
  rw [sessionsTrace, List.length_flatten, List.map_replicate, List.sum_replicate_nat]

theorem sessionTrace_pos {left : Nat} (positive : 0 < left) : sessionTrace left ≠ [] := by
  cases left with
  | zero => exact absurd positive (Nat.lt_irrefl 0)
  | succ left => exact List.cons_ne_nil _ _

/-- A log of whole sessions leaves a whole session ahead. -/
theorem whole_session_ahead {log : List TimerEvent} {left sessions sessions' : Nat}
    (positive : 0 < left) (le : left ≤ setting.total)
    (whole : log = sessionsTrace setting sessions)
    (complete : log ++ sessionTrace left = sessionsTrace setting sessions') :
    left = setting.total := by
  have suffix := sessionTrace_suffix le
  have lengths := congrArg List.length complete
  rw [whole, List.length_append, length_sessionsTrace, length_sessionsTrace] at lengths
  have some := List.length_pos_of_ne_nil (sessionTrace_pos positive)
  have inside := suffix.length_le
  have above : sessions < sessions' :=
    Nat.lt_of_mul_lt_mul_right (a := (sessionTrace setting.total).length) (by omega)
  have next : (sessions + 1) * (sessionTrace setting.total).length ≤
      sessions' * (sessionTrace setting.total).length := Nat.mul_le_mul_right _ above
  rw [Nat.succ_mul] at next
  have same := suffix.eq_of_length (by omega)
  have shown := congrArg (List.length ∘ List.filterMap displayedSeconds) same
  have total := total_le setting
  simpa [displayed_sessionTrace (show left ≤ 3659 by omega), displayed_sessionTrace total]
    using shown

/-- Between two sessions only whole sessions have been logged. -/
theorem whole_sessions_logged {log : List TimerEvent} {sessions : Nat}
    (complete : log ++ sessionTrace setting.total = sessionsTrace setting sessions) :
    ∃ sessions', log = sessionsTrace setting sessions' := by
  cases sessions with
  | zero =>
      have empty := (List.append_eq_nil_iff.mp complete).2
      exact absurd empty (sessionTrace_pos setting.positive)
  | succ sessions =>
      rw [sessionsTrace_succ] at complete
      exact ⟨sessions, List.append_cancel_right complete⟩

theorem TimerInvariant.counted_tick {state : TimerState} (invariant : TimerInvariant setting state)
    (head : state.point = .tick) :
    0 < state.seconds ∧ state.seconds ≤ setting.total ∧ state.sec.toNat ≤ 59 := by
  have counted := invariant.counted
  simpa only [Counted, head] using counted

theorem ahead_tick {state : TimerState} (head : state.point = .tick) :
    ahead state = sessionTrace state.seconds := by
  simp only [ahead, TimerState.left, head]

/-- At the start of an iteration that was not left to a touch, a session is
running. -/
theorem TimerInvariant.running_tick {state : TimerState} (invariant : TimerInvariant setting state)
    (head : state.point = .tick)
    (begun : state.s_isStartTimer = true ∨
      ∀ sessions, state.log ≠ sessionsTrace setting sessions) : Running state := by
  rcases invariant.logged with ⟨sessions, logged⟩
  rcases invariant.started with ⟨_, full⟩ | running
  · rcases begun with flag | inside
    · simpa only [Running, head] using flag
    · have counted := invariant.counted_tick head
      rw [ahead_tick head, Nat.le_antisymm counted.2.1 full] at logged
      rcases whole_sessions_logged logged with ⟨whole, shape⟩
      exact absurd shape (inside whole)
  · exact running

/-- Every run of the timer task consists of equal sessions.  At the start of
an iteration the counters are in range; the log is a prefix of repetitions of
one session; behind a whole number of sessions the counters stand at the
settings; and a session that was begun is completed as soon as the task has
taken enough steps, whatever touches there are. -/
theorem timer_sessions (setting : TimeSetting) (state : TimerState)
    (reachable : TimerReachable setting state) :
    SessionShape setting (sessionTrace setting.total) ∧
      (state.point = .tick →
        0 < state.seconds ∧ state.seconds ≤ setting.total ∧ state.sec.toNat ≤ 59) ∧
      state.point ≠ .restart ∧
      (∃ sessions, state.log <+: sessionsTrace setting sessions) ∧
      (state.point = .tick → (∃ sessions, state.log = sessionsTrace setting sessions) →
        state.min.toNat = setting.TV_TASK_TIME_MIN ∧
          state.sec.toNat = setting.TV_TASK_TIME_SEC) ∧
      (state.point = .tick →
        (state.s_isStartTimer = true ∨ ∀ sessions, state.log ≠ sessionsTrace setting sessions) →
        ∃ sessions rest steps, rest ≠ [] ∧ rest <:+ sessionTrace setting.total ∧
          state.log ++ rest = sessionsTrace setting sessions ∧
          ∀ actions after, steps ≤ actions.count .timer →
            Transition.run (timerNext setting) state actions = some after →
            sessionsTrace setting sessions <+: after.log) := by
  have invariant := timer_invariant reachable
  rcases invariant.logged with ⟨sessions, logged⟩
  refine ⟨sessionShape setting, invariant.counted_tick, ?_, ⟨sessions, ⟨_, logged⟩⟩, ?_, ?_⟩
  · intro restarting
    have counted := invariant.counted
    simp only [Counted, restarting] at counted
  · rintro head ⟨whole, same⟩
    have counted := invariant.counted_tick head
    rw [ahead_tick head] at logged
    have full := whole_session_ahead counted.1 counted.2.1 same logged
    have sec_le := setting.sec_le
    simp only [TimerState.seconds, TimeSetting.total] at full
    omega
  · intro head begun
    have counted := invariant.counted_tick head
    have running := invariant.running_tick head begun
    refine ⟨sessions, ahead state, work state, ?_, ?_, logged, ?_⟩
    · rw [ahead_tick head]
      exact sessionTrace_pos counted.1
    · rw [ahead_tick head]
      exact sessionTrace_suffix counted.2.1
    · intro actions after enough executed
      rw [← logged]
      exact session_completed state invariant.counted running enough executed

/-- The times that a session displays. -/
theorem displayed_bounds_session {left : Nat} (bound : left ≤ 3659) {min sec : UInt8}
    (member : .displayed min sec ∈ sessionTrace left) : min.toNat ≤ 60 ∧ sec.toNat ≤ 59 := by
  induction left with
  | zero => cases member
  | succ left ih =>
      have request : .displayed min sec ∉ requestTrace (left + 1) :=
        fun member => by cases mem_requestTrace member
      have check : .displayed min sec ∉ checkTrace left := by
        intro member
        rcases mem_checkTrace member with ⟨_, same | same⟩ | ⟨_, same⟩ <;> cases same
      rw [sessionTrace, List.mem_cons, List.mem_append, List.mem_append] at member
      rcases member with here | inRequest | inCheck | later
      · simp only [displayEvent, TimerEvent.displayed.injEq] at here
        rw [here.1, here.2, UInt8.toNat_ofNat', UInt8.toNat_ofNat']
        omega
      · exact absurd inRequest request
      · exact absurd inCheck check
      · exact ih (by omega) later

/-- The times that are ever displayed. -/
theorem displayed_bounds {state : TimerState} (reachable : TimerReachable setting state)
    {min sec : UInt8} (shown : .displayed min sec ∈ state.log) :
    min.toNat ≤ 60 ∧ sec.toNat ≤ 59 := by
  rcases (timer_invariant reachable).logged with ⟨sessions, logged⟩
  have member : .displayed min sec ∈ sessionsTrace setting sessions := by
    rw [← logged]
    exact List.mem_append_left _ shown
  rcases List.mem_flatten.mp member with ⟨trace, isSession, inTrace⟩
  rw [List.eq_of_mem_replicate isSession] at inTrace
  exact displayed_bounds_session (total_le setting) inTrace

/-- With the settings of the source, at the second iteration behind the first
touch. -/
theorem timer_sessions_source :
    SessionShape .source (sessionTrace TimeSetting.source.total) ∧
      ∃ sessions, [.displayed 2 0, .wordRequested] <+: sessionsTrace .source sessions := by
  have reachable : TimerReachable .source
      ⟨.tick, 1, 59, true, true, 1, [.displayed 2 0, .wordRequested]⟩ :=
    Transition.reachable_of_run (.touch :: List.replicate 8 .timer) Relation.ReflTransGen.refl
      (by decide)
  have sessions := timer_sessions .source _ reachable
  exact ⟨sessions.1, sessions.2.2.2.1⟩

end Tasks
end ToothVoca
