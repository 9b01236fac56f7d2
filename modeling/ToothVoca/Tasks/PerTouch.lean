import ToothVoca.Tasks.Device

namespace ToothVoca
namespace Tasks

open Library

/-!
# What the device does for a touch (`task.c`)

The touch interrupt is the only input of the device.  A session of the timer task
is started by a touch, and a session requests words and starts the audio stream a
fixed number of times.  A word that has been fetched starts the audio stream once
more.

Touches and requests that fall into one another are lost, and none is made up:
over any interleaving of the tasks and the interrupt, there are at most as many
requests and starts as the touches pay for.  The credit of a state is what it can
still do without another touch.
-/

/-- `ReqWord_Requset` is entered. -/
def startsRequest (before : DeviceState) : DeviceAction → Bool
  | .main _ => decide (before.calls .MainTask = [] ∧ before.main = .request)
  | _ => false

/-- The audio pipeline is run. -/
def startsAudio (before : DeviceState) (action : DeviceAction) : Bool :=
  nextCall before action = some (.pipeline .audio_pipeline_run)

def DeviceAction.isTouch : DeviceAction → Bool
  | .touch => true
  | _ => false

/-! ## What a session is worth -/

/-- What the events of the timer task are worth, with a price for a request and
one for a start of the audio stream. -/
def worth (word audio : Nat) (trace : List TimerEvent) : Nat :=
  word * trace.count .wordRequested + audio * trace.count .audioRun

theorem worth_append (word audio : Nat) (first second : List TimerEvent) :
    worth word audio (first ++ second) = worth word audio first + worth word audio second := by
  unfold worth
  rw [List.count_append, List.count_append, Nat.mul_add, Nat.mul_add]
  omega

/-- What is left of a session is worth no more than a whole one. -/
theorem worth_le (word audio : Nat) {left total : Nat} (le : left ≤ total) :
    worth word audio (sessionTrace left) ≤ worth word audio (sessionTrace total) := by
  rcases sessionTrace_suffix le with ⟨front, whole⟩
  rw [← whole, worth_append]
  exact Nat.le_add_left _ _

section Setting

variable {setting : TimeSetting}

theorem worth_session (setting : TimeSetting) (word audio : Nat) :
    worth word audio (sessionTrace setting.total) =
      word * setting.TV_TASK_TIME_MIN +
        audio * (3 * setting.TV_TASK_TIME_MIN + repeatsBelow setting.TV_TASK_TIME_SEC) := by
  have sec := setting.sec_le
  have minutes : setting.total / 60 = setting.TV_TASK_TIME_MIN := by
    unfold TimeSetting.total
    omega
  have seconds : setting.total % 60 = setting.TV_TASK_TIME_SEC := by
    unfold TimeSetting.total
    omega
  rw [worth, count_request_sessionTrace, count_audio_sessionTrace, minutes, seconds]

/-! ## The timer task -/

/-- A new session begins behind the point. -/
def TimerPoint.between : TimerPoint → Bool
  | .reload | .turnOff | .sleep => true
  | _ => false

/-- What the timer task can still do without another touch. -/
def timerCredit (setting : TimeSetting) (word audio : Nat) (state : TimerState) : Nat :=
  if state.s_isStartTimer then
    worth word audio (ahead state) +
      if state.point.between then worth word audio (sessionTrace setting.total) else 0
  else 0

/-- The requests and starts that a statement makes. -/
def TimerPoint.events : TimerPoint → List TimerEvent
  | .request => [.wordRequested]
  | .audio => [.audioRun]
  | _ => []

/-- Only the requests and starts in the log have a price. -/
theorem worth_log (setting : TimeSetting) (word audio : Nat) (state : TimerState) :
    worth word audio (Task_TimerTask setting state).log =
      worth word audio state.log + worth word audio state.point.events := by
  rcases state with ⟨point, min, sec, started, request, tick, log⟩
  cases point with
  | display | request | restart | turnOff | sleep | audio => exact worth_append word audio log _
  | _ => rfl

theorem between_step (setting : TimeSetting) {state : TimerState} (stops : state.point ≠ .stop)
    (between : (Task_TimerTask setting state).point.between = true) :
    state.point.between = true := by
  rcases state with ⟨point, min, sec, started, request, tick, log⟩
  cases point with
  | reload | turnOff | sleep => rfl
  | stop => exact absurd rfl stops
  | test =>
      cases started with
      | true => cases between
      | false => cases between
  | count =>
      rw [Task_TimerTask] at between
      by_cases wraps : 60 < sec - 1
      · simp only [if_pos wraps] at between
        cases between
      · simp only [if_neg wraps] at between
        cases between
  | borrow =>
      rw [Task_TimerTask] at between
      by_cases wraps : 60 < min - 1
      · simp only [if_pos wraps] at between
        cases between
      · simp only [if_neg wraps] at between
        cases between
  | check =>
      rw [Task_TimerTask] at between
      by_cases ends : sec = 0 ∧ min = 0
      · simp only [if_pos ends] at between
        cases between
      · by_cases repeats : sec % TV_TASK_REPEAT_TIME_SEC = 0 ∧ sec ≠ 0
        · simp only [if_neg ends, if_pos repeats] at between
          cases between
        · simp only [if_neg ends, if_neg repeats] at between
          cases between
  | _ => cases between

/-- Where the timer is not started, no request and no start is made. -/
theorem events_not_started {state : TimerState} (invariant : TimerInvariant setting state)
    (stopped : state.s_isStartTimer = false) : state.point.events = [] := by
  rcases invariant.started with ⟨outside, _⟩ | running
  · rcases outside with point | point | point
    · rw [point]
      rfl
    · rw [point]
      rfl
    · rw [point]
      rfl
  · unfold Running at running
    cases point : state.point with
    | request =>
        simp only [point, stopped, Bool.false_eq_true] at running
    | audio =>
        simp only [point, stopped, Bool.false_eq_true] at running
    | _ => rfl

/-- A statement is paid from the credit of the timer task. -/
theorem timerCredit_step (word audio : Nat) {state : TimerState}
    (invariant : TimerInvariant setting state) :
    worth word audio state.point.events +
        timerCredit setting word audio (Task_TimerTask setting state) ≤
      timerCredit setting word audio state := by
  by_cases stops : state.point = .stop
  · have stopped : (Task_TimerTask setting state).s_isStartTimer = false := by
      rw [Task_TimerTask, stops]
    rw [timerCredit, stopped, stops]
    exact Nat.zero_le _
  · have flag := Task_TimerTask_s_isStartTimer setting stops
    by_cases started : state.s_isStartTimer = true
    · rw [timerCredit, timerCredit, flag, if_pos started, if_pos started]
      by_cases asleep : state.point = .sleep
      · -- The next session lies ahead again.
        rcases sleep_step invariant.counted asleep with ⟨_, delayed, seconds⟩
        have whole : ahead (Task_TimerTask setting state) = sessionTrace setting.total := by
          rw [ahead, delayed, TimerState.left, delayed]
          exact congrArg sessionTrace seconds
        have slept : worth word audio (ahead state) = 0 := by
          rw [ahead, asleep]
          rfl
        rw [whole, delayed, slept, asleep]
        show 0 + (worth word audio (sessionTrace setting.total) + 0) ≤
          0 + worth word audio (sessionTrace setting.total)
        exact Nat.le_refl _
      · have trace := congrArg (worth word audio) (ahead_step invariant.counted asleep)
        rw [worth_append, worth_append, worth_log] at trace
        have between : (if (Task_TimerTask setting state).point.between then
              worth word audio (sessionTrace setting.total) else 0) ≤
            if state.point.between then worth word audio (sessionTrace setting.total) else 0 := by
          by_cases behind : (Task_TimerTask setting state).point.between = true
          · rw [if_pos behind, if_pos (between_step setting stops behind)]
          · rw [if_neg behind]
            exact Nat.zero_le _
        omega
    · rw [timerCredit, flag, if_neg started,
        events_not_started invariant (Bool.not_eq_true _ ▸ started)]
      exact Nat.zero_le _

/-- A started timer is worth a session more than one not started. -/
theorem timerCredit_started (word audio : Nat) {state : TimerState}
    (invariant : TimerInvariant setting state) :
    timerCredit setting word audio { state with s_isStartTimer := true } ≤
      timerCredit setting word audio state + worth word audio (sessionTrace setting.total) := by
  by_cases started : state.s_isStartTimer = true
  · have same : { state with s_isStartTimer := true } = state := by
      rw [← started]
    rw [same]
    exact Nat.le_add_right _ _
  · rw [Bool.not_eq_true] at started
    rw [timerCredit, timerCredit, if_pos rfl, started, if_neg Bool.false_ne_true, Nat.zero_add]
    rw [(touch_keeps setting state true state.s_isWordRequest).2.1]
    have outside : worth word audio (ahead state) ≤ worth word audio (sessionTrace setting.total) ∧
        state.point.between = false ∨
          worth word audio (ahead state) = 0 := by
      rcases invariant.started with ⟨outside, _⟩ | running
      · left
        have counted := invariant.counted
        rcases outside with point | point | point
        · rw [Counted, point] at counted
          rw [ahead, TimerState.left, point]
          exact ⟨worth_le word audio counted.2.1, rfl⟩
        · rw [Counted, point] at counted
          rw [ahead, TimerState.left, point]
          exact ⟨worth_le word audio counted.2.1, rfl⟩
        · rw [Counted, point] at counted
          rw [ahead, TimerState.left, point]
          exact ⟨worth_le word audio counted.2.1, rfl⟩
      · right
        unfold Running at running
        cases point : state.point with
        | reload | turnOff | sleep =>
            rw [ahead, point]
            rfl
        | _ => simp only [point, started, Bool.false_eq_true] at running
    rcases outside with ⟨less, between⟩ | nothing
    · simp only [between]
      exact less
    · rw [nothing, Nat.zero_add]
      split
      · exact Nat.le_refl _
      · exact Nat.zero_le _

end Setting

/-! ## The device -/

/-- The touches that a callback is still to start for. -/
def touchCredit (state : DeviceState) : Nat :=
  match state.lcdTouch with
  | .callback | .startTimer => 1
  | .turnOn | .clear => 0
  | .test | .update | .delay => if state.isTouchOccurred then 1 else 0

/-- What touches and the timer can still do. -/
def sessionCredit (setting : TimeSetting) (word audio : Nat) (state : DeviceState) : Nat :=
  timerCredit setting word audio state.timer +
    worth word audio (sessionTrace setting.total) * touchCredit state

/-- The requests and starts that a step of the timer task makes. -/
def timerEvents (before : DeviceState) : DeviceAction → List TimerEvent
  | .timer => if before.calls .TimerTask = [] then before.timer.point.events else []
  | _ => []

/-- The task of the screen starts the timer for a touch, and for one touch once. -/
theorem lcdTouch_credit {setting : TimeSetting} {before : DeviceState}
    (invariant : TimerInvariant setting before.timer) (word audio : Nat) :
    sessionCredit setting word audio (lcdTouchStatement before) ≤
      sessionCredit setting word audio before := by
  have more := timerCredit_started word audio invariant
  unfold sessionCredit lcdTouchStatement touchCredit
  cases point : before.lcdTouch with
  | startTimer =>
      simp only
      omega
  | test =>
      cases touched : before.isTouchOccurred with
      | true => exact Nat.le_refl _
      | false =>
          simp only [Bool.false_eq_true, if_false]
          exact Nat.le_refl _
  | _ => exact Nat.le_refl _

/-- Touches aside, the tasks live on their credit. -/
theorem sessionCredit_step {setting : TimeSetting} {before after : DeviceState}
    {action : DeviceAction} (invariant : TimerInvariant setting before.timer) (word audio : Nat)
    (step : DeviceStep setting before action after) :
    worth word audio (timerEvents before action) + sessionCredit setting word audio after ≤
      sessionCredit setting word audio before +
        if action.isTouch then worth word audio (sessionTrace setting.total) else 0 := by
  have silent : worth word audio [] = 0 := rfl
  cases step with
  | touch =>
      have most : touchCredit { before with isTouchOccurred := true, touchPending := true } ≤
          touchCredit before + 1 := by
        unfold touchCredit
        cases before.lcdTouch with
        | callback | startTimer => exact Nat.le_succ _
        | turnOn | clear => exact Nat.zero_le _
        | test | update | delay => exact Nat.le_add_left _ _
      have paid := Nat.mul_le_mul_left (worth word audio (sessionTrace setting.total)) most
      rw [Nat.mul_succ] at paid
      simp only [timerEvents, silent, sessionCredit, DeviceAction.isTouch, if_true]
      omega
  | call task call left moves calls =>
      have same : sessionCredit setting word audio ((before.perform call).enter task left) =
          sessionCredit setting word audio before := by
        cases call <;> rfl
      have none : timerEvents before action = [] := by
        cases action with
        | timer =>
            cases moves
            rw [timerEvents, calls]
            rfl
        | _ => rfl
      rw [none, silent, same, Nat.zero_add]
      exact Nat.le_add_right _ _
  | timer idle =>
      have paid := timerCredit_step word audio invariant
      have other : touchCredit (timerStatement setting before) = touchCredit before := rfl
      have moved : (timerStatement setting before).timer = Task_TimerTask setting before.timer :=
        rfl
      rw [timerEvents, if_pos idle, sessionCredit, sessionCredit, other, moved]
      omega
  | main layer idle =>
      have same : sessionCredit setting word audio (mainStatement layer before) =
          sessionCredit setting word audio before := by
        unfold mainStatement
        split <;> rfl
      rw [show timerEvents before (.main layer) = [] from rfl, silent, same, Nat.zero_add]
      exact Nat.le_add_right _ _
  | lcdTouch idle =>
      rw [show timerEvents before .lcdTouch = [] from rfl, silent, Nat.zero_add]
      exact Nat.le_trans (lcdTouch_credit invariant word audio) (Nat.le_add_right _ _)

/-! ## Requests -/

/-- A request that is still to start, by the point of the main task and the flag. -/
def MainPoint.owesRequest (flag : Bool) : MainPoint → Nat
  | .request => 1
  | .serving | .finish _ => 0
  | .test | .delay => flag.toNat

def requestCredit (state : DeviceState) : Nat :=
  state.main.owesRequest state.timer.s_isWordRequest

/-- Raising the flag adds one request at most. -/
theorem owesRequest_raised (point : MainPoint) (flag raised : Bool) :
    point.owesRequest (flag || raised) ≤ raised.toNat + point.owesRequest flag := by
  cases point with
  | request => exact Nat.le_add_left _ _
  | serving | finish calls => exact Nat.zero_le _
  | test | delay =>
      cases flag with
      | true => exact Nat.le_add_left _ _
      | false => exact Nat.le_refl _

theorem worth_request (point : TimerPoint) :
    worth 1 0 point.events = (decide (point = .request)).toNat := by
  cases point <;> rfl

/-- A request is paid by the timer task that has asked for it. -/
theorem requestCredit_step {setting : TimeSetting} {before after : DeviceState}
    {action : DeviceAction} (step : DeviceStep setting before action after) :
    (startsRequest before action).toNat + requestCredit after ≤
      worth 1 0 (timerEvents before action) + requestCredit before := by
  cases step with
  | touch => exact Nat.le_refl _
  | call task call left moves calls =>
      have same : requestCredit ((before.perform call).enter task left) = requestCredit before := by
        cases call <;> rfl
      have none : startsRequest before action = false := by
        cases action with
        | main layer =>
            cases moves
            rw [startsRequest, calls]
            rfl
        | _ => rfl
      rw [none, same]
      exact Nat.le_trans (Nat.le_of_eq (Nat.zero_add _)) (Nat.le_add_left _ _)
  | timer idle =>
      have raised := owesRequest_raised before.main before.timer.s_isWordRequest
        (decide (before.timer.point = .request))
      rw [← Task_TimerTask_s_isWordRequest setting, ← worth_request] at raised
      rw [timerEvents, if_pos idle]
      exact Nat.le_trans (Nat.le_of_eq (Nat.zero_add _)) raised
  | main layer idle =>
      refine Nat.le_trans (Nat.le_of_eq ?_) (Nat.le_add_left _ _)
      cases point : before.main with
      | test =>
          cases flag : before.timer.s_isWordRequest with
          | true =>
              simp [requestCredit, startsRequest, mainStatement, MainPoint.owesRequest, point, flag]
          | false =>
              simp [requestCredit, startsRequest, mainStatement, MainPoint.owesRequest, point, flag]
      | request =>
          simp [requestCredit, startsRequest, mainStatement, MainPoint.owesRequest, point, idle]
      | serving =>
          simp [requestCredit, startsRequest, mainStatement, MainPoint.owesRequest, point]
      | finish calls =>
          cases calls with
          | nil => simp [requestCredit, startsRequest, mainStatement, MainPoint.owesRequest, point]
          | cons call left =>
              simp [requestCredit, startsRequest, mainStatement, MainPoint.owesRequest, point,
                DeviceState.enter]
      | delay =>
          simp [requestCredit, startsRequest, mainStatement, MainPoint.owesRequest, point]
  | lcdTouch idle =>
      have same : requestCredit (lcdTouchStatement before) = requestCredit before := by
        unfold lcdTouchStatement
        split <;> rfl
      rw [same]
      exact Nat.le_refl _

/-! ## Starts of the audio stream -/

/-- A start that the main task is still to make. -/
def MainPoint.owesAudio (flag : Bool) : MainPoint → Nat
  | .request | .serving => 1
  | .finish left => left.count .AudioStream_Run
  | .test | .delay => flag.toNat

theorem owesAudio_raised (point : MainPoint) (flag raised : Bool) :
    point.owesAudio (flag || raised) ≤ raised.toNat + point.owesAudio flag := by
  cases point with
  | request | serving | finish calls => exact Nat.le_add_left _ _
  | test | delay =>
      cases flag with
      | true => exact Nat.le_add_left _ _
      | false => exact Nat.le_refl _

/-- The starts of the audio pipeline among calls left to make. -/
def audioCalls (calls : List DeviceCall) : Nat :=
  calls.count (.pipeline .audio_pipeline_run)

def audioLeft (state : DeviceState) : Nat :=
  audioCalls (state.calls .TimerTask) + audioCalls (state.calls .MainTask) +
    audioCalls (state.calls .LcdTouch)

def audioCredit (state : DeviceState) : Nat :=
  audioLeft state + state.main.owesAudio state.timer.s_isWordRequest

theorem audioLeft_enter (state : DeviceState) (task : DeviceTask) (calls : List DeviceCall) :
    audioLeft (state.enter task calls) + audioCalls (state.calls task) =
      audioLeft state + audioCalls calls := by
  cases task with
  | TimerTask =>
      show audioCalls calls + audioCalls (state.calls .MainTask) +
        audioCalls (state.calls .LcdTouch) + _ = _
      unfold audioLeft
      omega
  | MainTask =>
      show audioCalls (state.calls .TimerTask) + audioCalls calls +
        audioCalls (state.calls .LcdTouch) + _ = _
      unfold audioLeft
      omega
  | LcdTouch =>
      show audioCalls (state.calls .TimerTask) + audioCalls (state.calls .MainTask) +
        audioCalls calls + _ = _
      unfold audioLeft
      omega

/-- A task that has no calls left enters new ones. -/
theorem audioLeft_idle (state : DeviceState) {task : DeviceTask} (idle : state.calls task = [])
    (calls : List DeviceCall) :
    audioLeft (state.enter task calls) = audioLeft state + audioCalls calls := by
  have entered := audioLeft_enter state task calls
  rw [idle] at entered
  exact entered

theorem worth_audio (point : TimerPoint) :
    worth 1 1 point.events =
      (decide (point = .request)).toNat + audioCalls (timerCalls point) := by
  cases point <;> rfl

theorem owesAudio_called (call : MainCall) (left : List MainCall) :
    audioCalls (mainCalls call) + left.count .AudioStream_Run =
      (call :: left).count .AudioStream_Run := by
  cases call with
  | AudioStream_Run =>
      rw [List.count_cons_self]
      exact Nat.add_comm _ _
  | _ =>
      refine (Nat.zero_add _).trans (List.count_cons_of_ne ?_).symm
      exact nofun

/-- A start is made by a library call, and entered by the timer task or the main
task. -/
theorem audioCredit_step {setting : TimeSetting} {before after : DeviceState}
    {action : DeviceAction} (step : DeviceStep setting before action after) :
    (startsAudio before action).toNat + audioCredit after ≤
      worth 1 1 (timerEvents before action) + audioCredit before := by
  have quiet {task : DeviceTask} (moves : action.task = some task)
      (idle : before.calls task = []) : startsAudio before action = false := by
    rw [startsAudio, nextCall, moves, Option.bind_some, idle]
    rfl
  cases step with
  | touch => exact Nat.le_refl _
  | call task call left moves calls =>
      have started : startsAudio before action =
          decide (call = .pipeline .audio_pipeline_run) := by
        rw [startsAudio, nextCall, moves, Option.bind_some, calls, List.head?_cons]
        exact decide_eq_decide.mpr Option.some_inj
      have entered := audioLeft_enter (before.perform call) task left
      rw [DeviceState.calls_perform, calls] at entered
      have still : audioLeft (before.perform call) = audioLeft before := by
        unfold audioLeft
        rw [DeviceState.calls_perform]
      have owed : ((before.perform call).enter task left).main.owesAudio
          ((before.perform call).enter task left).timer.s_isWordRequest =
            before.main.owesAudio before.timer.s_isWordRequest := by
        cases call <;> rfl
      have counted : audioCalls (call :: left) =
          audioCalls left + (startsAudio before action).toNat := by
        rw [audioCalls, List.count_cons, started, audioCalls]
        by_cases run : call = .pipeline .audio_pipeline_run
        · rw [run]
          rfl
        · rw [if_neg (by rwa [beq_iff_eq]), decide_eq_false run]
          rfl
      unfold audioCredit
      rw [owed]
      omega
  | timer idle =>
      have raised := owesAudio_raised before.main before.timer.s_isWordRequest
        (decide (before.timer.point = .request))
      rw [← Task_TimerTask_s_isWordRequest setting] at raised
      have entered : audioLeft (timerStatement setting before) =
          audioLeft before + audioCalls (timerCalls before.timer.point) :=
        audioLeft_idle { before with
          timer := Task_TimerTask setting before.timer
          requestPending := before.requestPending ||
            decide (before.timer.point = TimerPoint.request) } idle _
      have owed : audioCredit (timerStatement setting before) =
          audioLeft (timerStatement setting before) +
            before.main.owesAudio (Task_TimerTask setting before.timer).s_isWordRequest := rfl
      rw [quiet rfl idle, timerEvents, if_pos idle, worth_audio, owed, entered, audioCredit]
      simp only [Bool.toNat_false]
      omega
  | main layer idle =>
      rw [quiet rfl idle]
      refine Nat.le_trans (Nat.le_of_eq (Nat.zero_add _))
        (Nat.le_trans ?_ (Nat.le_add_left _ _))
      unfold audioCredit mainStatement
      cases point : before.main with
      | test =>
          cases flag : before.timer.s_isWordRequest with
          | true =>
              simp only [if_true]
              exact Nat.le_refl _
          | false =>
              simp only [Bool.false_eq_true, if_false]
              exact Nat.le_refl _
      | request => exact Nat.le_refl _
      | serving =>
          apply Nat.add_le_add_left
          cases ok : (Network.ReqWord_Requset layer before.request).1 with
          | true =>
              simp only [ok, if_true]
              exact Nat.le_refl _
          | false =>
              simp only [ok, Bool.false_eq_true, if_false]
              exact Nat.zero_le _
      | finish calls =>
          cases calls with
          | nil => exact Nat.le_refl _
          | cons call left =>
              have entered : audioLeft (({ before with main := .finish left } : DeviceState).enter
                  .MainTask (mainCalls call)) = audioLeft before + audioCalls (mainCalls call) :=
                audioLeft_idle { before with main := .finish left } idle _
              have called := owesAudio_called call left
              simp only
              rw [entered]
              simp only [DeviceState.enter, MainPoint.owesAudio]
              omega
      | delay => exact Nat.le_refl _
  | lcdTouch idle =>
      rw [quiet rfl idle]
      refine Nat.le_trans (Nat.le_of_eq (Nat.zero_add _))
        (Nat.le_trans (Nat.le_of_eq ?_) (Nat.le_add_left _ _))
      unfold audioCredit lcdTouchStatement
      cases point : before.lcdTouch with
      | turnOn =>
          have entered : audioLeft (({ before with lcdTouch := .clear } : DeviceState).enter
              .LcdTouch (LcdTouch_TurnOn true)) = audioLeft before :=
            audioLeft_idle { before with lcdTouch := .clear } idle _
          simp only
          rw [entered]
          rfl
      | _ => rfl

/-! ## Whole runs -/

/-- The credit of a state pays for every step of a kind that its own credit and
the timer task pay for. -/
theorem occurrences_per_touch (setting : TimeSetting) (word audio : Nat)
    {kind : DeviceState → DeviceAction → Bool} {credit : DeviceState → Nat}
    (nothing : credit (DeviceState.initial setting) = 0)
    (paid : ∀ before action after, DeviceStep setting before action after →
      (kind before action).toNat + credit after ≤
        worth word audio (timerEvents before action) + credit before)
    (actions : List DeviceAction) :
    Transition.occurrences (deviceNext setting) kind (DeviceState.initial setting) actions ≤
      worth word audio (sessionTrace setting.total) * actions.countP DeviceAction.isTouch := by
  have start : sessionCredit setting word audio (DeviceState.initial setting) = 0 := rfl
  have lives : ∀ before action after,
      Transition.Reachable (deviceNext setting) Transition.anyStep (DeviceState.initial setting)
        before →
      deviceNext setting before action = some after →
      (kind before action).toNat + (sessionCredit setting word audio after + credit after) ≤
        sessionCredit setting word audio before + credit before +
          if action.isTouch then worth word audio (sessionTrace setting.total) else 0 := by
    intro before action after reachable moved
    have step := deviceNext_step moved
    have invariant := timer_invariant (timer_of_device reachable)
    have lived := sessionCredit_step invariant word audio step
    have spent := paid before action after step
    omega
  have bound := Transition.occurrences_le
    (fun state => sessionCredit setting word audio state + credit state) _ _ lives
    Relation.ReflTransGen.refl actions
  simp only [start, nothing, Nat.zero_add] at bound
  exact bound

/-- Over every interleaving of the tasks and the touches, the device makes no more
requests for each touch than a session has minutes, and starts the audio stream
no more often than a session does and once for each of these requests. -/
theorem calls_per_touch (setting : TimeSetting) (actions : List DeviceAction) :
    Transition.occurrences (deviceNext setting) startsRequest (DeviceState.initial setting)
        actions ≤ setting.TV_TASK_TIME_MIN * actions.countP DeviceAction.isTouch ∧
      Transition.occurrences (deviceNext setting) startsAudio (DeviceState.initial setting)
        actions ≤
          (4 * setting.TV_TASK_TIME_MIN + repeatsBelow setting.TV_TASK_TIME_SEC) *
            actions.countP DeviceAction.isTouch := by
  have requests := occurrences_per_touch setting 1 0 rfl
    (fun _ _ _ step => requestCredit_step step) actions
  have starts := occurrences_per_touch setting 1 1 rfl
    (fun _ _ _ step => audioCredit_step step) actions
  rw [worth_session] at requests starts
  constructor
  · rw [Nat.one_mul, Nat.zero_mul, Nat.add_zero] at requests
    exact requests
  · have rate : 1 * setting.TV_TASK_TIME_MIN +
        1 * (3 * setting.TV_TASK_TIME_MIN + repeatsBelow setting.TV_TASK_TIME_SEC) =
          4 * setting.TV_TASK_TIME_MIN + repeatsBelow setting.TV_TASK_TIME_SEC := by
      omega
    rw [rate] at starts
    exact starts

/-- With the settings of the source a touch pays for two requests and eight starts. -/
example : TimeSetting.source.TV_TASK_TIME_MIN = 2 ∧
    4 * TimeSetting.source.TV_TASK_TIME_MIN +
      repeatsBelow TimeSetting.source.TV_TASK_TIME_SEC = 8 := by
  decide

end Tasks
end ToothVoca
