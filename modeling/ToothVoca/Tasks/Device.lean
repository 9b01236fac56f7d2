import ToothVoca.Library.Signal
import ToothVoca.Tasks.MainTask
import ToothVoca.Tasks.TimerTask

namespace ToothVoca
namespace Tasks

open Library Network

/-!
# The tasks of the device and what they share (`task.c`)

Three tasks and the touch interrupt share two flags, the panel and the audio
pipeline, without any lock.  A state holds the statement that each task is at
and, where the statement is a call of `LcdTouch_TurnOn`, `LcdTouch_TurnOff` or
`AudioStream_Run`, the library calls that the task has still to make there.
Every library call is a step of its own, and so is every other statement, so
that a run is an interleaving of the three tasks and the interrupt.

The statements of the timer task are those of its own module.  What is drawn
and published in between is left out here.  The machine starts behind
`app_init`: the display and the audio stream are initialized, and the callback
is set.

Two fields are not part of the program.  `requestPending` says that a word was
requested and no `ReqWord_Requset` has started since, and `touchPending` that
there was a touch and no callback has started since.
-/

/-- The calls that `AudioStream_Run` makes. -/
inductive PipelineCall where
  | audio_pipeline_stop
  | audio_pipeline_wait_for_stop
  | audio_pipeline_reset_ringbuffer
  | audio_pipeline_reset_elements
  | audio_pipeline_change_state
  | audio_pipeline_run
deriving DecidableEq, Repr

/-- What is switched on and off together: the panel and its light. -/
inductive DisplayPart where
  | panel
  | backLight
deriving DecidableEq, Repr

/-- A call into a library.  The parts of the display are switched by
`esp_lcd_panel_disp_on_off` and by `gpio_set_level`. -/
inductive DeviceCall where
  | switch (part : DisplayPart) (on : Bool)
  | pipeline (call : PipelineCall)
deriving DecidableEq, Repr

def LcdTouch_TurnOff (isInitDisplay : Bool) : List DeviceCall :=
  if isInitDisplay = false then [] else [.switch .panel false, .switch .backLight false]

def LcdTouch_TurnOn (isInitDisplay : Bool) : List DeviceCall :=
  if isInitDisplay = false then [] else [.switch .panel true, .switch .backLight true]

def AudioStream_Run (s_isInitAudioStream : Bool) : List DeviceCall :=
  if s_isInitAudioStream = false then
    []
  else
    [.pipeline .audio_pipeline_stop, .pipeline .audio_pipeline_wait_for_stop,
      .pipeline .audio_pipeline_reset_ringbuffer, .pipeline .audio_pipeline_reset_elements,
      .pipeline .audio_pipeline_change_state, .pipeline .audio_pipeline_run]

inductive DeviceTask where
  | TimerTask
  | MainTask
  | LcdTouch
deriving DecidableEq, Repr

instance (property : DeviceTask → Prop) [DecidablePred property] :
    Decidable (∀ task, property task) :=
  decidable_of_iff (property .TimerTask ∧ property .MainTask ∧ property .LcdTouch)
    ⟨fun each task => by cases task with
      | TimerTask => exact each.1
      | MainTask => exact each.2.1
      | LcdTouch => exact each.2.2,
    fun each => ⟨each .TimerTask, each .MainTask, each .LcdTouch⟩⟩

/-- The statements of `Task_MainTask`.  Behind a request there are calls left, and
then the flag is taken back. -/
inductive MainPoint where
  | test
  | request
  | serving
  | finish (left : List MainCall)
  | delay
deriving DecidableEq, Repr

/-- The statements of `Task_LcdTouch`, with `LcdTouch_Task` and
`Task_TouchCallback` inside of it. -/
inductive LcdTouchPoint where
  | test
  | callback
  | startTimer
  | turnOn
  | clear
  | update
  | delay
deriving DecidableEq, Repr

structure DeviceState where
  timer : TimerState
  request : ReqWordState
  main : MainPoint
  lcdTouch : LcdTouchPoint
  calls : DeviceTask → List DeviceCall
  isTouchOccurred : Bool
  display : DisplayPart → Bool
  pipelineCalls : List PipelineCall
  requestPending : Bool
  touchPending : Bool

/-- The tasks at the top of their loops, with the display off. -/
def DeviceState.initial (setting : TimeSetting) : DeviceState where
  timer := TimerState.initial setting
  request := ReqWordState.initial
  main := .test
  lcdTouch := .test
  calls := fun _ => []
  isTouchOccurred := false
  display := fun _ => false
  pipelineCalls := []
  requestPending := false
  touchPending := false

namespace DeviceState

/-- A library call. -/
def perform (before : DeviceState) : DeviceCall → DeviceState
  | .switch part on => { before with display := Function.update before.display part on }
  | .pipeline call => { before with pipelineCalls := before.pipelineCalls ++ [call] }

/-- A task enters a function with the given calls, or has them left. -/
def enter (before : DeviceState) (task : DeviceTask) (calls : List DeviceCall) : DeviceState :=
  { before with calls := Function.update before.calls task calls }

@[simp]
theorem timer_perform (before : DeviceState) (call : DeviceCall) :
    (before.perform call).timer = before.timer := by
  cases call <;> rfl

@[simp]
theorem lcdTouch_perform (before : DeviceState) (call : DeviceCall) :
    (before.perform call).lcdTouch = before.lcdTouch := by
  cases call <;> rfl

@[simp]
theorem calls_perform (before : DeviceState) (call : DeviceCall) :
    (before.perform call).calls = before.calls := by
  cases call <;> rfl

end DeviceState

/-- The library calls behind a statement of the timer task. -/
def timerCalls : TimerPoint → List DeviceCall
  | .turnOff => LcdTouch_TurnOff true
  | .audio => AudioStream_Run true
  | _ => []

/-- The library calls behind a call of the main task. -/
def mainCalls : MainCall → List DeviceCall
  | .AudioStream_Run => AudioStream_Run true
  | _ => []

def timerStatement (setting : TimeSetting) (before : DeviceState) : DeviceState :=
  { before with
    timer := Task_TimerTask setting before.timer
    requestPending := before.requestPending || decide (before.timer.point = TimerPoint.request) }.enter
      .TimerTask (timerCalls before.timer.point)

/-- A statement of `Task_MainTask`.  The layer is what a request meets that
returns with it. -/
def mainStatement (layer : SocketLayer) (before : DeviceState) : DeviceState :=
  match before.main with
  | .test => { before with main := if before.timer.s_isWordRequest then .request else .delay }
  | .request => { before with requestPending := false, main := .serving }
  | .serving =>
      let requested := ReqWord_Requset layer before.request
      { before with
        request := requested.2
        main := .finish
          (if requested.1 then
            [.LcdTouch_ResetBackground, .ReqWord_GetWord, .ReqWord_GetSentence, .AudioStream_Run]
          else []) }
  | .finish (call :: left) =>
      { before with main := .finish left }.enter .MainTask (mainCalls call)
  | .finish [] =>
      { before with timer := { before.timer with s_isWordRequest := false }, main := .delay }
  | .delay => { before with main := .test }

def lcdTouchStatement (before : DeviceState) : DeviceState :=
  match before.lcdTouch with
  | .test => { before with lcdTouch := if before.isTouchOccurred then .callback else .update }
  | .callback => { before with touchPending := false, lcdTouch := .startTimer }
  | .startTimer =>
      { before with timer := { before.timer with s_isStartTimer := true }, lcdTouch := .turnOn }
  | .turnOn => { before with lcdTouch := .clear }.enter .LcdTouch (LcdTouch_TurnOn true)
  | .clear => { before with isTouchOccurred := false, lcdTouch := .update }
  | .update => { before with lcdTouch := .delay }
  | .delay => { before with lcdTouch := .test }

/-- Who moves. -/
inductive DeviceAction where
  | touch
  | timer
  | main (layer : SocketLayer)
  | lcdTouch

/-- The next call of a task, or its next statement where it has none left. -/
def taskNext (task : DeviceTask) (statement : DeviceState → DeviceState) (before : DeviceState) :
    DeviceState :=
  match before.calls task with
  | [] => statement before
  | call :: left => (before.perform call).enter task left

def deviceNext (setting : TimeSetting) (before : DeviceState) :
    DeviceAction → Option DeviceState
  | .touch => some { before with isTouchOccurred := true, touchPending := true }
  | .timer => some (taskNext .TimerTask (timerStatement setting) before)
  | .main layer => some (taskNext .MainTask (mainStatement layer) before)
  | .lcdTouch => some (taskNext .LcdTouch lcdTouchStatement before)

/-- The task that an action moves. -/
def DeviceAction.task : DeviceAction → Option DeviceTask
  | .touch => none
  | .timer => some .TimerTask
  | .main _ => some .MainTask
  | .lcdTouch => some .LcdTouch

/-- The library call that an action makes. -/
def nextCall (before : DeviceState) (action : DeviceAction) : Option DeviceCall :=
  action.task.bind fun task => (before.calls task).head?

/-! ## What one step changes -/

/-- The steps of the device, by what moves: the interrupt, a library call of any
task, or a statement of one of the tasks. -/
inductive DeviceStep (setting : TimeSetting) (before : DeviceState) :
    DeviceAction → DeviceState → Prop where
  | touch : DeviceStep setting before .touch
      { before with isTouchOccurred := true, touchPending := true }
  | call {action : DeviceAction} (task : DeviceTask) (call : DeviceCall) (left : List DeviceCall)
      (moves : action.task = some task) (calls : before.calls task = call :: left) :
      DeviceStep setting before action ((before.perform call).enter task left)
  | timer (idle : before.calls .TimerTask = []) :
      DeviceStep setting before .timer (timerStatement setting before)
  | main (layer : SocketLayer) (idle : before.calls .MainTask = []) :
      DeviceStep setting before (.main layer) (mainStatement layer before)
  | lcdTouch (idle : before.calls .LcdTouch = []) :
      DeviceStep setting before .lcdTouch (lcdTouchStatement before)

theorem deviceNext_step {setting : TimeSetting} {before after : DeviceState}
    {action : DeviceAction} (moved : deviceNext setting before action = some after) :
    DeviceStep setting before action after := by
  cases action with
  | touch =>
      cases moved
      exact .touch
  | timer =>
      cases moved
      rw [taskNext]
      split
      · next idle => exact .timer idle
      · next calls => exact .call _ _ _ rfl calls
  | main layer =>
      cases moved
      rw [taskNext]
      split
      · next idle => exact .main layer idle
      · next calls => exact .call _ _ _ rfl calls
  | lcdTouch =>
      cases moved
      rw [taskNext]
      split
      · next idle => exact .lcdTouch idle
      · next calls => exact .call _ _ _ rfl calls

/-- Only the end of a session stops the timer. -/
theorem Task_TimerTask_s_isStartTimer (setting : TimeSetting) {before : TimerState}
    (other : before.point ≠ .stop) :
    (Task_TimerTask setting before).s_isStartTimer = before.s_isStartTimer := by
  cases point : before.point <;> simp_all [Task_TimerTask]

/-- A request that returns leaves the main task with the calls of its iteration. -/
theorem main_of_device {layer : SocketLayer} {before : DeviceState}
    (serving : before.main = .serving) (screenData : Nat → UInt8) :
    (mainStatement layer before).main =
        .finish (Task_MainTask layer ⟨true, before.request, screenData⟩).2 ∧
      (mainStatement layer before).request =
        (Task_MainTask layer ⟨true, before.request, screenData⟩).1.request := by
  rw [mainStatement, serving, Task_MainTask]
  cases ok : (ReqWord_Requset layer before.request).1 with
  | false => simp [ok]
  | true => simp [ok]

/-- Seen from the device, the timer task runs as in its own module, whatever the
other tasks do. -/
theorem timer_of_device {setting : TimeSetting} {state : DeviceState}
    (reachable : Transition.Reachable (deviceNext setting) Transition.anyStep
      (DeviceState.initial setting) state) : TimerReachable setting state.timer := by
  refine reachable.simulate DeviceState.timer ?_
  intro before action after _ moved
  cases deviceNext_step moved with
  | touch => exact Or.inl rfl
  | call =>
      left
      rw [DeviceState.enter, DeviceState.timer_perform]
  | timer => exact Or.inr ⟨.timer, True.intro, rfl⟩
  | main layer =>
      rw [mainStatement]
      split
      case h_5 => exact Or.inr ⟨.requestTaken, True.intro, rfl⟩
      all_goals exact Or.inl rfl
  | lcdTouch =>
      rw [lcdTouchStatement]
      split
      case h_3 => exact Or.inr ⟨.touch, True.intro, rfl⟩
      all_goals exact Or.inl rfl

/-- The main task is behind a request of an iteration of `Task_MainTask`, and has the
last ones of its calls left. -/
def Iterating (main : MainPoint) (request : ReqWordState) : Prop :=
  match main with
  | .finish left => ∃ layer before, before.s_isWordRequest = true ∧
      request = (Task_MainTask layer before).1.request ∧ left <:+ (Task_MainTask layer before).2
  | _ => True

theorem iterating_main (layer : SocketLayer) {before : DeviceState}
    (iterating : Iterating before.main before.request) :
    Iterating (mainStatement layer before).main (mainStatement layer before).request := by
  cases point : before.main with
  | test =>
      rw [mainStatement, point]
      cases before.timer.s_isWordRequest <;> exact True.intro
  | request | delay =>
      rw [mainStatement, point]
      exact True.intro
  | serving =>
      rcases @main_of_device layer before point (fun _ => 0) with ⟨calls, request⟩
      rw [calls, request]
      exact ⟨layer, ⟨true, before.request, (fun _ => 0)⟩, rfl, rfl, List.suffix_refl _⟩
  | finish left =>
      rw [point] at iterating
      cases left with
      | nil =>
          rw [mainStatement, point]
          exact True.intro
      | cons call left =>
          rcases iterating with ⟨layer', earlier, requested, request, suffix⟩
          rw [mainStatement, point]
          exact ⟨layer', earlier, requested, request, (List.suffix_cons call left).trans suffix⟩

/-- Whatever the other tasks do, the main task makes the calls of iterations of
`Task_MainTask`. -/
theorem iterating_of_device {setting : TimeSetting} {state : DeviceState}
    (reachable : Transition.Reachable (deviceNext setting) Transition.anyStep
      (DeviceState.initial setting) state) : Iterating state.main state.request := by
  refine reachable.invariant (fun state : DeviceState => Iterating state.main state.request)
    True.intro ?_
  intro before action after iterating _ moved
  cases deviceNext_step moved with
  | touch => exact iterating
  | call task call left moves calls => cases call <;> exact iterating
  | timer => exact iterating
  | main layer => exact iterating_main layer iterating
  | lcdTouch =>
      rw [lcdTouchStatement]
      split <;> exact iterating

/-! ## Word requests -/

/-- A request is being served, or its flag not yet taken back. -/
def MainPoint.busy : MainPoint → Bool
  | .serving | .finish _ => true
  | _ => false

/-- The word request as a signal from the timer task to the main task. -/
def requestSignal (state : DeviceState) : Signal where
  raised := state.timer.s_isWordRequest
  pending := state.requestPending
  serving := state.main.busy

/-- The timer task requests no word while the main task is between the start of a
request and the clearing of the flag. -/
def RequestApart (before : DeviceState) (action : DeviceAction) : Prop :=
  action = .timer → before.calls .TimerTask = [] → before.timer.point = .request →
    before.main.busy = false

/-- The main task starts the service, clears the flag behind it, or does neither. -/
theorem requestSignal_main (layer : SocketLayer) (before : DeviceState) :
    requestSignal (mainStatement layer before) = requestSignal before ∨
      Transition.Step Signal.next Signal.Undisturbed (requestSignal before)
        (requestSignal (mainStatement layer before)) := by
  cases point : before.main with
  | test =>
      left
      cases flag : before.timer.s_isWordRequest <;>
        simp [requestSignal, mainStatement, point, flag, MainPoint.busy]
  | request =>
      refine Or.inr ⟨.start, (fun raising => by cases raising), ?_⟩
      simp [requestSignal, Signal.next, mainStatement, point, MainPoint.busy]
  | serving =>
      left
      simp [requestSignal, mainStatement, point, MainPoint.busy]
  | finish calls =>
      cases calls with
      | nil =>
          refine Or.inr ⟨.clear, (fun raising => by cases raising), ?_⟩
          simp [requestSignal, Signal.next, mainStatement, point, MainPoint.busy]
      | cons call calls =>
          left
          simp [requestSignal, mainStatement, DeviceState.enter, point, MainPoint.busy]
  | delay =>
      left
      simp [requestSignal, mainStatement, point, MainPoint.busy]

theorem requestSignal_follows {setting : TimeSetting} {before after : DeviceState}
    {action : DeviceAction} (apart : RequestApart before action)
    (moved : deviceNext setting before action = some after) :
    requestSignal after = requestSignal before ∨
      Transition.Step Signal.next Signal.Undisturbed (requestSignal before)
        (requestSignal after) := by
  cases deviceNext_step moved with
  | touch => exact Or.inl rfl
  | call task call left moves calls =>
      left
      cases call <;> rfl
  | timer idle =>
      by_cases request : before.timer.point = .request
      · refine Or.inr ⟨.raise, fun _ => apart rfl idle request, ?_⟩
        simp [requestSignal, Signal.next, timerStatement, DeviceState.enter,
          Task_TimerTask_s_isWordRequest, request]
      · left
        simp [requestSignal, timerStatement, DeviceState.enter,
          Task_TimerTask_s_isWordRequest, request]
  | main layer => exact requestSignal_main layer before
  | lcdTouch =>
      left
      rw [lcdTouchStatement]
      split <;> rfl

/-- In every run in which the timer task requests a word only while none is
served, a request that was not taken up yet shows in the flag. -/
theorem request_kept (setting : TimeSetting) (state : DeviceState)
    (reachable : Transition.Reachable (deviceNext setting) RequestApart
      (DeviceState.initial setting) state) :
    state.requestPending = true → state.timer.s_isWordRequest = true :=
  Signal.raised_of_pending (reachable.simulate requestSignal
    fun _ _ _ apart moved => requestSignal_follows apart moved)

instance (before : DeviceState) (action : DeviceAction) :
    Decidable (RequestApart before action) :=
  match action with
  | .timer =>
      decidable_of_iff (before.calls .TimerTask = [] → before.timer.point = .request →
        before.main.busy = false) ⟨fun apart _ => apart, fun apart => apart rfl⟩
  | .touch | .main _ | .lcdTouch => isTrue nofun

/-- A touch, and the statements of the callback up to the start of the timer. -/
def firstTouch : List DeviceAction :=
  .touch :: List.replicate 3 .lcdTouch

/-- A socket layer that finds no server. -/
def noServer : SocketLayer :=
  { SocketLayer.succeeding [] with err := 1 }

/-- The first request of a session. -/
theorem request_kept_first :
    ∃ state : DeviceState, state.requestPending = true ∧ state.timer.s_isWordRequest = true := by
  have executed : (Transition.runWithin (deviceNext .source) RequestApart
      (DeviceState.initial .source) (firstTouch ++ List.replicate 5 .timer)).map
        DeviceState.requestPending = some true := by decide +kernel
  rcases Transition.exists_reachable_of_runWithin _ executed with ⟨state, reachable, pending⟩
  exact ⟨state, pending, request_kept .source state reachable pending⟩

/-- The first request of a session is served for more than a minute. -/
theorem request_not_kept :
    ¬ ∀ (setting : TimeSetting) (state : DeviceState),
      Transition.Reachable (deviceNext setting) Transition.anyStep
        (DeviceState.initial setting) state →
      state.requestPending = true → state.timer.s_isWordRequest = true := by
  intro kept
  have executed : (Transition.run (deviceNext .source) (DeviceState.initial .source)
      (firstTouch ++ List.replicate 5 .timer ++ List.replicate 2 (.main noServer) ++
        List.replicate 383 .timer ++ List.replicate 2 (.main noServer))).map
        (fun state => (state.requestPending, state.timer.s_isWordRequest)) =
      some (true, false) := by decide +kernel
  rcases Transition.exists_reachable_of_run _ executed with ⟨state, reachable, observed⟩
  have flag := kept .source state reachable (congrArg Prod.fst observed)
  rw [show state.timer.s_isWordRequest = false from congrArg Prod.snd observed] at flag
  cases flag

/-! ## Touches -/

/-- A callback has started, and its flag is not yet taken back. -/
def LcdTouchPoint.busy : LcdTouchPoint → Bool
  | .startTimer | .turnOn | .clear => true
  | _ => false

/-- The touch as a signal from the interrupt to the task of the screen. -/
def touchSignal (state : DeviceState) : Signal where
  raised := state.isTouchOccurred
  pending := state.touchPending
  serving := state.lcdTouch.busy

/-- No touch occurs between the start of a callback and the clearing of the
flag. -/
def TouchApart (before : DeviceState) (action : DeviceAction) : Prop :=
  action = .touch → before.lcdTouch.busy = false

/-- The task of the screen starts the service, clears the flag behind it, or does
neither. -/
theorem touchSignal_lcdTouch (before : DeviceState) :
    touchSignal (lcdTouchStatement before) = touchSignal before ∨
      Transition.Step Signal.next Signal.Undisturbed (touchSignal before)
        (touchSignal (lcdTouchStatement before)) := by
  cases point : before.lcdTouch with
  | test =>
      left
      cases flag : before.isTouchOccurred <;>
        simp [touchSignal, lcdTouchStatement, point, flag, LcdTouchPoint.busy]
  | callback =>
      refine Or.inr ⟨.start, (fun raising => by cases raising), ?_⟩
      simp [touchSignal, Signal.next, lcdTouchStatement, point, LcdTouchPoint.busy]
  | clear =>
      refine Or.inr ⟨.clear, (fun raising => by cases raising), ?_⟩
      simp [touchSignal, Signal.next, lcdTouchStatement, point, LcdTouchPoint.busy]
  | startTimer | update | delay =>
      left
      simp [touchSignal, lcdTouchStatement, point, LcdTouchPoint.busy]
  | turnOn =>
      left
      simp [touchSignal, lcdTouchStatement, DeviceState.enter, point, LcdTouchPoint.busy]

theorem touchSignal_follows {setting : TimeSetting} {before after : DeviceState}
    {action : DeviceAction} (apart : TouchApart before action)
    (moved : deviceNext setting before action = some after) :
    touchSignal after = touchSignal before ∨
      Transition.Step Signal.next Signal.Undisturbed (touchSignal before) (touchSignal after) := by
  cases deviceNext_step moved with
  | touch => exact Or.inr ⟨.raise, fun _ => apart rfl, rfl⟩
  | call task call left moves calls =>
      left
      cases call <;> rfl
  | timer => exact Or.inl rfl
  | main layer =>
      left
      rw [mainStatement]
      split <;> rfl
  | lcdTouch => exact touchSignal_lcdTouch before

/-- In every run in which touches occur only while no callback runs, a touch that
was not taken up yet shows in the flag. -/
theorem touch_kept (setting : TimeSetting) (state : DeviceState)
    (reachable : Transition.Reachable (deviceNext setting) TouchApart
      (DeviceState.initial setting) state) :
    state.touchPending = true → state.isTouchOccurred = true :=
  Signal.raised_of_pending (reachable.simulate touchSignal
    fun _ _ _ apart moved => touchSignal_follows apart moved)

/-- The touch that begins a session. -/
theorem touch_kept_first :
    ∃ state : DeviceState, state.touchPending = true ∧ state.isTouchOccurred = true := by
  have moved : deviceNext .source (DeviceState.initial .source) .touch = some
      { DeviceState.initial .source with isTouchOccurred := true, touchPending := true } := rfl
  have reachable := Relation.ReflTransGen.single
    (show Transition.Step (deviceNext .source) TouchApart _ _ from ⟨.touch, fun _ => rfl, moved⟩)
  exact ⟨_, rfl, touch_kept .source _ reachable rfl⟩

/-- A second touch while the callback of the first one runs. -/
theorem touch_not_kept :
    ¬ ∀ (setting : TimeSetting) (state : DeviceState),
      Transition.Reachable (deviceNext setting) Transition.anyStep
        (DeviceState.initial setting) state →
      state.touchPending = true → state.isTouchOccurred = true := by
  intro kept
  have executed : (Transition.run (deviceNext .source) (DeviceState.initial .source)
      (firstTouch ++ .touch :: List.replicate 4 .lcdTouch)).map
        (fun state => (state.touchPending, state.isTouchOccurred)) =
      some (true, false) := by decide +kernel
  rcases Transition.exists_reachable_of_run _ executed with ⟨state, reachable, observed⟩
  have flag := kept .source state reachable (congrArg Prod.fst observed)
  rw [show state.isTouchOccurred = false from congrArg Prod.snd observed] at flag
  cases flag

end Tasks
end ToothVoca
