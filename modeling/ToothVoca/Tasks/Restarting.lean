import Mathlib.Data.List.Chain
import ToothVoca.Tasks.Device

namespace ToothVoca
namespace Tasks

open Library Network

/-!
# Restarting the audio pipeline (`audio_stream.c`)

`AudioStream_Run` stops the pipeline, waits until it has stopped, resets it and
runs it again.  The timer task and the main task both call it, each six library
calls one after the other, and their calls interleave.

The pipeline belongs to a library that is not part of the source, so it is a
parameter here: a state, the effect of each call, and a predicate.  Of the
library only this is assumed: behind `audio_pipeline_wait_for_stop` the
pipeline is stopped, it stays so under every call but `audio_pipeline_run`, and
that call makes it run.

A task prepares a restart from the end of its wait to its own run.  Where each
run is called while no other task prepares one, the calls of a preparing task
always meet a stopped pipeline.
-/

/-- The pipeline of the library. -/
structure Pipeline where
  State : Type
  start : State
  call : PipelineCall → State → State
  Stopped : State → Prop

namespace Pipeline

/-- The state behind some calls. -/
def after (pipeline : Pipeline) (calls : List PipelineCall) : pipeline.State :=
  calls.foldl (fun state call => pipeline.call call state) pipeline.start

/-- What the library promises. -/
structure Lawful (pipeline : Pipeline) : Prop where
  waited : ∀ state, pipeline.Stopped (pipeline.call .audio_pipeline_wait_for_stop state)
  kept : ∀ call state, call ≠ .audio_pipeline_run → pipeline.Stopped state →
    pipeline.Stopped (pipeline.call call state)
  running : ∀ state, ¬ pipeline.Stopped (pipeline.call .audio_pipeline_run state)

theorem after_append (pipeline : Pipeline) (calls : List PipelineCall) (call : PipelineCall) :
    pipeline.after (calls ++ [call]) = pipeline.call call (pipeline.after calls) := by
  rw [after, List.foldl_append]
  rfl

end Pipeline

/-- The calls that are made on a stopped pipeline only. -/
def DeviceCall.needsStopped : DeviceCall → Bool
  | .pipeline .audio_pipeline_reset_ringbuffer | .pipeline .audio_pipeline_reset_elements
  | .pipeline .audio_pipeline_change_state | .pipeline .audio_pipeline_run => true
  | _ => false

/-- The next of the calls left to a task needs a stopped pipeline: the task is
between the end of its wait and its own run. -/
def Preparing (calls : List DeviceCall) : Prop :=
  ∃ call ∈ calls.head?, call.needsStopped = true

instance (calls : List DeviceCall) : Decidable (Preparing calls) :=
  inferInstanceAs (Decidable (∃ call ∈ calls.head?, call.needsStopped = true))

/-- The pipeline is run only while no other task prepares a restart. -/
def RunsAlone (before : DeviceState) (action : DeviceAction) : Prop :=
  nextCall before action = some (.pipeline .audio_pipeline_run) →
    ∀ other, action.task ≠ some other → ¬ Preparing (before.calls other)

instance (before : DeviceState) (action : DeviceAction) : Decidable (RunsAlone before action) :=
  inferInstanceAs (Decidable (_ → ∀ other, action.task ≠ some other →
    ¬ Preparing (before.calls other)))

/-- A call that needs a stopped pipeline stands behind the wait, or behind another
such call that does not run the pipeline. -/
def Prepares (first second : DeviceCall) : Prop :=
  second.needsStopped = true →
    first = .pipeline .audio_pipeline_wait_for_stop ∨
      first.needsStopped = true ∧ first ≠ .pipeline .audio_pipeline_run

instance (first second : DeviceCall) : Decidable (Prepares first second) :=
  inferInstanceAs (Decidable (_ → _))

/-- The calls that a task may enter. -/
def entered : List (List DeviceCall) :=
  [[], LcdTouch_TurnOff true, LcdTouch_TurnOn true, AudioStream_Run true]

theorem prepared_entered : ∀ calls ∈ entered, calls.IsChain Prepares ∧ ¬ Preparing calls := by
  decide

/-- What a statement does to the calls: it leaves them, or enters a function. -/
structure Enters (task : DeviceTask) (before after : DeviceState) : Prop where
  made : after.pipelineCalls = before.pipelineCalls
  left : after.calls = before.calls ∨
    ∃ calls ∈ entered, after.calls = Function.update before.calls task calls

theorem timerStatement_enters (setting : TimeSetting) (before : DeviceState) :
    Enters .TimerTask before (timerStatement setting before) where
  made := rfl
  left := by
    refine Or.inr ⟨timerCalls before.timer.point, ?_, rfl⟩
    cases before.timer.point <;> decide

theorem mainStatement_enters (layer : SocketLayer) (before : DeviceState) :
    Enters .MainTask before (mainStatement layer before) := by
  rw [mainStatement]
  split
  case h_4 call left _ =>
    refine ⟨rfl, Or.inr ⟨mainCalls call, ?_, rfl⟩⟩
    cases call <;> decide
  all_goals exact ⟨rfl, Or.inl rfl⟩

theorem lcdTouchStatement_enters (before : DeviceState) :
    Enters .LcdTouch before (lcdTouchStatement before) := by
  rw [lcdTouchStatement]
  split
  case h_4 => exact ⟨rfl, Or.inr ⟨LcdTouch_TurnOn true, by decide, rfl⟩⟩
  all_goals exact ⟨rfl, Or.inl rfl⟩

section Restart

variable {pipeline : Pipeline}

/-- The calls left are in order, and a preparing task meets a stopped pipeline. -/
structure RestartInvariant (pipeline : Pipeline) (state : DeviceState) : Prop where
  ordered : ∀ task, (state.calls task).IsChain Prepares
  stopped : ∀ task, Preparing (state.calls task) →
    pipeline.Stopped (pipeline.after state.pipelineCalls)

theorem RestartInvariant.statement {before after : DeviceState} {task : DeviceTask}
    (invariant : RestartInvariant pipeline before) (enters : Enters task before after) :
    RestartInvariant pipeline after := by
  have each (other : DeviceTask) : after.calls other = before.calls other ∨
      after.calls other ∈ entered := by
    rcases enters.left with same | ⟨calls, whole, updated⟩
    · exact Or.inl (congrFun same other)
    · rw [updated]
      by_cases here : other = task
      · subst here
        rw [Function.update_self]
        exact Or.inr whole
      · rw [Function.update_of_ne here]
        exact Or.inl rfl
  constructor
  · intro other
    rcases each other with same | whole
    · rw [same]
      exact invariant.ordered other
    · exact (prepared_entered _ whole).1
  · intro other preparing
    rw [enters.made]
    rcases each other with same | whole
    · rw [same] at preparing
      exact invariant.stopped other preparing
    · exact absurd preparing (prepared_entered _ whole).2

/-- A stopped pipeline stays stopped under every call but the run. -/
theorem stopped_perform {before : DeviceState} {call : DeviceCall} (lawful : pipeline.Lawful)
    (other : call ≠ .pipeline .audio_pipeline_run)
    (stopped : pipeline.Stopped (pipeline.after before.pipelineCalls)) :
    pipeline.Stopped (pipeline.after (before.perform call).pipelineCalls) := by
  cases call with
  | switch part on => exact stopped
  | pipeline call =>
      simp only [DeviceState.perform, Pipeline.after_append]
      exact lawful.kept call _ (fun same => other (by rw [same])) stopped

theorem RestartInvariant.call {before : DeviceState} {task : DeviceTask} {call : DeviceCall}
    {left : List DeviceCall} (lawful : pipeline.Lawful)
    (invariant : RestartInvariant pipeline before) (calls : before.calls task = call :: left)
    (alone : call = .pipeline .audio_pipeline_run →
      ∀ other, other ≠ task → ¬ Preparing (before.calls other)) :
    RestartInvariant pipeline ((before.perform call).enter task left) := by
  have chain := invariant.ordered task
  rw [calls, List.isChain_cons] at chain
  constructor
  · intro other
    simp only [DeviceState.enter, DeviceState.calls_perform]
    by_cases here : other = task
    · subst here
      rw [Function.update_self]
      exact chain.2
    · rw [Function.update_of_ne here]
      exact invariant.ordered other
  · intro other preparing
    simp only [DeviceState.enter, DeviceState.calls_perform] at preparing
    by_cases here : other = task
    · subst here
      rw [Function.update_self] at preparing
      rcases preparing with ⟨next, head, needs⟩
      rcases chain.1 next head needs with wait | ⟨needsToo, other⟩
      · subst wait
        simp only [DeviceState.perform, DeviceState.enter, Pipeline.after_append]
        exact lawful.waited _
      · apply stopped_perform lawful other
        apply invariant.stopped
        exact ⟨call, by rw [calls]; rfl, needsToo⟩
    · rw [Function.update_of_ne here] at preparing
      refine stopped_perform lawful ?_ (invariant.stopped other preparing)
      intro runs
      exact alone runs other here preparing

theorem RestartInvariant.step {setting : TimeSetting} {before after : DeviceState}
    {action : DeviceAction} (lawful : pipeline.Lawful)
    (invariant : RestartInvariant pipeline before) (alone : RunsAlone before action)
    (moved : deviceNext setting before action = some after) :
    RestartInvariant pipeline after := by
  cases deviceNext_step moved with
  | touch => exact ⟨invariant.ordered, invariant.stopped⟩
  | call task call left moves calls =>
      apply invariant.call lawful calls
      intro runs other different
      apply alone
      · rw [nextCall, moves, Option.bind_some, calls, runs]
        rfl
      · rw [moves]
        exact fun same => different (Option.some.inj same).symm
  | timer => exact invariant.statement (timerStatement_enters setting before)
  | main layer => exact invariant.statement (mainStatement_enters layer before)
  | lcdTouch => exact invariant.statement (lcdTouchStatement_enters before)

end Restart

/-- In every run in which the pipeline is run only while no other task prepares a
restart, a task whose next call resets, initializes or runs the pipeline finds
it stopped. -/
theorem restart_stopped (pipeline : Pipeline) (lawful : pipeline.Lawful) (setting : TimeSetting)
    (state : DeviceState)
    (reachable : Transition.Reachable (deviceNext setting) RunsAlone
      (DeviceState.initial setting) state) :
    ∀ task, Preparing (state.calls task) →
      pipeline.Stopped (pipeline.after state.pipelineCalls) := by
  have initial : RestartInvariant pipeline (DeviceState.initial setting) := by
    constructor
    · intro task
      exact List.IsChain.nil
    · rintro task ⟨call, head, _⟩
      cases head
  have invariant := reachable.invariant (RestartInvariant pipeline) initial
    fun _ _ _ invariant alone moved => invariant.step lawful alone moved
  exact invariant.stopped

/-- A pipeline that knows only whether it runs. -/
def twoState : Pipeline where
  State := Bool
  start := false
  call
    | .audio_pipeline_wait_for_stop, _ => false
    | .audio_pipeline_run, _ => true
    | _, running => running
  Stopped := fun running => running = false

theorem twoState_lawful : twoState.Lawful where
  waited := fun _ => rfl
  kept := by
    intro call running other stopped
    cases call with
    | audio_pipeline_wait_for_stop => rfl
    | audio_pipeline_run => exact absurd rfl other
    | audio_pipeline_stop | audio_pipeline_reset_ringbuffer | audio_pipeline_reset_elements
    | audio_pipeline_change_state => exact stopped
  running := fun _ stopped => by cases stopped

/-- The first replay of a session, with the main task elsewhere. -/
theorem restart_stopped_replay :
    ∃ state : DeviceState, Preparing (state.calls .TimerTask) ∧
      twoState.Stopped (twoState.after state.pipelineCalls) := by
  have executed : (Transition.runWithin (deviceNext .source) RunsAlone
      (DeviceState.initial .source) (firstTouch ++ List.replicate 94 .timer)).map
        (fun state => decide (Preparing (state.calls .TimerTask))) = some true := by
    decide +kernel
  rcases Transition.exists_reachable_of_runWithin _ executed with ⟨state, reachable, observed⟩
  have preparing := of_decide_eq_true observed
  exact ⟨state, preparing,
    restart_stopped twoState twoState_lawful .source state reachable .TimerTask preparing⟩

/-- The main task restarts the pipeline while the timer task has just waited for
its stop. -/
theorem restart_not_stopped :
    ¬ ∀ (pipeline : Pipeline), pipeline.Lawful → ∀ (setting : TimeSetting) (state : DeviceState),
      Transition.Reachable (deviceNext setting) Transition.anyStep
        (DeviceState.initial setting) state →
      ∀ task, Preparing (state.calls task) →
        pipeline.Stopped (pipeline.after state.pipelineCalls) := by
  intro stopped
  have executed : (Transition.run (deviceNext .source) (DeviceState.initial .source)
      (firstTouch ++ List.replicate 94 .timer ++
        List.replicate 13 (.main (.succeeding [])))).map
        (fun state =>
          (decide (Preparing (state.calls .TimerTask)), state.pipelineCalls.getLast?)) =
      some (true, some .audio_pipeline_run) := by decide +kernel
  rcases Transition.exists_reachable_of_run _ executed with ⟨state, reachable, observed⟩
  have preparing := of_decide_eq_true (congrArg Prod.fst observed)
  have found := stopped twoState twoState_lawful .source state reachable .TimerTask preparing
  rcases List.getLast?_eq_some_iff.mp (congrArg Prod.snd observed) with ⟨earlier, calls⟩
  rw [calls, Pipeline.after_append] at found
  exact twoState_lawful.running _ found

end Tasks
end ToothVoca
