import ToothVoca.Library.Lifetime
import ToothVoca.Tasks.Device

namespace ToothVoca
namespace Tasks

open Library

/-!
# The life of the audio stream (`audio_stream.c`)

`AudioStream_Init` creates the pipeline, its three elements, the set of
peripherals and the event interface, and `AudioStream_Deinit` releases them.  The
flag `s_isInitAudioStream` is to say in between that they can be used, and
`AudioStream_Deinit`, `AudioStream_Run` and `AudioStream_Task` return early while
it is not set.

The calls of the functions are modelled with the handles they pass.  That a
creation succeeds, and that `deinit` and `destroy` end the life of their object,
is all that is assumed of the library.

Behind a deinitialization the flag is set again, so that the next call meets
released objects, unless it is an initialization.  `AudioPhase` is the machine of
three states that the four functions move through.
-/

inductive AudioHandle where
  | pipeline
  | http_stream_reader
  | i2s_stream_writer
  | mp3_decoder
  | set
  | evt
deriving DecidableEq, Repr

/-- The calls of the library that are given one of the handles, or whose result is
assigned to one. -/
inductive AdfCall where
  | audio_pipeline_init
  | http_stream_init
  | mp3_decoder_init
  | i2s_stream_init
  | audio_pipeline_register (element : AudioHandle)
  | audio_pipeline_link
  | audio_element_set_uri (element : AudioHandle)
  | esp_periph_set_init
  | esp_periph_start
  | audio_event_iface_init
  | audio_pipeline_set_listener
  | esp_periph_set_get_event_iface
  | audio_event_iface_set_listener
  | pipeline (call : PipelineCall)
  | audio_pipeline_terminate
  | audio_pipeline_unregister (element : AudioHandle)
  | audio_pipeline_remove_listener
  | esp_periph_set_stop_all
  | audio_event_iface_remove_listener
  | audio_event_iface_destroy
  | audio_pipeline_deinit
  | audio_element_deinit (element : AudioHandle)
  | esp_periph_set_destroy
  | audio_event_iface_listen
  | audio_element_getinfo (element : AudioHandle)
  | i2s_stream_set_clk (element : AudioHandle)
deriving DecidableEq, Repr

/-- What a call does with the objects behind its handles. -/
def AdfCall.accesses : AdfCall → List (Lifetime.Access AudioHandle)
  | audio_pipeline_init => [.create .pipeline]
  | http_stream_init => [.create .http_stream_reader]
  | mp3_decoder_init => [.create .mp3_decoder]
  | i2s_stream_init => [.create .i2s_stream_writer]
  | esp_periph_set_init => [.create .set]
  | audio_event_iface_init => [.create .evt]
  | audio_pipeline_register element | audio_pipeline_unregister element =>
      [.use .pipeline, .use element]
  | audio_pipeline_link | pipeline _ | audio_pipeline_terminate
  | audio_pipeline_remove_listener => [.use .pipeline]
  | audio_pipeline_set_listener => [.use .pipeline, .use .evt]
  | audio_element_set_uri element | audio_element_getinfo element
  | i2s_stream_set_clk element => [.use element]
  | esp_periph_start | esp_periph_set_get_event_iface | esp_periph_set_stop_all => [.use .set]
  | audio_event_iface_set_listener | audio_event_iface_remove_listener
  | audio_event_iface_listen => [.use .evt]
  | audio_event_iface_destroy => [.release .evt]
  | audio_pipeline_deinit => [.release .pipeline]
  | audio_element_deinit element => [.release element]
  | esp_periph_set_destroy => [.release .set]

/-- A received message: whether its type is `AUDIO_ELEMENT_TYPE_ELEMENT`, the object
that sent it, and whether its command is `AEL_MSG_CMD_REPORT_MUSIC_INFO`. -/
structure audio_event_iface_msg_t where
  fromElement : Bool
  source : Option Nat
  reportsMusicInfo : Bool
deriving DecidableEq, Repr

def AudioStream_Init : List AdfCall :=
  [.audio_pipeline_init, .http_stream_init, .mp3_decoder_init, .i2s_stream_init,
    .audio_pipeline_register .http_stream_reader, .audio_pipeline_register .mp3_decoder,
    .audio_pipeline_register .i2s_stream_writer, .audio_pipeline_link,
    .audio_element_set_uri .http_stream_reader, .esp_periph_set_init, .esp_periph_start,
    .audio_event_iface_init, .audio_pipeline_set_listener, .esp_periph_set_get_event_iface,
    .audio_event_iface_set_listener]

def AudioStream_Deinit : List AdfCall :=
  [.pipeline .audio_pipeline_stop, .pipeline .audio_pipeline_wait_for_stop,
    .audio_pipeline_terminate, .audio_pipeline_unregister .http_stream_reader,
    .audio_pipeline_unregister .i2s_stream_writer, .audio_pipeline_unregister .mp3_decoder,
    .audio_pipeline_remove_listener, .esp_periph_set_stop_all, .esp_periph_set_get_event_iface,
    .audio_event_iface_remove_listener, .audio_event_iface_destroy, .audio_pipeline_deinit,
    .audio_element_deinit .http_stream_reader, .audio_element_deinit .i2s_stream_writer,
    .audio_element_deinit .mp3_decoder, .esp_periph_set_destroy]

/-- The calls of the pipeline among those that a task makes. -/
def DeviceCall.adfCalls : DeviceCall → List AdfCall
  | .switch _ _ => []
  | .pipeline call => [.pipeline call]

/-- `AudioStream_Task`, given the value of `mp3_decoder` and the message, if one is
received without an error.  What it only logs is left out. -/
def AudioStream_Task (mp3_decoder : Option Nat) (received : Option audio_event_iface_msg_t) :
    List AdfCall :=
  match received with
  | none => [.audio_event_iface_listen]
  | some msg =>
      if msg.fromElement && msg.source == mp3_decoder && msg.reportsMusicInfo then
        [.audio_event_iface_listen, .audio_element_getinfo .mp3_decoder,
          .i2s_stream_set_clk .i2s_stream_writer]
      else
        [.audio_event_iface_listen]

structure AudioState where
  store : Lifetime.Store AudioHandle
  s_isInitAudioStream : Bool

def AudioState.initial : AudioState where
  store := .initial
  s_isInitAudioStream := false

def AudioState.perform (before : AudioState) (calls : List AdfCall) : AudioState :=
  { before with store := before.store.accessAll (calls.flatMap AdfCall.accesses) }

/-- A call of one of the four functions. -/
inductive AudioAction where
  | AudioStream_Init
  | AudioStream_Deinit
  | AudioStream_Run
  | AudioStream_Task (received : Option audio_event_iface_msg_t)
deriving DecidableEq, Repr

def audioNext (before : AudioState) : AudioAction → AudioState
  | .AudioStream_Init => { before.perform AudioStream_Init with s_isInitAudioStream := true }
  | .AudioStream_Deinit =>
      if before.s_isInitAudioStream = false then before
      else { before.perform AudioStream_Deinit with s_isInitAudioStream := true }
  | .AudioStream_Run =>
      before.perform
        ((AudioStream_Run before.s_isInitAudioStream).flatMap DeviceCall.adfCalls)
  | .AudioStream_Task received =>
      if before.s_isInitAudioStream = false then before
      else before.perform (AudioStream_Task (before.store.handles .mp3_decoder) received)

/-- A sequence of calls from the start of the program. -/
def audioRun (calls : List AudioAction) : AudioState :=
  calls.foldl audioNext .initial

/-- The flag is set exactly while all six objects are created and not destroyed, and
no object was used or released that is not alive. -/
structure FlagHolds (state : AudioState) : Prop where
  flag : state.s_isInitAudioStream = true ↔ ∀ handle, state.store.alive handle = true
  clean : state.store.misuses = []

/-- Each deinitialization of an initialized stream is followed by an initialization
at once. -/
def Reinitialized (calls : List AudioAction) : Prop :=
  ∀ before after, calls = before ++ .AudioStream_Deinit :: after →
    .AudioStream_Init ∈ before → after.head? = some .AudioStream_Init

/-! ## The machine of three states -/

inductive AudioPhase where
  | fresh
  | ready
  | released
deriving DecidableEq, Repr

def phaseNext (phase : AudioPhase) : AudioAction → AudioPhase
  | .AudioStream_Init => .ready
  | .AudioStream_Deinit => if phase = .ready then .released else phase
  | .AudioStream_Run | .AudioStream_Task _ => phase

/-- The calls that meet released objects. -/
def Misuses (phase : AudioPhase) (action : AudioAction) : Prop :=
  phase = .released ∧ action ≠ .AudioStream_Init

theorem not_misuses_of_ne {phase : AudioPhase} {action : AudioAction}
    (alive : phase ≠ .released) : ¬ Misuses phase action :=
  fun misuses => alive misuses.1

/-- What a state has to do with a phase: all objects are alive in one of them, and
none in the other two. -/
structure Shows (state : AudioState) (phase : AudioPhase) : Prop where
  distinct : state.store.Distinct
  flag : state.s_isInitAudioStream = decide (phase ≠ .fresh)
  alive : state.store.alive = fun _ => decide (phase = .ready)

theorem shows_initial : Shows .initial .fresh where
  distinct := Lifetime.Store.distinct_initial
  flag := rfl
  alive := rfl

section Phases

variable {state : AudioState} {phase : AudioPhase}

/-- The calls of a function, from what is alive in a phase. -/
theorem Shows.perform (shows : Shows state phase) (calls : List AdfCall) :
    (state.perform calls).store.Distinct ∧
      (state.perform calls).store.alive = Lifetime.aliveAfter (fun _ => decide (phase = .ready))
        (calls.flatMap AdfCall.accesses) ∧
      (state.perform calls).store.misuses = state.store.misuses ++
        Lifetime.misused (fun _ => decide (phase = .ready)) (calls.flatMap AdfCall.accesses) := by
  have spec := Lifetime.Store.accessAll_spec shows.distinct (calls.flatMap AdfCall.accesses)
  rw [shows.alive] at spec
  exact spec

/-- What a step does: it moves the machine, and adds to the record exactly when the
call meets released objects. -/
structure Moves (state after : AudioState) (phase : AudioPhase) (action : AudioAction) :
    Prop where
  shows : Shows after (phaseNext phase action)
  record : ∃ more, after.store.misuses = state.store.misuses ++ more ∧
    (more = [] ↔ ¬ Misuses phase action)

/-- A function that returns early. -/
theorem Shows.returns (shows : Shows state .fresh) {action : AudioAction}
    (other : action ≠ .AudioStream_Init) : Moves state state .fresh action where
  shows := by
    cases action with
    | AudioStream_Init => exact absurd rfl other
    | AudioStream_Deinit => exact shows
    | AudioStream_Run => exact shows
    | AudioStream_Task received => exact shows
  record := by
    exact ⟨[], (List.append_nil _).symm, iff_of_true rfl (not_misuses_of_ne (by decide))⟩

theorem moves_Init (shows : Shows state phase) :
    Moves state (audioNext state .AudioStream_Init) phase .AudioStream_Init := by
  rcases shows.perform AudioStream_Init with ⟨distinct, alive, record⟩
  have created : (state.perform AudioStream_Init).store.alive = fun _ => true := by
    rw [alive]
    funext handle
    cases handle <;> rfl
  rw [audioNext]
  generalize state.perform AudioStream_Init = performed at *
  exact ⟨⟨distinct, rfl, created⟩, [], record, iff_of_true rfl fun misuses => misuses.2 rfl⟩

theorem moves_Deinit (shows : Shows state phase) :
    Moves state (audioNext state .AudioStream_Deinit) phase .AudioStream_Deinit := by
  rcases shows.perform AudioStream_Deinit with ⟨distinct, alive, record⟩
  have ended : (state.perform AudioStream_Deinit).store.alive = fun _ => false := by
    rw [alive]
    funext handle
    cases handle <;> rfl
  rw [audioNext, shows.flag]
  cases phase with
  | fresh => exact shows.returns (by decide)
  | ready =>
      exact ⟨⟨distinct, rfl, ended⟩, [], record, iff_of_true rfl (not_misuses_of_ne (by decide))⟩
  | released =>
      refine ⟨⟨distinct, rfl, ended⟩, _, record, iff_of_false (List.cons_ne_nil _ _) ?_⟩
      exact not_not.mpr ⟨rfl, by decide⟩

/-- A function that only uses objects, when it does not return early. -/
theorem Shows.uses (shows : Shows state phase) {calls : List AdfCall}
    {handles : List AudioHandle} {action : AudioAction}
    (used : calls.flatMap AdfCall.accesses = handles.map .use) (nonempty : handles ≠ [])
    (stays : phaseNext phase action = phase) (other : action ≠ .AudioStream_Init)
    (begun : phase ≠ .fresh) : Moves state (state.perform calls) phase action := by
  rcases shows.perform calls with ⟨distinct, after, record⟩
  rw [used, Lifetime.aliveAfter_uses] at after
  rw [used] at record
  have same : Shows (state.perform calls) phase := ⟨distinct, shows.flag, after⟩
  rw [← stays] at same
  refine ⟨same, _, record, ?_⟩
  cases phase with
  | fresh => exact absurd rfl begun
  | ready =>
      have clean : Lifetime.misused (fun _ => true) (handles.map .use) = [] :=
        Lifetime.misused_uses fun _ _ => rfl
      exact iff_of_true clean (not_misuses_of_ne (by decide))
  | released =>
      rcases List.exists_mem_of_ne_nil handles nonempty with ⟨handle, member⟩
      have dirty : Lifetime.misused (fun _ => false) (handles.map .use) ≠ [] :=
        Lifetime.misused_uses_ended member rfl
      exact iff_of_false dirty (not_not.mpr ⟨rfl, other⟩)

theorem moves_Run (shows : Shows state phase) :
    Moves state (audioNext state .AudioStream_Run) phase .AudioStream_Run := by
  rw [audioNext, shows.flag]
  by_cases begun : phase = .fresh
  · subst begun
    exact shows.returns (by decide)
  · have used : ((AudioStream_Run true).flatMap DeviceCall.adfCalls).flatMap AdfCall.accesses =
        (List.replicate 6 AudioHandle.pipeline).map .use := rfl
    rw [decide_eq_true begun]
    exact shows.uses used (by decide) rfl (by decide) begun

/-- The two lists of calls that `AudioStream_Task` makes. -/
theorem AudioStream_Task_cases (mp3_decoder : Option Nat)
    (received : Option audio_event_iface_msg_t) :
    AudioStream_Task mp3_decoder received = [.audio_event_iface_listen] ∨
      AudioStream_Task mp3_decoder received =
        [.audio_event_iface_listen, .audio_element_getinfo .mp3_decoder,
          .i2s_stream_set_clk .i2s_stream_writer] := by
  cases received with
  | none => exact Or.inl rfl
  | some msg =>
      simp only [AudioStream_Task]
      split
      · exact Or.inr rfl
      · exact Or.inl rfl

theorem moves_Task (shows : Shows state phase) (received : Option audio_event_iface_msg_t) :
    Moves state (audioNext state (.AudioStream_Task received)) phase
      (.AudioStream_Task received) := by
  have other : AudioAction.AudioStream_Task received ≠ .AudioStream_Init := by
    intro same
    cases same
  rw [audioNext, shows.flag]
  by_cases begun : phase = .fresh
  · subst begun
    exact shows.returns other
  · rw [decide_eq_true begun, if_neg (by decide)]
    rcases AudioStream_Task_cases (state.store.handles .mp3_decoder) received with
      listens | reports
    · have used : [AdfCall.audio_event_iface_listen].flatMap AdfCall.accesses =
          [AudioHandle.evt].map .use := rfl
      rw [listens]
      exact shows.uses used (by decide) rfl other begun
    · have used : [AdfCall.audio_event_iface_listen, .audio_element_getinfo .mp3_decoder,
          .i2s_stream_set_clk .i2s_stream_writer].flatMap AdfCall.accesses =
            [AudioHandle.evt, .mp3_decoder, .i2s_stream_writer].map .use := rfl
      rw [reports]
      exact shows.uses used (by decide) rfl other begun

theorem moves_audioNext (shows : Shows state phase) (action : AudioAction) :
    Moves state (audioNext state action) phase action := by
  cases action with
  | AudioStream_Init => exact moves_Init shows
  | AudioStream_Deinit => exact moves_Deinit shows
  | AudioStream_Run => exact moves_Run shows
  | AudioStream_Task received => exact moves_Task shows received

end Phases

/-! ## Sequences of calls -/

/-- What a sequence of calls has to be, from a phase on. -/
def Correct : AudioPhase → List AudioAction → Prop
  | phase, [] => phase ≠ .released
  | phase, action :: rest => ¬ Misuses phase action ∧ Correct (phaseNext phase action) rest

theorem misuses_grow {state : AudioState} {phase : AudioPhase} (shows : Shows state phase)
    (calls : List AudioAction) :
    state.store.misuses <+: (calls.foldl audioNext state).store.misuses := by
  induction calls generalizing state phase with
  | nil => exact List.prefix_refl _
  | cons action rest ih =>
      have moves := moves_audioNext shows action
      rcases moves.record with ⟨more, record, _⟩
      have first : state.store.misuses <+: (audioNext state action).store.misuses := by
        rw [record]
        exact List.prefix_append _ _
      exact first.trans (ih moves.shows)

/-- In each phase the flag is right, except where the objects are released. -/
theorem Shows.flag_iff {state : AudioState} {phase : AudioPhase} (shows : Shows state phase) :
    (state.s_isInitAudioStream = true ↔ ∀ handle, state.store.alive handle = true) ↔
      phase ≠ .released := by
  rw [shows.flag, shows.alive]
  cases phase with
  | fresh =>
      refine iff_of_true (iff_of_false (by decide) ?_) (by decide)
      intro each
      exact absurd (each .set) (by decide)
  | ready => exact iff_of_true (iff_of_true rfl fun _ => rfl) (by decide)
  | released =>
      refine iff_of_false ?_ (fun other => other rfl)
      intro same
      exact absurd (same.mp rfl .set) (by decide)

theorem flagHolds_iff_correct {state : AudioState} {phase : AudioPhase}
    (shows : Shows state phase) (clean : state.store.misuses = []) (calls : List AudioAction) :
    FlagHolds (calls.foldl audioNext state) ↔ Correct phase calls := by
  induction calls generalizing state phase with
  | nil =>
      constructor
      · intro holds
        exact shows.flag_iff.mp holds.flag
      · intro correct
        exact ⟨shows.flag_iff.mpr correct, clean⟩
  | cons action rest ih =>
      have moves := moves_audioNext shows action
      rcases moves.record with ⟨more, record, recorded⟩
      rw [clean, List.nil_append] at record
      rw [List.foldl_cons, Correct]
      by_cases misuses : Misuses phase action
      · -- What is recorded once stays in the record.
        refine iff_of_false ?_ (fun correct => correct.1 misuses)
        intro holds
        have grown := misuses_grow moves.shows rest
        rw [holds.clean, record, List.prefix_nil] at grown
        exact recorded.mp grown misuses
      · have clean' : (audioNext state action).store.misuses = [] := by
          rw [record]
          exact recorded.mpr misuses
        rw [ih moves.shows clean']
        exact (and_iff_right misuses).symm

/-- A split of a list at an element is at its head or in its tail. -/
theorem forall_split_cons {Element : Type} {property : List Element → List Element → Prop}
    {first element : Element} {rest : List Element} :
    (∀ before after, first :: rest = before ++ element :: after → property before after) ↔
      (first = element → property [] rest) ∧
        ∀ before after, rest = before ++ element :: after → property (first :: before) after := by
  constructor
  · intro each
    constructor
    · intro same
      exact each [] rest (by rw [same]; rfl)
    · intro before after shape
      exact each (first :: before) after (by rw [shape]; rfl)
  · rintro ⟨atHead, inTail⟩ before after shape
    cases before with
    | nil =>
        cases shape
        exact atHead rfl
    | cons head before =>
        cases shape
        exact inTail before after rfl

theorem correct_released_iff (calls : List AudioAction) :
    Correct .released calls ↔ calls.head? = some .AudioStream_Init ∧ Correct .ready calls := by
  cases calls with
  | nil => exact iff_of_false (fun correct => correct rfl) (fun both => by cases both.1)
  | cons action rest =>
      rw [List.head?_cons, Option.some.injEq]
      by_cases initializes : action = .AudioStream_Init
      · subst initializes
        have reached : Correct .released (.AudioStream_Init :: rest) ↔ Correct .ready rest :=
          and_iff_right fun misuses => misuses.2 rfl
        have stays : Correct .ready (.AudioStream_Init :: rest) ↔ Correct .ready rest :=
          and_iff_right (not_misuses_of_ne (by decide))
        rw [reached, stays]
        exact (and_iff_right rfl).symm
      · exact iff_of_false (fun correct => correct.1 ⟨rfl, initializes⟩)
          fun both => initializes both.1

theorem correct_ready_iff (calls : List AudioAction) :
    Correct .ready calls ↔
      ∀ before after, calls = before ++ .AudioStream_Deinit :: after →
        after.head? = some .AudioStream_Init := by
  induction calls with
  | nil =>
      refine iff_of_true (show AudioPhase.ready ≠ .released by decide) ?_
      intro before after shape
      cases (List.append_eq_nil_iff.mp shape.symm).2
  | cons action rest ih =>
      have step : Correct .ready (action :: rest) ↔ Correct (phaseNext .ready action) rest :=
        and_iff_right (not_misuses_of_ne (by decide))
      rw [forall_split_cons, ← ih, step]
      by_cases deinitializes : action = .AudioStream_Deinit
      · subst deinitializes
        rw [forall_prop_of_true rfl]
        exact correct_released_iff rest
      · have stays : phaseNext .ready action = .ready := by
          cases action with
          | AudioStream_Deinit => exact absurd rfl deinitializes
          | AudioStream_Init => rfl
          | AudioStream_Run => rfl
          | AudioStream_Task received => rfl
        rw [stays]
        exact (and_iff_right fun same => absurd same deinitializes).symm

theorem correct_fresh_iff (calls : List AudioAction) :
    Correct .fresh calls ↔ Reinitialized calls := by
  induction calls with
  | nil =>
      refine iff_of_true (show AudioPhase.fresh ≠ .released by decide) ?_
      intro before after shape
      cases (List.append_eq_nil_iff.mp shape.symm).2
  | cons action rest ih =>
      have step : Correct .fresh (action :: rest) ↔ Correct (phaseNext .fresh action) rest :=
        and_iff_right (not_misuses_of_ne (by decide))
      rw [Reinitialized, forall_split_cons, step]
      have atHead : action = .AudioStream_Deinit → AudioAction.AudioStream_Init ∈ [] →
          rest.head? = some .AudioStream_Init := fun _ initialized => by cases initialized
      rw [and_iff_right atHead]
      by_cases initializes : action = .AudioStream_Init
      · subst initializes
        have inFront (before : List AudioAction) :
            AudioAction.AudioStream_Init ∈ .AudioStream_Init :: before := List.mem_cons_self
        simp only [inFront, forall_true_left]
        exact correct_ready_iff rest
      · have stays : phaseNext .fresh action = .fresh := by
          cases action with
          | AudioStream_Init => exact absurd rfl initializes
          | AudioStream_Deinit => rfl
          | AudioStream_Run => rfl
          | AudioStream_Task received => rfl
        have inFront (before : List AudioAction) :
            AudioAction.AudioStream_Init ∈ action :: before ↔ .AudioStream_Init ∈ before := by
          rw [List.mem_cons, or_iff_right fun same => initializes same.symm]
        simp only [inFront]
        rw [stays]
        exact ih

/-- After any sequence of calls the flag tells whether the objects are alive, and
none was used or released behind its release, exactly when each
deinitialization of an initialized stream is followed by an initialization at
once. -/
theorem audioStream_flag_iff (calls : List AudioAction) :
    FlagHolds (audioRun calls) ↔ Reinitialized calls := by
  rw [← correct_fresh_iff]
  exact flagHolds_iff_correct shows_initial rfl calls

/-- The second deinitialization releases all objects again. -/
theorem audioStream_flag_not_kept : ¬ ∀ calls, FlagHolds (audioRun calls) := by
  intro always
  have holds := always [.AudioStream_Init, .AudioStream_Deinit, .AudioStream_Deinit]
  exact absurd holds.clean (by decide +kernel)

end Tasks
end ToothVoca
