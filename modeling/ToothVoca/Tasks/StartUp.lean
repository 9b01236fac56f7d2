import ToothVoca.Display.Screen
import ToothVoca.Tasks.AudioStream

namespace ToothVoca
namespace Tasks

open Library Display

/-!
# From power on (`main.c`, `lcd_touch.c`, `audio_stream.c`)

`app_init` initializes the display, the touch panel and the audio stream, and starts
the tasks last.  What the libraries answer is given from outside; an error within
`ESP_ERROR_CHECK`, and an allocation that is used without a check, stop the program.
The fill of the screen in `LcdTouch_InitDisplay` is checked by nobody: where nothing
is granted for it, the memory of the controller stays what its reset left.

Of the six creations of `AudioStream_Init` only the first is asserted.  Behind another
one that fails the library is called with a handle that is NULL, and where it returns
from these calls the flag is set all the same.

`ScreenKept` is what the tasks can rely on from there on, whatever they call.
-/

/-- There is no result behind an error. -/
def ESP_ERROR_CHECK (ok : Bool) : Option Unit :=
  if ok then some () else none

/-- There is no result behind a failed assertion. -/
def mem_assert (granted : Bool) : Option Unit :=
  if granted then some () else none

/-- There is no result behind a wait without an end. -/
def periph_wifi_wait_for_connected (returned : Bool) : Option Unit :=
  if returned then some () else none

def LT_PIN_NUM_LCD_RST : Int := 6

/-- What is met while the display is initialized: the answers of the libraries, the
controller behind its reset, and the commands that are sent. -/
structure DisplayOutcomes (lcd : LcdController) where
  gpio_config : Bool
  spi_bus_initialize : Bool
  esp_lcd_new_panel_io_spi : Bool
  driverGranted : Bool
  resetConfigured : Bool
  controller : lcd.State
  init : Sent
  mirror : Sent
  disp_on_off : Sent
  granted : Granted
  fill : Nat → Sent

def panel_config : esp_lcd_panel_dev_config_t where
  reset_gpio_num := LT_PIN_NUM_LCD_RST
  bgr := some true
  bits_per_pixel := 16
  init_cmds := none

inductive TouchCallback where
  | Task_TouchCallback
deriving DecidableEq, Repr

/-- The globals of `lcd_touch.c` that the initialization sets. -/
structure LcdTouchGlobals (lcd : LcdController) where
  screen : ScreenPanel lcd
  isInitDisplay : Bool
  s_touch_callback_f : Option TouchCallback

section Start

variable {lcd : LcdController}

/-- The display with its light behind the initialization. -/
def LcdTouch_InitDisplay (outcomes : DisplayOutcomes lcd) (s_backgroud_color : UInt16) :
    Option (LcdTouchGlobals lcd) := do
  ESP_ERROR_CHECK outcomes.gpio_config
  ESP_ERROR_CHECK outcomes.spi_bus_initialize
  ESP_ERROR_CHECK outcomes.esp_lcd_new_panel_io_spi
  let ili9341 ← (esp_lcd_new_panel_ili9341 outcomes.driverGranted outcomes.resetConfigured
    panel_config).toOption
  let initialized ← panel_ili9341_init (⟨ili9341, outcomes.controller⟩ : Panel lcd) outcomes.init
  ESP_ERROR_CHECK initialized.1
  let mirrored := panel_ili9341_mirror initialized.2 outcomes.mirror true false
  ESP_ERROR_CHECK mirrored.1
  let switched := panel_ili9341_disp_on_off mirrored.2 outcomes.disp_on_off false
  ESP_ERROR_CHECK switched.1
  let filled := LcdToudh_FillBackground outcomes.granted s_backgroud_color LT_BACKGROUND_COLOR
  let panel ← transferAll switched.2 outcomes.fill filled.transfers
  return {
    screen := ⟨panel, false, filled.s_backgroud_color⟩
    isInitDisplay := true
    s_touch_callback_f := none }

/-- What is met while the touch panel is initialized. -/
structure TouchOutcomes where
  spi_bus_initialize : Bool
  esp_lcd_new_panel_io_spi : Bool
  heap_caps_calloc : Bool
  gpio_config : Bool
  gpio_install_isr_service : Bool
  gpio_intr_enable : Bool
  gpio_isr_handler_add : Bool

/-- The registration of the interrupt, for a pin that is selected.  A service that was
installed before counts as installed. -/
def esp_lcd_touch_register_interrupt_callback (outcomes : TouchOutcomes) : Bool :=
  outcomes.gpio_install_isr_service && outcomes.gpio_intr_enable && outcomes.gpio_isr_handler_add

def LcdTouch_InitTouchPanel (outcomes : TouchOutcomes) : Option Unit := do
  ESP_ERROR_CHECK outcomes.spi_bus_initialize
  ESP_ERROR_CHECK outcomes.esp_lcd_new_panel_io_spi
  -- The handle is written through without a check, which stops at NULL as an assertion does.
  mem_assert outcomes.heap_caps_calloc
  ESP_ERROR_CHECK outcomes.gpio_config
  ESP_ERROR_CHECK (esp_lcd_touch_register_interrupt_callback outcomes)

def LcdTouch_Init (display : DisplayOutcomes lcd) (touch : TouchOutcomes)
    (s_backgroud_color : UInt16) : Option (LcdTouchGlobals lcd) := do
  let globals ← LcdTouch_InitDisplay display s_backgroud_color
  LcdTouch_InitTouchPanel touch
  return globals

def LcdTouch_SetTouchCallback (callback : Option TouchCallback) (before : LcdTouchGlobals lcd) :
    LcdTouchGlobals lcd :=
  { before with s_touch_callback_f := callback }

/-- What is met while the audio stream is initialized: the creations that succeed, the
calls from which the library returns although it is given a handle that is NULL, and
whether it returns from the calls for the connection.  Without a connection it does
not, and where the handle of the connection is NULL that is up to the library. -/
structure AudioOutcomes where
  created : AudioHandle → Bool
  returnsFromNull : AdfCall → Bool
  wifiReturned : Bool

/-- A creation that fails creates nothing, and its handle is NULL. -/
def AudioOutcomes.accesses (outcomes : AudioOutcomes) (call : AdfCall) :
    List (Lifetime.Access AudioHandle) :=
  call.accesses.filter fun
    | .create handle => outcomes.created handle
    | .use _ | .release _ => true

/-- One of the handles of a call is NULL. -/
def AdfCall.meetsNull (call : AdfCall) (store : Lifetime.Store AudioHandle) : Bool :=
  call.accesses.any fun
    | .create _ => false
    | .use handle | .release handle => (store.handles handle).isNone

/-- Calls one after the other.  There is no result where the library stops the program. -/
def AudioOutcomes.performAll (outcomes : AudioOutcomes) (before : AudioState) :
    List AdfCall → Option AudioState
  | [] => some before
  | call :: rest =>
      if call.meetsNull before.store && !outcomes.returnsFromNull call then none
      else
        outcomes.performAll
          { before with store := before.store.accessAll (outcomes.accesses call) } rest

/-- `AudioStream_Init`, which waits for the connection between two of its calls. -/
def AudioOutcomes.AudioStream_Init (outcomes : AudioOutcomes) : Option AudioState := do
  let allocated ← outcomes.performAll .initial [.audio_pipeline_init]
  mem_assert (outcomes.created .pipeline)
  let started ← outcomes.performAll allocated
    [.http_stream_init, .mp3_decoder_init, .i2s_stream_init,
      .audio_pipeline_register .http_stream_reader, .audio_pipeline_register .mp3_decoder,
      .audio_pipeline_register .i2s_stream_writer, .audio_pipeline_link,
      .audio_element_set_uri .http_stream_reader, .esp_periph_set_init, .esp_periph_start]
  periph_wifi_wait_for_connected outcomes.wifiReturned
  let listening ← outcomes.performAll started
    [.audio_event_iface_init, .audio_pipeline_set_listener, .esp_periph_set_get_event_iface,
      .audio_event_iface_set_listener]
  return { listening with s_isInitAudioStream := true }

/-- What is met in `app_init`. -/
structure AppOutcomes (lcd : LcdController) where
  nvsNoFreePages : Bool
  nvs_flash_erase : Bool
  esp_netif_init : Bool
  display : DisplayOutcomes lcd
  touch : TouchOutcomes
  audio : AudioOutcomes

/-- The globals that the tasks find. -/
structure TaskGlobals (lcd : LcdController) extends LcdTouchGlobals lcd where
  audio : AudioState

/-- `Task_Init` up to the creation of the tasks.  A task whose creation fails does not
run. -/
def Task_Init (globals : TaskGlobals lcd) : TaskGlobals lcd :=
  { globals with
    toLcdTouchGlobals := LcdTouch_SetTouchCallback (some .Task_TouchCallback)
      globals.toLcdTouchGlobals }

/-- The result of `nvs_flash_init` is looked at for one error only, and its second one
not at all. -/
def app_init (outcomes : AppOutcomes lcd) : Option (TaskGlobals lcd) := do
  ESP_ERROR_CHECK (!outcomes.nvsNoFreePages || outcomes.nvs_flash_erase)
  ESP_ERROR_CHECK outcomes.esp_netif_init
  let globals ← LcdTouch_Init outcomes.display outcomes.touch 0x0000
  let audio ← outcomes.audio.AudioStream_Init
  return Task_Init ⟨globals, audio⟩

end Start

/-! ## What is kept -/

/-- The orientation of the source. -/
def mirrored : Orientation :=
  ⟨true, false, false⟩

section Kept

variable {lcd : LcdController} {font : UInt32 → Option FontImage} {before after : ScreenPanel lcd}
  {filled on : Bool} {sent : Nat → Sent}

/-- The screen behind any calls: `filled` says that a fill was granted so far, and `on`
what was switched last. -/
structure ScreenKept (state : ScreenPanel lcd) (filled on : Bool) : Prop where
  plain : state.panel.Plain
  requested : state.panel.view.requested = mirrored
  shown : state.panel.view.shown = mirrored
  awake : state.panel.view.awake = true
  displayOn : state.panel.view.on = on
  backLight : state.backLight = on
  background : state.s_backgroud_color = LT_BACKGROUND_COLOR
  colours : filled = true → ∀ cell, OnScreen (state.panel.view.place cell) →
    state.panel.view.memory cell = LT_FONT_COLOR ∨
      state.panel.view.memory cell = LT_BACKGROUND_COLOR

def fills : ScreenCall → Bool
  | .LcdTouch_ResetBackground granted => decide (granted = ⟨true, true⟩)
  | _ => false

/-- Behind a fill every cell on the screen has the colour of the background. -/
theorem paintCells_fill {place : lcd.Cell → Nat × Nat} (memory : lcd.Cell → UInt16)
    {cell : lcd.Cell} (onScreen : OnScreen (place cell)) :
    Raster.paintCells place memory [screenStamp LT_BACKGROUND_COLOR] cell =
      LT_BACKGROUND_COLOR :=
  Raster.paint_covered (fun _ _ => memory cell) (screenStamp_covers LT_BACKGROUND_COLOR onScreen)

/-- What a call paints behind a fill, and what it paints as a fill. -/
theorem colours_call (font : UInt32 → Option FontImage) {place : lcd.Cell → Nat × Nat}
    {memory : lcd.Cell → UInt16} {cell : lcd.Cell} (onScreen : OnScreen (place cell))
    (call : ScreenCall)
    (colours : fills call = false →
      memory cell = LT_FONT_COLOR ∨ memory cell = LT_BACKGROUND_COLOR) :
    Raster.paintCells place memory (callStamps font LT_BACKGROUND_COLOR call) cell =
        LT_FONT_COLOR ∨
      Raster.paintCells place memory (callStamps font LT_BACKGROUND_COLOR call) cell =
        LT_BACKGROUND_COLOR := by
  cases call with
  | LcdTouch_ResetBackground granted =>
      by_cases all : granted = ⟨true, true⟩
      · rw [callStamps, if_pos all]
        exact Or.inr (paintCells_fill memory onScreen)
      · rw [callStamps, if_neg all]
        exact colours (decide_eq_false all)
  | LcdTouch_DrawString text behind x y granted =>
      apply Raster.paintAll_forall
        fun color => color = LT_FONT_COLOR ∨ color = LT_BACKGROUND_COLOR
      · exact colours rfl
      · exact twoColours_textStamps LT_BACKGROUND_COLOR granted 0 _
  | LcdTouch_TurnOn | LcdTouch_TurnOff => exact colours rfl

/-- One call. -/
theorem ScreenKept.step (kept : ScreenKept before filled on) {call : ScreenCall}
    (called : Called font before after call) :
    ScreenKept after (fills call || filled) (switched on call) := by
  have view := called.view
  rw [kept.background] at view
  refine ⟨called.plain, ?_, ?_, ?_, ?_, ?_, ?_, ?_⟩
  · rw [view]
    exact kept.requested
  · rw [view]
    exact kept.shown
  · rw [view]
    exact kept.awake
  · rw [view, ← kept.displayOn]
  · rw [called.backLight, kept.backLight]
  · rw [called.s_backgroud_color, kept.background]
  · rw [view]
    intro begun cell onScreen
    apply colours_call font onScreen call
    intro other
    rw [other, Bool.false_or] at begun
    exact kept.colours begun cell onScreen

/-- Any sequence of calls. -/
theorem ScreenKept.run (kept : ScreenKept before filled on) (documented : lcd.Documented)
    (sized : SizedFont (shapeOf font)) {actions : List (ScreenCall × (Nat → Sent))}
    (fits : ∀ action ∈ actions, action.1.Fits)
    (executed : Transition.run (screenPanelNext font) before actions = some after) :
    ScreenKept after (filled || actions.any fun action => fills action.1)
      ((actions.map Prod.fst).foldl switched on) := by
  induction actions generalizing before filled on with
  | nil =>
      cases executed
      rw [List.any_nil, Bool.or_false]
      exact kept
  | cons action rest ih =>
      rw [List.forall_mem_cons] at fits
      rw [Transition.run, Option.bind_eq_some_iff] at executed
      rcases executed with ⟨middle, moved, executed⟩
      have called := screenPanelNext_called documented sized kept.plain fits.1 moved
      have later := ih (kept.step called) fits.2 executed
      rwa [Bool.or_comm (fills action.1), Bool.or_assoc] at later

end Kept

/-! ## The audio stream -/

namespace AudioOutcomes

variable {outcomes : AudioOutcomes} {before after : AudioState}

/-- Calls that return have made their accesses. -/
theorem performAll_store {calls : List AdfCall}
    (performed : outcomes.performAll before calls = some after) :
    after = { before with
      store := before.store.accessAll (calls.flatMap outcomes.accesses) } := by
  induction calls generalizing before with
  | nil =>
      cases performed
      rfl
  | cons call rest ih =>
      rw [performAll] at performed
      split at performed
      · cases performed
      · rw [ih performed, List.flatMap_cons, Lifetime.Store.accessAll, Lifetime.Store.accessAll,
          Lifetime.Store.accessAll, List.foldl_append]

theorem performAll_append {middle : AudioState} {first second : List AdfCall}
    (begun : outcomes.performAll before first = some middle)
    (ended : outcomes.performAll middle second = some after) :
    outcomes.performAll before (first ++ second) = some after := by
  induction first generalizing before with
  | nil =>
      cases begun
      exact ended
  | cons call rest ih =>
      rw [performAll] at begun
      rw [List.cons_append, performAll]
      split at begun
      · cases begun
      · rename_i returns
        rw [if_neg returns]
        exact ih begun

theorem flatMap_accesses (outcomes : AudioOutcomes) (calls : List AdfCall) :
    calls.flatMap outcomes.accesses = (calls.flatMap AdfCall.accesses).filter fun
      | .create handle => outcomes.created handle
      | .use _ | .release _ => true := by
  rw [List.filter_flatMap]
  rfl

/-- An initialization that returns has made its accesses, and has set the flag. -/
theorem AudioStream_Init_store {audio : AudioState}
    (begun : outcomes.AudioStream_Init = some audio) :
    audio = ⟨Lifetime.Store.initial.accessAll
      (Tasks.AudioStream_Init.flatMap outcomes.accesses), true⟩ := by
  simp only [AudioOutcomes.AudioStream_Init, Option.bind_eq_bind, Option.bind_eq_some_iff]
    at begun
  rcases begun with ⟨allocated, first, _, _, started, second, _, _, listening, third, result⟩
  have whole : outcomes.performAll .initial Tasks.AudioStream_Init = some listening :=
    performAll_append first (performAll_append second third)
  cases result
  rw [performAll_store whole]
  rfl

/-- What `AudioStream_Init` leaves: the flag is set, and alive is what was created.  So
the flag is right exactly when every creation succeeded. -/
structure Started (outcomes : AudioOutcomes) (audio : AudioState) : Prop where
  flag : audio.s_isInitAudioStream = true
  alive : audio.store.alive = outcomes.created
  holds : FlagHolds audio ↔ ∀ handle, outcomes.created handle = true

theorem AudioStream_Init_started {audio : AudioState}
    (begun : outcomes.AudioStream_Init = some audio) : outcomes.Started audio := by
  have spec := Lifetime.Store.accessAll_spec Lifetime.Store.distinct_initial
    (Tasks.AudioStream_Init.flatMap outcomes.accesses)
  have every (handle : AudioHandle) :
      .create handle ∈ Tasks.AudioStream_Init.flatMap AdfCall.accesses := by
    cases handle <;> decide
  have kept : ∀ handle, .release handle ∉ Tasks.AudioStream_Init.flatMap AdfCall.accesses := by
    intro handle
    cases handle <;> decide
  have created : (Lifetime.Store.initial.accessAll
      (Tasks.AudioStream_Init.flatMap outcomes.accesses)).alive = outcomes.created := by
    rw [spec.2.1, flatMap_accesses]
    funext handle
    rw [Lifetime.aliveAfter_created, Lifetime.Store.alive_of_none rfl, Bool.false_or]
    · simp only [List.mem_filter, every handle, true_and, Bool.decide_eq_true]
    · intro member
      exact kept handle (List.mem_filter.mp member).1
  rw [AudioStream_Init_store begun]
  refine ⟨rfl, created, ?_⟩
  constructor
  · intro holds handle
    have alive := holds.flag.mp rfl handle
    rwa [created] at alive
  · intro all
    refine ⟨iff_of_true rfl ?_, ?_⟩
    · rw [created]
      exact all
    · have nothing : (Tasks.AudioStream_Init.flatMap AdfCall.accesses).filter (fun
          | .create handle => outcomes.created handle
          | .use _ | .release _ => true) = Tasks.AudioStream_Init.flatMap AdfCall.accesses := by
        rw [List.filter_eq_self]
        rintro (handle | handle | handle) _
        · exact all handle
        · rfl
        · rfl
      rw [spec.2.2, flatMap_accesses, nothing]
      rfl

end AudioOutcomes

/-! ## From power on -/

section PowerOn

variable {lcd : LcdController}

theorem ESP_ERROR_CHECK_passed {ok : Bool} {result : Unit}
    (passed : ESP_ERROR_CHECK ok = some result) : ok = true := by
  cases ok with
  | true => rfl
  | false => cases passed

theorem panel_config_created {granted gpioConfigured : Bool} {ili9341 : ili9341_panel_t}
    (created : (esp_lcd_new_panel_ili9341 granted gpioConfigured panel_config).toOption =
      some ili9341) : ili9341 = ⟨0, 0, 16, LCD_CMD_BGR_BIT, 0x55, none⟩ := by
  cases granted with
  | false => cases created
  | true =>
      cases gpioConfigured with
      | false => cases created
      | true =>
          cases created
          rfl

/-- The panel in front of its first fill. -/
theorem initialized_kept (documented : lcd.Documented) {controller : lcd.State}
    {initSent mirrorSent offSent : Sent} {panel : Panel lcd}
    (initialized : panel_ili9341_init ⟨⟨0, 0, 16, LCD_CMD_BGR_BIT, 0x55, none⟩, controller⟩
      initSent = some (true, panel))
    (oriented : (panel_ili9341_mirror panel mirrorSent true false).1 = true)
    (off : (panel_ili9341_disp_on_off (panel_ili9341_mirror panel mirrorSent true false).2
      offSent false).1 = true) :
    ScreenKept ⟨(panel_ili9341_disp_on_off (panel_ili9341_mirror panel mirrorSent true false).2
      offSent false).2, false, LT_BACKGROUND_COLOR⟩ false false := by
  have driver : panel.ili9341 = ⟨0, 0, 16, LCD_CMD_BGR_BIT, 0x55, none⟩ := by
    rw [panel_ili9341_init] at initialized
    split at initialized
    · exact initLoop_same tableCommand_default initialized
    · cases initialized
  have table : ∀ init_cmd ∈ vendor_specific_init_default, TableCommand init_cmd :=
    fun init_cmd member => Or.inl (tableCommand_default init_cmd member)
  rcases panel_ili9341_init_ready documented rfl rfl (by exact table) initialized with
    ⟨ready, _, awake⟩
  rcases bits_mirror panel.ili9341.madctl_val true false with ⟨orientation, bgr⟩
  rcases sendMadctl_view documented ready mirrorSent bgr with ⟨answered, follows⟩
  have sentMirror : mirrorSent 0 = true := answered.symm.trans oriented
  have sentOff : offSent 0 = true := by
    rwa [panel_ili9341_disp_on_off, txParams_single] at off
  have asked : orientationOf panel.ili9341.madctl_val = ⟨false, false, false⟩ := by
    rw [driver]
    decide
  have follows' := panel_ili9341_disp_on_off_view documented follows.ready offSent false
  rw [follows.view, sentMirror, sentOff, orientation, asked] at follows'
  have view := follows'.view
  have plain : (panel_ili9341_disp_on_off (panel_ili9341_mirror panel mirrorSent true false).2
      offSent false).2.Plain := by
    refine ⟨follows'.ready, ?_, ?_⟩
    · show panel.ili9341.x_gap = 0
      rw [driver]
    · show panel.ili9341.y_gap = 0
      rw [driver]
  exact ⟨plain, congrArg PanelView.requested view, congrArg PanelView.shown view,
    (congrArg PanelView.awake view).trans awake, congrArg PanelView.on view, rfl, rfl,
    fun impossible => by cases impossible⟩

/-- A display that is initialized was filled last. -/
theorem LcdTouch_InitDisplay_fills (documented : lcd.Documented) {outcomes : DisplayOutcomes lcd}
    {globals : LcdTouchGlobals lcd}
    (initialized : LcdTouch_InitDisplay outcomes LT_BACKGROUND_COLOR = some globals) :
    let filled := LcdToudh_FillBackground outcomes.granted LT_BACKGROUND_COLOR LT_BACKGROUND_COLOR
    ∃ unfilled : Panel lcd, ScreenKept ⟨unfilled, false, LT_BACKGROUND_COLOR⟩ false false ∧
      transferAll unfilled outcomes.fill filled.transfers = some globals.screen.panel ∧
      globals = ⟨⟨globals.screen.panel, false, filled.s_backgroud_color⟩, true, none⟩ := by
  rcases Option.bind_eq_some_iff.mp initialized with ⟨_, _, initialized⟩
  rcases Option.bind_eq_some_iff.mp initialized with ⟨_, _, initialized⟩
  rcases Option.bind_eq_some_iff.mp initialized with ⟨_, _, initialized⟩
  rcases Option.bind_eq_some_iff.mp initialized with ⟨ili9341, created, initialized⟩
  rcases Option.bind_eq_some_iff.mp initialized with ⟨⟨ok, panel⟩, begun, initialized⟩
  rcases Option.bind_eq_some_iff.mp initialized with ⟨_, passed, initialized⟩
  rcases Option.bind_eq_some_iff.mp initialized with ⟨_, oriented, initialized⟩
  rcases Option.bind_eq_some_iff.mp initialized with ⟨_, off, initialized⟩
  rcases Option.bind_eq_some_iff.mp initialized with ⟨filledPanel, returned, result⟩
  rw [panel_config_created created, show ok = true from ESP_ERROR_CHECK_passed passed] at begun
  have kept := initialized_kept documented begun (ESP_ERROR_CHECK_passed oriented)
    (ESP_ERROR_CHECK_passed off)
  cases result
  exact ⟨_, kept, returned, rfl⟩

/-- The first fill is a call of `LcdTouch_ResetBackground`, whether or not it is
granted. -/
theorem LcdTouch_InitDisplay_called (documented : lcd.Documented)
    (font : UInt32 → Option FontImage) {outcomes : DisplayOutcomes lcd}
    {globals : LcdTouchGlobals lcd}
    (initialized : LcdTouch_InitDisplay outcomes LT_BACKGROUND_COLOR = some globals) :
    ∃ unfilled : ScreenPanel lcd, ScreenKept unfilled false false ∧
      Called font unfilled globals.screen (.LcdTouch_ResetBackground outcomes.granted) := by
  rcases LcdTouch_InitDisplay_fills documented initialized with ⟨unfilled, kept, returned, shape⟩
  refine ⟨⟨unfilled, false, LT_BACKGROUND_COLOR⟩, kept, ?_⟩
  have moved : screenPanelNext font ⟨unfilled, false, LT_BACKGROUND_COLOR⟩
      (.LcdTouch_ResetBackground outcomes.granted, outcomes.fill) = some globals.screen := by
    rw [shape]
    exact congrArg (Option.map _) returned
  exact called_reset documented kept.plain moved

theorem LcdTouch_InitDisplay_kept (documented : lcd.Documented) {outcomes : DisplayOutcomes lcd}
    {globals : LcdTouchGlobals lcd}
    (initialized : LcdTouch_InitDisplay outcomes LT_BACKGROUND_COLOR = some globals) :
    ScreenKept globals.screen (decide (outcomes.granted = ⟨true, true⟩)) false := by
  rcases LcdTouch_InitDisplay_called documented (fun _ => none) initialized with
    ⟨unfilled, kept, called⟩
  have filled := kept.step called
  rwa [Bool.or_false] at filled

/-- Where the first fill is granted, the screen shows the background. -/
theorem LcdTouch_InitDisplay_blank (documented : lcd.Documented) {outcomes : DisplayOutcomes lcd}
    {globals : LcdTouchGlobals lcd}
    (initialized : LcdTouch_InitDisplay outcomes LT_BACKGROUND_COLOR = some globals)
    (all : outcomes.granted = ⟨true, true⟩) : ShowsStamps globals.screen [] := by
  rcases LcdTouch_InitDisplay_called documented (fun _ => none) initialized with
    ⟨unfilled, kept, called⟩
  have place := (SameSettings.of_called called).place
  have memory := congrArg PanelView.memory called.view
  refine ⟨called.plain, ?_⟩
  intro cell onScreen
  rw [place] at onScreen
  rw [callStamps, if_pos all] at memory
  rw [memory, called.s_backgroud_color]
  exact Raster.paint_covered (fun _ _ => unfilled.panel.view.memory cell)
    (screenStamp_covers unfilled.s_backgroud_color onScreen)

/-- What `app_init` leaves to the tasks. -/
theorem app_init_globals {outcomes : AppOutcomes lcd} {globals : TaskGlobals lcd}
    (documented : lcd.Documented) (begun : app_init outcomes = some globals) :
    globals.isInitDisplay = true ∧
      globals.s_touch_callback_f = some .Task_TouchCallback ∧
      outcomes.audio.Started globals.audio ∧
      ∃ display, LcdTouch_InitDisplay outcomes.display LT_BACKGROUND_COLOR = some display ∧
        globals.screen = display.screen := by
  rcases Option.bind_eq_some_iff.mp begun with ⟨_, _, begun⟩
  rcases Option.bind_eq_some_iff.mp begun with ⟨_, _, begun⟩
  rcases Option.bind_eq_some_iff.mp begun with ⟨lcdTouch, initialized, begun⟩
  rcases Option.bind_eq_some_iff.mp begun with ⟨audio, started, result⟩
  rcases Option.bind_eq_some_iff.mp initialized with ⟨display, displayed, initialized⟩
  rcases Option.bind_eq_some_iff.mp initialized with ⟨_, _, same⟩
  rcases LcdTouch_InitDisplay_fills documented displayed with ⟨_, _, _, shape⟩
  cases result
  cases same
  refine ⟨?_, rfl, AudioOutcomes.AudioStream_Init_started started, _, displayed, rfl⟩
  exact congrArg LcdTouchGlobals.isInitDisplay shape

/-- From power on, whatever is answered while the program starts, the tasks find the
display and the callback of the touch panel initialized, or do not run; the flag of the
audio stream is set then, and it is right exactly when every creation succeeded.  Behind
any sequence of calls that they make the panel is awake and mirrored as it was asked for,
it is on exactly while its light is, as it was switched last, and from the first granted
fill on nothing is seen but the colours of the font and the background. -/
theorem screen_from_power_on (documented : lcd.Documented) {font : UInt32 → Option FontImage}
    (sized : SizedFont (shapeOf font)) {outcomes : AppOutcomes lcd} {globals : TaskGlobals lcd}
    (begun : app_init outcomes = some globals) {actions : List (ScreenCall × (Nat → Sent))}
    (fits : ∀ action ∈ actions, action.1.Fits) {after : ScreenPanel lcd}
    (executed : Transition.run (screenPanelNext font) globals.screen actions = some after) :
    globals.isInitDisplay = true ∧ globals.s_touch_callback_f = some .Task_TouchCallback ∧
      outcomes.audio.Started globals.audio ∧
      ScreenKept after
        (decide (outcomes.display.granted = ⟨true, true⟩) ||
          actions.any fun action => fills action.1)
        ((actions.map Prod.fst).foldl switched false) := by
  rcases app_init_globals documented begun with
    ⟨display, callback, audio, globals', displayed, same⟩
  rw [same] at executed
  exact ⟨display, callback, audio,
    (LcdTouch_InitDisplay_kept documented displayed).run documented sized fits executed⟩

end PowerOn

/-- A start in which everything succeeds, apart from what is granted for the first fill
and the creation of the event interface. -/
def succeedingStart (granted : Granted) (evt : Bool) : AppOutcomes ILI9341 where
  nvsNoFreePages := true
  nvs_flash_erase := true
  esp_netif_init := true
  display := ⟨true, true, true, true, true, resetState fun cell => UInt16.ofNat cell.1,
    fun _ => true, fun _ => true, fun _ => true, granted, fun _ _ => true⟩
  touch := ⟨true, true, true, true, true, true, true⟩
  audio := ⟨fun handle => handle != .evt || evt, fun _ => true, true⟩

set_option maxRecDepth 8000 in
theorem app_init_succeeding (granted : Granted) (evt : Bool) :
    ∃ globals, app_init (succeedingStart granted evt) = some globals := by
  rcases granted with ⟨buffer, semaphore⟩
  cases buffer <;> cases semaphore <;> cases evt <;> exact ⟨_, rfl⟩

/-- The display is switched on and then reset. -/
def firstCalls : List (ScreenCall × (Nat → Sent)) :=
  [(.LcdTouch_TurnOn, fun _ _ => true),
    (.LcdTouch_ResetBackground ⟨true, true⟩, fun _ _ => true)]

set_option maxRecDepth 8000 in
/-- A start without its first fill, and without an event interface. -/
theorem screen_from_power_on_unfilled :
    ∃ globals after, app_init (succeedingStart ⟨false, true⟩ false) = some globals ∧
      Transition.run (screenPanelNext barFont) globals.screen firstCalls = some after ∧
      (succeedingStart ⟨false, true⟩ false).audio.Started globals.audio ∧
      ScreenKept after true true := by
  have fits : ∀ action ∈ firstCalls, action.1.Fits := by
    unfold firstCalls
    rw [List.forall_mem_cons, List.forall_mem_singleton]
    exact ⟨True.intro, True.intro⟩
  rcases app_init_succeeding ⟨false, true⟩ false with ⟨globals, begun⟩
  have executed : ∃ after, Transition.run (screenPanelNext barFont) globals.screen firstCalls =
      some after := ⟨_, rfl⟩
  rcases executed with ⟨after, executed⟩
  exact ⟨globals, after, begun, executed,
    (screen_from_power_on ILI9341_documented barFont_sized begun fits executed).2.2⟩

end Tasks
end ToothVoca
