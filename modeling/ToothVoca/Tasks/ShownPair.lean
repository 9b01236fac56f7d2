import ToothVoca.Display.Screen
import ToothVoca.Tasks.MainTask
import ToothVoca.Tasks.TimeRedraw
import ToothVoca.Tasks.UpdateScreen

namespace ToothVoca
namespace Tasks

open Library Network Display

/-!
# From a response to the screen (`task.c`)

The main task fetches a pair and writes it into `ScreenData`, and the screen task reads
the strings, their positions and the three flags out of the same memory and draws.
Here the two run one behind the other: an iteration of `Task_MainTask`, with the reset
of the background that it calls, and then `Task_UpdateScreen`.

The string of a field is what stands in memory from its address on, and a position is
four bytes of it.  That the right bytes stand there is a fact about the publication;
what they become on the panel is a fact about the drawing.
-/

namespace ScreenData

/-- The size of the structure. -/
def size : Nat := time_y + 4

/-- A `uint32_t`, low byte first. -/
def coordinate (screenData : Nat → UInt8) (address : Nat) : UInt32 :=
  UInt32.ofNat ((screenData address).toNat + 256 * ((screenData (address + 1)).toNat +
    256 * ((screenData (address + 2)).toNat + 256 * (screenData (address + 3)).toNat)))

end ScreenData

namespace Field

def flagAddress : Field → Nat
  | .word => ScreenData.isNewWord
  | .sentence => ScreenData.isNewSentence
  | .time => ScreenData.isNewTime

def textAddress : Field → Nat
  | .word => ScreenData.word
  | .sentence => ScreenData.sentence
  | .time => ScreenData.time

def xAddress : Field → Nat
  | .word => ScreenData.word_x
  | .sentence => ScreenData.sentence_x
  | .time => ScreenData.time_x

def yAddress : Field → Nat
  | .word => ScreenData.word_y
  | .sentence => ScreenData.sentence_y
  | .time => ScreenData.time_y

end Field

/-- `s_wordData` as its initializer leaves it. -/
def ScreenData.initial : Nat → UInt8 :=
  RawMemory.apply 0 [(word_x, 10), (word_y, 10), (sentence_x, 10), (sentence_y, 60),
    (time_x, 150), (time_y, 200)] fun _ => 0

structure ShownState (lcd : LcdController) where
  main : MainState
  screen : ScreenPanel lcd

section Tasks

variable {lcd : LcdController} (font : UInt32 → Option FontImage)

/-- One iteration of `Task_MainTask` up to its delay, with the reset on the panel. -/
def mainIteration (layer : SocketLayer) (granted : Granted) (sent : Nat → Sent)
    (before : ShownState lcd) : Option (ShownState lcd) :=
  let iteration := Task_MainTask layer before.main
  if MainCall.LcdTouch_ResetBackground ∈ iteration.2 then
    (screenPanelNext font before.screen (.LcdTouch_ResetBackground granted, sent)).map
      fun screen => ⟨iteration.1, screen⟩
  else some ⟨iteration.1, before.screen⟩

/-- One of the three blocks of `Task_UpdateScreen`. -/
def updateField (field : Field) (granted : Nat → Granted) (sent : Nat → Sent)
    (before : ShownState lcd) : Option (ShownState lcd) :=
  let screenData := before.main.screenData
  if screenData field.flagAddress = 0 then some before
  else
    (LcdTouch_DrawString_results font before.screen.s_backgroud_color true granted
      (RawMemory.span screenData field.textAddress (ScreenData.size - field.textAddress))
      (ScreenData.coordinate screenData field.xAddress)
      (ScreenData.coordinate screenData field.yAddress)).bind fun results =>
        (transferAll before.screen.panel sent (results.flatMap DrawTextResult.transfers)).map
          fun panel =>
            { main := { before.main with
                screenData := Function.update screenData field.flagAddress 0 }
              screen := { before.screen with panel := panel } }

def Task_UpdateScreen (granted : Field → Nat → Granted) (sent : Field → Nat → Sent)
    (before : ShownState lcd) : Option (ShownState lcd) := do
  let word ← updateField font .word (granted .word) (sent .word) before
  let sentence ← updateField font .sentence (granted .sentence) (sent .sentence) word
  updateField font .time (granted .time) (sent .time) sentence

end Tasks

/-! ## What stands in memory -/

/-- Where a field is drawn. -/
def Field.start : Field → UInt32 × UInt32
  | .word => (s_wordData.word_x, s_wordData.word_y)
  | .sentence => (s_wordData.sentence_x, s_wordData.sentence_y)
  | .time => (s_wordData.time_x, s_wordData.time_y)

/-- The positions are those of the initializer. -/
def Positioned (screenData : Nat → UInt8) : Prop :=
  ∀ field : Field, ScreenData.coordinate screenData field.xAddress = field.start.1 ∧
    ScreenData.coordinate screenData field.yAddress = field.start.2

/-- A terminated text stands at the address of a field. -/
def HoldsText (screenData : Nat → UInt8) (field : Field) (text : List UInt8) : Prop :=
  Mailbox.Holds 0 (fun index => screenData (field.textAddress + index)) text

theorem positioned_initial : Positioned ScreenData.initial := by
  intro field
  cases field <;> decide +kernel

/-- Bytes that are kept keep a number. -/
theorem coordinate_congr {screenData screenData' : Nat → UInt8} {address : Nat}
    (same : ∀ index < 4, screenData' (address + index) = screenData (address + index)) :
    ScreenData.coordinate screenData' address = ScreenData.coordinate screenData address := by
  have first := same 0 (by decide)
  rw [Nat.add_zero] at first
  rw [ScreenData.coordinate, ScreenData.coordinate, first, same 1 (by decide), same 2 (by decide),
    same 3 (by decide)]

/-- A byte of a position is no byte of a flag or of a published text. -/
theorem position_apart (field : Field) {index : Nat} (small : index < 4) :
    (∀ field' : Field, field.xAddress + index ≠ field'.flagAddress ∧
        field.yAddress + index ≠ field'.flagAddress) ∧
      ¬ ScreenData.Published (field.xAddress + index) ∧
      ¬ ScreenData.Published (field.yAddress + index) := by
  have bounds (field : Field) : (field.xAddress = 104 ∧ field.yAddress = 108) ∨
      (field.xAddress = 372 ∧ field.yAddress = 376) ∨
      (field.xAddress = 404 ∧ field.yAddress = 408) := by
    cases field
    · exact Or.inl ⟨rfl, rfl⟩
    · exact Or.inr (Or.inl ⟨rfl, rfl⟩)
    · exact Or.inr (Or.inr ⟨rfl, rfl⟩)
  have flags (field : Field) :
      field.flagAddress = 0 ∨ field.flagAddress = 112 ∨ field.flagAddress = 380 := by
    cases field
    · exact Or.inl rfl
    · exact Or.inr (Or.inl rfl)
    · exact Or.inr (Or.inr rfl)
  have published (address : Nat) : ScreenData.Published address ↔
      (1 ≤ address ∧ address < 101) ∨ (113 ≤ address ∧ address < 369) ∨ address = 0 ∨
        address = 112 := Iff.rfl
  have place := bounds field
  refine ⟨?_, ?_, ?_⟩
  · intro field'
    have flag := flags field'
    omega
  · rw [published]
    omega
  · rw [published]
    omega

/-- What changes neither flags nor published texts keeps the positions. -/
theorem Positioned.congr {screenData screenData' : Nat → UInt8} (positioned : Positioned screenData)
    (same : ∀ address, (∀ field : Field, address ≠ field.flagAddress) →
      ¬ ScreenData.Published address → screenData' address = screenData address) :
    Positioned screenData' := by
  intro field
  rw [← (positioned field).1, ← (positioned field).2]
  constructor
  · apply coordinate_congr
    intro index small
    have apart := position_apart field small
    exact same _ (fun field' => (apart.1 field').1) apart.2.1
  · apply coordinate_congr
    intro index small
    have apart := position_apart field small
    exact same _ (fun field' => (apart.1 field').2) apart.2.2

/-- A string that is read from a field that holds a text. -/
theorem span_of_holds {screenData : Nat → UInt8} {field : Field} {text : List UInt8}
    (holds : HoldsText screenData field text) (inside : text.length < field.size) :
    ∃ behind, RawMemory.span screenData field.textAddress
      (ScreenData.size - field.textAddress) = text ++ 0 :: behind := by
  have room : field.size ≤ ScreenData.size - field.textAddress := by
    cases field <;> decide
  have held : ∀ index < (text ++ [0]).length,
      (text ++ [0])[index]? = some (screenData (field.textAddress + index)) := by
    intro index below
    rw [List.length_append, List.length_singleton] at below
    exact holds index (Nat.le_of_lt_succ below)
  have whole : (text ++ [0]).length ≤ ScreenData.size - field.textAddress := by
    rw [List.length_append, List.length_singleton]
    omega
  rcases RawMemory.span_of_held held whole with ⟨behind, shape⟩
  refine ⟨behind, ?_⟩
  rw [shape, List.append_assoc, List.singleton_append]

/-! ## The publication -/

/-- The writes of a getter are one block: the string and its terminator. -/
theorem copy_block (source : List UInt8) :
    RawMemory.block 0 (CString.strncpy source (CString.strlen source)) ++
        [(CString.strlen source, 0)] =
      RawMemory.block 0 (CString.content source ++ [0]) := by
  have copied : CString.strncpy source (CString.strlen source) = CString.content source := by
    rw [CString.strncpy, Nat.sub_self, List.replicate_zero, List.append_nil]
    exact List.take_length
  rw [copied, RawMemory.block_append, Nat.zero_add]
  rfl

/-- A copied string stands at its destination. -/
theorem copied_at (source : List UInt8) (base : Nat) (memory : Nat → UInt8) {index : Nat}
    (inside : index ≤ (CString.content source).length) :
    (CString.content source ++ [0])[index]? =
      some (RawMemory.apply base (RawMemory.block 0 (CString.strncpy source
        (CString.strlen source)) ++ [(CString.strlen source, 0)]) memory (base + index)) := by
  have below : index < (CString.content source ++ [0]).length := by
    rw [List.length_append, List.length_singleton]
    exact Nat.lt_succ_of_le inside
  have value := RawMemory.apply_block base 0 (List.getElem?_eq_getElem below) memory
  rw [Nat.zero_add] at value
  rw [copy_block, value]
  exact List.getElem?_eq_getElem below

section Publication

variable {held : WordSentence} (screenData : Nat → UInt8)

/-- Behind a publication that fits both texts stand in their fields, with both flags
set. -/
theorem publish_holds (wordShort : CString.strlen held.word.bytes ≤ 99) :
    HoldsText (publish held screenData) .word (CString.content held.word.bytes) ∧
      HoldsText (publish held screenData) .sentence (CString.content held.sentence.bytes) ∧
      publish held screenData ScreenData.isNewWord = 1 ∧
      publish held screenData ScreenData.isNewSentence = 1 := by
  have addresses : ScreenData.word = 1 ∧ ScreenData.isNewWord = 0 ∧ ScreenData.sentence = 113 ∧
      ScreenData.isNewSentence = 112 := by decide
  rcases addresses with ⟨word, isNewWord, sentence, isNewSentence⟩
  have behind (memory : Nat → UInt8) {address : Nat} (front : address < ScreenData.sentence) :
      RawMemory.apply ScreenData.sentence (ReqWord_GetSentence held) memory address =
        memory address := by
    apply RawMemory.apply_of_not_named
    intro write _ named
    omega
  refine ⟨?_, ?_, ?_, ?_⟩
  · intro index inside
    have bound : index ≤ 99 := Nat.le_trans inside wordShort
    rw [copied_at _ ScreenData.word screenData inside, publish]
    simp only [Field.textAddress]
    rw [Function.update_of_ne (by omega), behind _ (by omega), Function.update_of_ne (by omega)]
    rfl
  · intro index inside
    rw [copied_at _ ScreenData.sentence (Function.update (RawMemory.apply ScreenData.word
      (ReqWord_GetWord held) screenData) ScreenData.isNewWord 1) inside, publish]
    simp only [Field.textAddress]
    rw [Function.update_of_ne (by omega)]
    rfl
  · rw [publish, Function.update_of_ne (by decide), behind _ (by omega), Function.update_self]
  · rw [publish, Function.update_self]

/-- A publication that fits keeps positions and the flag of the time. -/
theorem publish_kept (wordShort : CString.strlen held.word.bytes ≤ 99)
    (sentenceShort : CString.strlen held.sentence.bytes ≤ 255) :
    (Positioned screenData → Positioned (publish held screenData)) ∧
      publish held screenData ScreenData.isNewTime = screenData ScreenData.isNewTime := by
  have frame := publish_frame
    (fun write member => Nat.lt_succ_of_le (Nat.le_trans (ReqWord_GetWord_index member) wordShort))
    (fun write member =>
      Nat.lt_succ_of_le (Nat.le_trans (ReqWord_GetSentence_index member) sentenceShort)) screenData
  constructor
  · intro positioned
    exact positioned.congr fun address _ unpublished => frame address unpublished
  · apply frame
    unfold ScreenData.Published
    decide

end Publication

/-! ## The blocks of the screen task -/

/-- No byte of a text is a flag. -/
theorem text_apart (field field' : Field) {index : Nat} (inside : index < field.size) :
    field.textAddress + index ≠ field'.flagAddress := by
  have place (field : Field) : (field.textAddress = 1 ∧ field.size = 100) ∨
      (field.textAddress = 113 ∧ field.size = 256) ∨
      (field.textAddress = 381 ∧ field.size = 20) := by
    cases field
    · exact Or.inl ⟨rfl, rfl⟩
    · exact Or.inr (Or.inl ⟨rfl, rfl⟩)
    · exact Or.inr (Or.inr ⟨rfl, rfl⟩)
  have flag (field : Field) :
      field.flagAddress = 0 ∨ field.flagAddress = 112 ∨ field.flagAddress = 380 := by
    cases field
    · exact Or.inl rfl
    · exact Or.inr (Or.inl rfl)
    · exact Or.inr (Or.inr rfl)
  have address := place field
  have address' := flag field'
  omega

theorem flagAddress_injective {field field' : Field}
    (same : field.flagAddress = field'.flagAddress) : field = field' := by
  cases field <;> cases field' <;> first | rfl | cases same

/-- The text of every new field stands in memory, and can be drawn from its position. -/
structure ReadyToDraw (screenData : Nat → UInt8) (text : Field → List UInt8) : Prop where
  positioned : Positioned screenData
  holds : ∀ field : Field, screenData field.flagAddress ≠ 0 →
    HoldsText screenData field (text field)
  inside : ∀ field : Field, screenData field.flagAddress ≠ 0 → (text field).length < field.size
  fits : ∀ field : Field, screenData field.flagAddress ≠ 0 →
    Fits (text field) field.start.1 field.start.2

/-- A field that was drawn leaves the others ready. -/
theorem ReadyToDraw.clear {screenData : Nat → UInt8} {text : Field → List UInt8}
    (ready : ReadyToDraw screenData text) (drawn : Field) :
    ReadyToDraw (Function.update screenData drawn.flagAddress 0) text := by
  have earlier (field : Field)
      (new : Function.update screenData drawn.flagAddress 0 field.flagAddress ≠ 0) :
      screenData field.flagAddress ≠ 0 := by
    by_cases same : field.flagAddress = drawn.flagAddress
    · rw [same, Function.update_self] at new
      exact absurd rfl new
    · rwa [Function.update_of_ne same] at new
  refine ⟨?_, ?_, ?_, ?_⟩
  · exact ready.positioned.congr fun address notFlag _ =>
      Function.update_of_ne (notFlag drawn) _ _
  · intro field new index below
    have apart := text_apart field drawn
      (Nat.lt_of_le_of_lt below (ready.inside field (earlier field new)))
    rw [ready.holds field (earlier field new) index below]
    exact congrArg some (Function.update_of_ne apart _ _).symm
  · exact fun field new => ready.inside field (earlier field new)
  · exact fun field new => ready.fits field (earlier field new)

/-- The stamps of a field with a text. -/
def fieldStamps (font : UInt32 → Option FontImage) (s_backgroud_color : UInt16)
    (granted : Nat → Granted) (field : Field) (text : List UInt8) : List (Raster.Stamp UInt16) :=
  textStamps font s_backgroud_color granted 0
    (place (shapeOf font) 0 ⟨field.start.1.toUInt16, field.start.2.toUInt16⟩ (unitsOf text))

/-- The stamps of a field where it is new. -/
def newStamps (font : UInt32 → Option FontImage) (s_backgroud_color : UInt16)
    (granted : Nat → Granted) (screenData : Nat → UInt8) (field : Field) (text : List UInt8) :
    List (Raster.Stamp UInt16) :=
  if screenData field.flagAddress = 0 then []
  else fieldStamps font s_backgroud_color granted field text

theorem newStamps_clear {font : UInt32 → Option FontImage} {s_backgroud_color : UInt16}
    {granted : Nat → Granted} {screenData : Nat → UInt8} {field drawn : Field}
    {text : List UInt8} (other : field ≠ drawn) :
    newStamps font s_backgroud_color granted (Function.update screenData drawn.flagAddress 0) field
        text =
      newStamps font s_backgroud_color granted screenData field text := by
  have apart : field.flagAddress ≠ drawn.flagAddress := fun same =>
    other (flagAddress_injective same)
  rw [newStamps, newStamps, Function.update_of_ne apart]

/-- The memory behind the three blocks. -/
def clearFlags (screenData : Nat → UInt8) : Nat → UInt8 :=
  Function.update (Function.update (Function.update screenData Field.word.flagAddress 0)
    Field.sentence.flagAddress 0) Field.time.flagAddress 0

theorem clearFlags_flag (screenData : Nat → UInt8) (field : Field) :
    clearFlags screenData field.flagAddress = 0 := by
  have apart (drawn : Field) (other : field ≠ drawn) : field.flagAddress ≠ drawn.flagAddress :=
    fun same => other (flagAddress_injective same)
  rw [clearFlags]
  cases field with
  | word =>
      rw [Function.update_of_ne (apart .time (by decide)),
        Function.update_of_ne (apart .sentence (by decide)), Function.update_self]
  | sentence => rw [Function.update_of_ne (apart .time (by decide)), Function.update_self]
  | time => rw [Function.update_self]

theorem clearFlags_other (screenData : Nat → UInt8) {address : Nat}
    (other : ∀ field : Field, address ≠ field.flagAddress) :
    clearFlags screenData address = screenData address := by
  rw [clearFlags, Function.update_of_ne (other .time), Function.update_of_ne (other .sentence),
    Function.update_of_ne (other .word)]

section Update

variable {lcd : LcdController} {font : UInt32 → Option FontImage}
  {stamps : List (Raster.Stamp UInt16)}

/-- A field that is not new is not drawn. -/
theorem updateField_old {before : ShownState lcd} {field : Field} {granted : Nat → Granted}
    {sent : Nat → Sent} (old : before.main.screenData field.flagAddress = 0) :
    updateField font field granted sent before = some before := by
  rw [updateField]
  exact if_pos old

/-- A new field is drawn from the memory, and its flag cleared. -/
theorem updateField_new {before : ShownState lcd} {field : Field} {text : List UInt8}
    (new : before.main.screenData field.flagAddress ≠ 0)
    (positioned : Positioned before.main.screenData)
    (holds : HoldsText before.main.screenData field text) (inside : text.length < field.size)
    (font : UInt32 → Option FontImage) (granted : Nat → Granted) (sent : Nat → Sent) :
    ∃ behind, updateField font field granted sent before =
      (screenPanelNext font before.screen
        (.LcdTouch_DrawString text behind field.start.1 field.start.2 granted, sent)).map
          fun screen =>
            { main := { before.main with
                screenData := Function.update before.main.screenData field.flagAddress 0 }
              screen := screen } := by
  rcases span_of_holds holds inside with ⟨behind, shape⟩
  refine ⟨behind, ?_⟩
  rw [updateField]
  simp only [if_neg new, shape, (positioned field).1, (positioned field).2, screenPanelNext,
    Option.map_bind]
  congr 1
  funext results
  rw [Function.comp_apply, Option.map_map]
  rfl

/-- One block draws its field over what the screen shows, where it is new. -/
theorem updateField_shows (documented : lcd.Documented) (sized : SizedFont (shapeOf font))
    (before : ShownState lcd) (shows : ShowsStamps before.screen stamps) {text : Field → List UInt8}
    (ready : ReadyToDraw before.main.screenData text) (field : Field) {granted : Nat → Granted}
    (buffered : ∀ glyph, (granted glyph).Buffered) {sent : Nat → Sent}
    (delivered : ∀ number, Delivered (sent number)) :
    ∃ screen, updateField font field granted sent before = some
        { main := { before.main with
            screenData := Function.update before.main.screenData field.flagAddress 0 }
          screen := screen } ∧
      ShowsStamps screen (stamps ++ newStamps font before.screen.s_backgroud_color granted
        before.main.screenData field (text field)) ∧
      screen.s_backgroud_color = before.screen.s_backgroud_color := by
  by_cases old : before.main.screenData field.flagAddress = 0
  · have same : Function.update before.main.screenData field.flagAddress 0 =
        before.main.screenData := by
      rw [← old]
      exact Function.update_eq_self _ _
    refine ⟨before.screen, ?_, ?_, rfl⟩
    · rw [updateField_old old, same]
    · rw [newStamps, if_pos old, List.append_nil]
      exact shows
  · rcases updateField_new old ready.positioned (ready.holds field old) (ready.inside field old)
      font granted sent with ⟨behind, drawn⟩
    have fits : (ScreenCall.LcdTouch_DrawString (text field) behind field.start.1 field.start.2
        granted).Fits := ready.fits field old
    rcases screenPanelNext_returns documented sized shows.plain fits (by exact buffered) delivered
      with ⟨screen, moved⟩
    have called := screenPanelNext_called documented sized shows.plain fits moved
    rw [newStamps, if_neg old]
    refine ⟨screen, ?_, shows.step called, called.s_backgroud_color⟩
    rw [drawn, moved]
    rfl

/-- `Task_UpdateScreen` draws what is new, in its order, and clears the flags. -/
theorem Task_UpdateScreen_shows (documented : lcd.Documented) (sized : SizedFont (shapeOf font))
    (before : ShownState lcd) (shows : ShowsStamps before.screen stamps) {text : Field → List UInt8}
    (ready : ReadyToDraw before.main.screenData text) {granted : Field → Nat → Granted}
    (buffered : ∀ field glyph, (granted field glyph).Buffered)
    {sent : Field → Nat → Sent} (delivered : ∀ field number, Delivered (sent field number)) :
    ∃ screen, Task_UpdateScreen font granted sent before = some
        ⟨{ before.main with screenData := clearFlags before.main.screenData }, screen⟩ ∧
      ShowsStamps screen (stamps ++
        newStamps font before.screen.s_backgroud_color (granted .word) before.main.screenData .word
          (text .word) ++
        newStamps font before.screen.s_backgroud_color (granted .sentence) before.main.screenData
          .sentence (text .sentence) ++
        newStamps font before.screen.s_backgroud_color (granted .time) before.main.screenData .time
          (text .time)) ∧
      screen.s_backgroud_color = before.screen.s_backgroud_color := by
  rcases updateField_shows documented sized before shows ready .word (buffered .word)
    (delivered .word) with
    ⟨withWord, wordDrawn, showsWord, wordColor⟩
  rcases updateField_shows documented sized
    ⟨{ before.main with
      screenData := Function.update before.main.screenData Field.word.flagAddress 0 }, withWord⟩
    showsWord (ready.clear .word) .sentence (buffered .sentence) (delivered .sentence) with
    ⟨withSentence, sentenceDrawn, showsSentence, sentenceColor⟩
  rcases updateField_shows documented sized
    ⟨{ before.main with
      screenData := Function.update (Function.update before.main.screenData
        Field.word.flagAddress 0) Field.sentence.flagAddress 0 }, withSentence⟩
    showsSentence ((ready.clear .word).clear .sentence) .time (buffered .time) (delivered .time)
      with ⟨withTime, timeDrawn, showsTime, timeColor⟩
  simp only [wordColor, sentenceColor] at showsTime timeColor
  rw [newStamps_clear (show Field.sentence ≠ .word by decide),
    newStamps_clear (show Field.time ≠ .sentence by decide),
    newStamps_clear (show Field.time ≠ .word by decide)] at showsTime
  refine ⟨withTime, ?_, showsTime, timeColor⟩
  rw [Task_UpdateScreen, wordDrawn]
  simp only [Option.bind_eq_bind, Option.bind_some, sentenceDrawn]
  exact timeDrawn

end Update

/-! ## The iteration of the main task -/

section Iteration

variable {lcd : LcdController} {font : UInt32 → Option FontImage} {layer : SocketLayer}
  {before : ShownState lcd} {sent : Nat → Sent}

/-- A response is published on a screen that was reset. -/
theorem mainIteration_connected (documented : lcd.Documented) (sized : SizedFont (shapeOf font))
    (connected : layer.connected) (requested : before.main.s_isWordRequest = true)
    {stamps : List (Raster.Stamp UInt16)}
    (shows : ShowsStamps before.screen stamps) (delivered : ∀ number, Delivered (sent number)) :
    ∃ blank, mainIteration font layer ⟨true, true⟩ sent before = some
        { main :=
            { s_isWordRequest := false
              request := (ReqWord_Requset layer before.main.request).2
              screenData := publish (ReqWord_Requset layer before.main.request).2.held
                before.main.screenData }
          screen := blank } ∧
      ShowsStamps blank [] ∧ blank.s_backgroud_color = before.screen.s_backgroud_color := by
  have returned := (ReqWord_Requset_connected connected before.main.request).1
  have reset : (ScreenCall.LcdTouch_ResetBackground ⟨true, true⟩).Fits := True.intro
  rcases screenPanelNext_returns documented sized shows.plain reset True.intro delivered with
    ⟨blank, resets⟩
  have called := screenPanelNext_called documented sized shows.plain reset resets
  refine ⟨blank, ?_, shows.step called, called.s_backgroud_color⟩
  rw [mainIteration, Task_MainTask, if_pos requested]
  simp only [returned, if_true]
  rw [if_pos List.mem_cons_self, resets]
  rfl

/-- Without a connection, and without a request, nothing is published. -/
theorem mainIteration_idle (font : UInt32 → Option FontImage) (sent : Nat → Sent)
    (idle : ¬ (before.main.s_isWordRequest = true ∧ layer.connected)) :
    ∃ request, mainIteration font layer ⟨true, true⟩ sent before = some
        ⟨⟨false, request, before.main.screenData⟩, before.screen⟩ ∧
      request.held = before.main.request.held := by
  by_cases requested : before.main.s_isWordRequest = true
  · have refused := ReqWord_Requset_refused (fun connected => idle ⟨requested, connected⟩)
      before.main.request
    refine ⟨(ReqWord_Requset layer before.main.request).2, ?_, refused.2⟩
    rw [mainIteration, Task_MainTask, if_pos requested]
    simp only [refused.1, Bool.false_eq_true, if_false]
    rfl
  · refine ⟨before.main.request, ?_, rfl⟩
    rw [Bool.not_eq_true] at requested
    rw [mainIteration, Task_MainTask, requested]
    simp only [Bool.false_eq_true, if_false]
    rw [← requested]
    rfl

end Iteration

/-- Both tasks, one behind the other, with a response that yields a pair. -/
theorem pair_shows {lcd : LcdController} (documented : lcd.Documented)
    {font : UInt32 → Option FontImage} (sized : SizedFont (shapeOf font)) {layer : SocketLayer}
    (connected : layer.connected) {word sentence : List UInt8}
    (yields : Yields (responseText layer) word sentence) (wordShort : word.length ≤ 99)
    (wordFits : Fits word s_wordData.word_x s_wordData.word_y)
    (sentenceFits : Fits sentence s_wordData.sentence_x s_wordData.sentence_y)
    {before : ShownState lcd} (requested : before.main.s_isWordRequest = true)
    (positioned : Positioned before.main.screenData)
    (noTime : before.main.screenData ScreenData.isNewTime = 0)
    {stamps : List (Raster.Stamp UInt16)} (shows : ShowsStamps before.screen stamps)
    {sent : Nat → Sent} (delivered : ∀ number, Delivered (sent number))
    {granted : Field → Nat → Granted}
    (buffered : ∀ field glyph, (granted field glyph).Buffered)
    {sentField : Field → Nat → Sent}
    (deliveredField : ∀ field number, Delivered (sentField field number)) :
    ∃ middle after, mainIteration font layer ⟨true, true⟩ sent before = some middle ∧
      Task_UpdateScreen font granted sentField middle = some after ∧
      after.main.s_isWordRequest = false ∧
      (∀ field : Field, after.main.screenData field.flagAddress = 0) ∧
      after.screen.s_backgroud_color = before.screen.s_backgroud_color ∧
      ShowsStamps after.screen
        (fieldStamps font before.screen.s_backgroud_color (granted .word) .word word ++
          fieldStamps font before.screen.s_backgroud_color (granted .sentence) .sentence
            sentence) := by
  have stored := ReqWord_Requset_yields connected yields before.main.request
  have wordLength : CString.strlen
      (ReqWord_Requset layer before.main.request).2.held.word.bytes ≤ 99 := by
    rw [CString.strlen, stored.1]
    exact wordShort
  have sentenceLength : CString.strlen
      (ReqWord_Requset layer before.main.request).2.held.sentence.bytes ≤ 255 := by
    rw [CString.strlen, stored.2]
    exact sentenceFits.short
  have published := publish_holds before.main.screenData wordLength
  have kept := publish_kept before.main.screenData wordLength sentenceLength
  rw [stored.1, stored.2] at published
  rcases published with ⟨holdsWord, holdsSentence, newWord, newSentence⟩
  have old := kept.2.trans noTime
  rcases mainIteration_connected documented sized connected requested shows delivered with
    ⟨blank, middle, showsBlank, color⟩
  generalize publish (ReqWord_Requset layer before.main.request).2.held before.main.screenData =
    memory at *
  let text : Field → List UInt8 := fun field =>
    match field with
    | .word => word
    | .sentence => sentence
    | .time => []
  have ready : ReadyToDraw memory text := by
    refine ⟨kept.1 positioned, ?_, ?_, ?_⟩
    · intro field new
      cases field with
      | word => exact holdsWord
      | sentence => exact holdsSentence
      | time => exact absurd old new
    · intro field new
      cases field with
      | word => exact Nat.lt_succ_of_le wordShort
      | sentence => exact Nat.lt_succ_of_le sentenceFits.short
      | time => exact absurd old new
    · intro field new
      cases field with
      | word => exact wordFits
      | sentence => exact sentenceFits
      | time => exact absurd old new
  rcases Task_UpdateScreen_shows documented sized ⟨⟨false, _, memory⟩, blank⟩ showsBlank ready
    buffered deliveredField with ⟨screen, updated, showsBoth, sameColor⟩
  refine ⟨_, _, middle, updated, rfl, clearFlags_flag memory, sameColor.trans color, ?_⟩
  have word : newStamps font blank.s_backgroud_color (granted .word) memory .word (text .word) =
      fieldStamps font blank.s_backgroud_color (granted .word) .word word := by
    apply if_neg
    show memory ScreenData.isNewWord ≠ 0
    rw [newWord]
    decide
  have sentence : newStamps font blank.s_backgroud_color (granted .sentence) memory .sentence
      (text .sentence) =
      fieldStamps font blank.s_backgroud_color (granted .sentence) .sentence sentence := by
    apply if_neg
    show memory ScreenData.isNewSentence ≠ 0
    rw [newSentence]
    decide
  have time : newStamps font blank.s_backgroud_color (granted .time) memory .time (text .time) =
      [] := if_pos old
  rw [word, sentence, time, List.append_nil, List.nil_append, color] at showsBoth
  exact showsBoth

/-! ## Both texts whole -/

/-- Every glyph of a text is seen whole at its place, where everything was granted for
it. -/
def SeenWhole {lcd : LcdController} (font : UInt32 → Option FontImage) (granted : Nat → Granted)
    (field : Field) (text : List UInt8) (screen : ScreenPanel lcd) : Prop :=
  ∀ behind draws,
    LcdTouch_DrawString true (shapeOf font) (text ++ 0 :: behind) field.start.1 field.start.2 =
      some draws →
    ∀ glyph draw image, draws[glyph]? = some draw → font draw.fontIndex = some image →
      granted glyph = ⟨true, true⟩ →
      ∀ column < image.width.toNat, ∀ row < image.height.toNat, ∀ cell,
        screen.panel.view.place cell =
          (draw.start_x_pos.toNat + column, draw.start_y_pos.toNat + row) →
        screen.panel.view.memory cell =
          image.shown LT_FONT_COLOR screen.s_backgroud_color (row * image.width.toNat + column)

theorem supported_fits {text : List Char} (supported : SupportedText text)
    (short : (Utf8.encode text).length ≤ 255) (field : Field) :
    Fits (Utf8.encode text) field.start.1 field.start.2 where
  drawable := Drawable.of_units (unitsOf_inTable supported)
  short := short
  inLine := by cases field <;> decide
  room := by cases field <;> decide

section Whole

variable {lcd : LcdController} {font : UInt32 → Option FontImage}

/-- The glyphs of a field, as they are placed by the font. -/
def fieldDraws (font : UInt32 → Option FontImage) (field : Field) (text : List UInt8) :
    List GlyphDraw :=
  place (shapeOf font) 0 ⟨field.start.1.toUInt16, field.start.2.toUInt16⟩ (unitsOf text)

/-- With the sizes of the table, the glyphs of a supported text stand in its boxes. -/
theorem field_rects (same : SameSizes font) {text : List Char} (supported : SupportedText text)
    (short : (Utf8.encode text).length ≤ 255) (field : Field) :
    (fieldDraws font field (Utf8.encode text)).map GlyphDraw.rect =
        (textBoxes field.start.1.toNat (text.map glyphWidth)).map (boxRect field.start.2.toNat) ∧
      ∀ draw ∈ fieldDraws font field (Utf8.encode text),
        draw.rect.x + draw.rect.width ≤ 320 := by
  have fits := supported_fits supported short field
  have inTable := unitsOf_inTable supported
  have count := (length_unitsOf (Utf8.encode text)).1
  have starts : field.start.1.toUInt16.toNat = field.start.1.toNat ∧
      field.start.2.toUInt16.toNat = field.start.2.toNat := by
    cases field <;> decide
  have inLine := fits.inLine
  have room := fits.room
  have rects := rects_place same.sized field.start.2.toNat 0 0
    ⟨field.start.1.toUInt16, field.start.2.toUInt16⟩ (unitsOf (Utf8.encode text)) inTable
    (by rw [starts.1]; exact inLine) starts.2 (by omega)
  have widths : (unitsOf (Utf8.encode text)).map (fun unit =>
      (shapeOf font (LcdTouch_GetFontIndexOfUnicode unit.code)).width.toNat) =
        text.map glyphWidth := by
    rw [← map_unitWidth_supported supported]
    apply List.map_congr_left
    intro unit member
    rw [same _ ((fontIndex_lt_iff unit.code).mpr (inTable unit member))]
    rfl
  have narrow : ∀ width ∈ text.map glyphWidth, width ≤ 20 := by
    rw [← widths, List.forall_mem_map]
    intro unit member
    exact (same.sized _ ((fontIndex_lt_iff unit.code).mpr (inTable unit member))).2.1
  have few : (text.map glyphWidth).length ≤ 255 := by
    rw [← widths, List.length_map]
    omega
  have placed := placed_layout inLine room narrow few
  rw [widths, starts.1] at rects
  constructor
  · rw [fieldDraws, rects, LineBreak.layout_eq_rows]
    rfl
  · have inside := placed.inside
    rw [← rects, List.forall_mem_map] at inside
    exact inside

theorem fieldDraws_sizes (font : UInt32 → Option FontImage) (field : Field) (text : List UInt8) :
    ∀ draw ∈ fieldDraws font field text, ∀ image, font draw.fontIndex = some image →
      draw.textWidth.toNat = image.width.toNat ∧ draw.textHeight.toNat = image.height.toNat := by
  intro draw member image found
  have size := sizes_place _ _ _ _ draw member
  rwa [shapeOf_found found] at size

/-- The stamps of a field stand in the rectangles of its glyphs. -/
theorem fieldStamps_region {s_backgroud_color : UInt16} {granted : Nat → Granted} {field : Field}
    {text : List UInt8} {stamp : Raster.Stamp UInt16}
    (member : stamp ∈ fieldStamps font s_backgroud_color granted field text) :
    ∃ draw ∈ fieldDraws font field text, stamp.region = draw.rect.region := by
  have regions := regions_textStamps s_backgroud_color granted 0
    (fieldDraws_sizes font field text)
  have region := regions.subset (List.mem_map_of_mem member)
  rcases List.mem_map.mp region with ⟨draw, inDraws, same⟩
  exact ⟨draw, inDraws, same.symm⟩

/-- A text whose glyphs stay on the panel, among stamps that do not overlap. -/
theorem seenWhole_of_apart {screen : ScreenPanel lcd} {stamps : List (Raster.Stamp UInt16)}
    {granted : Nat → Granted} {field : Field} {text : List UInt8}
    (fits : Fits text field.start.1 field.start.2) (shows : ShowsStamps screen stamps)
    (apart : stamps.Pairwise fun first second => first.region.Apart second.region)
    (inside : ∀ draw ∈ fieldDraws font field text,
      draw.rect.x + draw.rect.width ≤ 320 ∧ draw.rect.y + draw.rect.height ≤ 240)
    (drawn : ∀ stamp ∈ fieldStamps font screen.s_backgroud_color granted field text,
      stamp ∈ stamps) : SeenWhole font granted field text screen := by
  intro behind draws called glyph draw image found shown all column inWidth row inHeight cell place
  rw [LcdTouch_DrawString_eq _ fits.drawable.nulFree, Option.some.injEq] at called
  subst called
  have inDraws := List.mem_of_getElem? found
  have size := fieldDraws_sizes font field text draw inDraws image shown
  have corner := inside draw inDraws
  simp only [GlyphDraw.rect, size.1, size.2] at corner
  have member := mem_textStamps screen.s_backgroud_color granted 0 found shown
    (by rwa [Nat.zero_add])
  have onScreen : OnScreen (screen.panel.view.place cell) := by
    rw [place]
    unfold OnScreen LT_LCD_H_RES LT_LCD_V_RES
    omega
  rw [shows.seen cell onScreen, place]
  exact Raster.paintAll_apart _ apart (drawn _ member) inWidth inHeight

/-- Where there is room for word and sentence, their stamps do not overlap and stay on
the panel. -/
theorem roomy_apart (same : SameSizes font) (granted : Field → Nat → Granted)
    (s_backgroud_color : UInt16) {word sentence : List Char} (wordSupported : SupportedText word)
    (sentenceSupported : SupportedText sentence) (wordShort : (Utf8.encode word).length ≤ 99)
    (sentenceShort : (Utf8.encode sentence).length ≤ 255) (roomy : Roomy word sentence) :
    (fieldStamps font s_backgroud_color (granted .word) .word (Utf8.encode word) ++
        fieldStamps font s_backgroud_color (granted .sentence) .sentence
          (Utf8.encode sentence)).Pairwise
        (fun first second => first.region.Apart second.region) ∧
      (∀ draw ∈ fieldDraws font .word (Utf8.encode word),
        draw.rect.x + draw.rect.width ≤ 320 ∧ draw.rect.y + draw.rect.height ≤ 240) ∧
      ∀ draw ∈ fieldDraws font .sentence (Utf8.encode sentence),
        draw.rect.x + draw.rect.width ≤ 320 ∧ draw.rect.y + draw.rect.height ≤ 240 := by
  have boxes : BoxesFit (textBoxes 10 (word.map glyphWidth))
      (textBoxes 10 (sentence.map glyphWidth)) :=
    (boxesFit_iff wordSupported wordShort).mpr roomy
  have wordLength : (Utf8.encode word).length ≤ 255 := Nat.le_trans wordShort (by decide)
  rcases field_rects same wordSupported wordLength .word with ⟨wordRects, wordRight⟩
  rcases field_rects same sentenceSupported sentenceShort .sentence with
    ⟨sentenceRects, sentenceRight⟩
  have wordBelow := (inside_iff wordRects).mpr boxes.wordInside
  have sentenceBelow := (inside_iff sentenceRects).mpr boxes.sentenceInside
  have cross := (apart_iff wordRects sentenceRects).mpr boxes.wordSentence
  refine ⟨List.pairwise_append.mpr ⟨?_, ?_, ?_⟩, ?_, ?_⟩
  · exact ((supported_fits wordSupported wordLength .word).laid same.sized).apart
      s_backgroud_color (granted .word)
  · exact ((supported_fits sentenceSupported sentenceShort .sentence).laid same.sized).apart
      s_backgroud_color (granted .sentence)
  · intro stamp member stamp' member'
    rcases fieldStamps_region member with ⟨draw, inWord, region⟩
    rcases fieldStamps_region member' with ⟨draw', inSentence, region'⟩
    rw [region, region']
    exact Rect.apart_of_disjoint (cross draw inWord draw' inSentence)
  · exact fun draw member => ⟨wordRight draw member, wordBelow draw member⟩
  · exact fun draw member => ⟨sentenceRight draw member, sentenceBelow draw member⟩

end Whole

/-- What is left behind an iteration of both tasks. -/
structure PairShown {lcd : LcdController} (font : UInt32 → Option FontImage)
    (granted : Field → Nat → Granted) (word sentence : List Char) (after : ShownState lcd) :
    Prop where
  taken : after.main.s_isWordRequest = false
  flags : ∀ field : Field, after.main.screenData field.flagAddress = 0
  /-- The screen shows the two texts of the response on the background, and nothing of
  what it showed before. -/
  picture : ShowsStamps after.screen
    (fieldStamps font after.screen.s_backgroud_color (granted .word) .word (Utf8.encode word) ++
      fieldStamps font after.screen.s_backgroud_color (granted .sentence) .sentence
        (Utf8.encode sentence))
  whole : Roomy word sentence →
    SeenWhole font (granted .word) .word (Utf8.encode word) after.screen ∧
      SeenWhole font (granted .sentence) .sentence (Utf8.encode sentence) after.screen

end Tasks
end ToothVoca
