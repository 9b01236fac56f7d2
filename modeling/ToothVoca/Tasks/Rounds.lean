import ToothVoca.Network.WordPair
import ToothVoca.Tasks.ShownPair
import ToothVoca.Tasks.StartUp

namespace ToothVoca
namespace Tasks

open Library Network Display

/-!
# What is seen on the screen (`task.c`)

In a round the timer task publishes a time or not, and asks for a word or not; the main
task goes through its loop once, and then the task of the screen.  The rounds follow
each other in any number, with whatever the network answers in each of them.  Memory is
granted and the panel takes what it is sent.

`Seen` says what there is to see: a pair of texts and a time.  A response moves the pair
and clears the screen with the time on it, so that the next time is the first to be
seen again.  `seen_from_power_on` says that the screen shows this and nothing else.
-/

structure Round where
  time : Option (UInt8 × UInt8)
  requested : Bool
  layer : SocketLayer

/-- The publication of a time, in the order of the source. -/
def publishTime (min sec : UInt8) (screenData : Nat → UInt8) : Nat → UInt8 :=
  Function.update
    (RawMemory.apply ScreenData.time (RawMemory.block 0 (timeText min sec ++ [0])) screenData)
    ScreenData.isNewTime 1

section Rounds

variable {lcd : LcdController}

/-- What the timer task leaves for the two others. -/
def timerPublishes (round : Round) (before : ShownState lcd) : ShownState lcd :=
  { before with
    main := { before.main with
      s_isWordRequest := before.main.s_isWordRequest || round.requested
      screenData :=
        match round.time with
        | none => before.main.screenData
        | some (min, sec) => publishTime min sec before.main.screenData } }

def roundNext (font : UInt32 → Option FontImage) (before : ShownState lcd) (round : Round) :
    Option (ShownState lcd) :=
  (mainIteration font round.layer ⟨true, true⟩ (fun _ _ => true)
    (timerPublishes round before)).bind
      (Task_UpdateScreen font (fun _ _ => ⟨true, true⟩) fun _ _ _ => true)

end Rounds

/-! ## What there is to see -/

structure Seen where
  pair : List UInt8 × List UInt8
  time : Option (UInt8 × UInt8)
deriving DecidableEq

def Seen.initial : Seen :=
  ⟨([], []), none⟩

/-- A word is asked for, and the server answers. -/
def Round.Answered (round : Round) : Prop :=
  round.requested = true ∧ round.layer.connected

instance (round : Round) : Decidable round.Answered :=
  inferInstanceAs (Decidable (_ ∧ _))

def seenNext (before : Seen) (round : Round) : Seen :=
  if round.Answered then
    ⟨heldNext (responseText round.layer) before.pair, round.time⟩
  else ⟨before.pair, round.time.or before.time⟩

/-- The stamps of a field for which everything is granted. -/
def grantedStamps (font : UInt32 → Option FontImage) (s_backgroud_color : UInt16) (field : Field)
    (text : List UInt8) : List (Raster.Stamp UInt16) :=
  fieldStamps font s_backgroud_color (fun _ => ⟨true, true⟩) field text

def shownTime (font : UInt32 → Option FontImage) (s_backgroud_color : UInt16) :
    Option (UInt8 × UInt8) → List (Raster.Stamp UInt16)
  | none => []
  | some (min, sec) => grantedStamps font s_backgroud_color .time (timeText min sec)

def seenStamps (font : UInt32 → Option FontImage) (s_backgroud_color : UInt16) (seen : Seen) :
    List (Raster.Stamp UInt16) :=
  grantedStamps font s_backgroud_color .word seen.pair.1 ++
    grantedStamps font s_backgroud_color .sentence seen.pair.2 ++
      shownTime font s_backgroud_color seen.time

/-! ## What has to hold of the responses -/

/-- All glyphs of a pair are in the table, and its word fits into `ScreenData`. -/
structure Showable (pair : List UInt8 × List UInt8) : Prop where
  word : Drawable pair.1
  wordShort : pair.1.length ≤ 99
  sentence : Drawable pair.2
  sentenceShort : pair.2.length ≤ 255

/-- The times of a round have two digits each, and the pair of its response can be
shown. -/
structure Round.Proper (round : Round) : Prop where
  time : ∀ min sec, round.time = some (min, sec) → min.toNat < 100 ∧ sec.toNat < 100
  pair : round.Answered → ∀ word sentence, Yields (responseText round.layer) word sentence →
    Showable (word, sentence)

theorem showable_initial : Showable Seen.initial.pair :=
  ⟨.empty, Nat.zero_le _, .empty, Nat.zero_le _⟩

/-- The pair behind a response can be shown. -/
theorem Round.Proper.next {round : Round} (proper : round.Proper) (answered : round.Answered)
    {pair : List UInt8 × List UInt8} (showable : Showable pair) :
    Showable (heldNext (responseText round.layer) pair) := by
  rw [heldNext]
  cases split : splitResponse (responseText round.layer) with
  | none => exact showable
  | some parts =>
      rcases parts with ⟨word, rest⟩
      have splits := splitResponse_eq_some_iff.mp split
      by_cases short : word.length < 128
      · simp only [if_pos short]
        exact proper.pair answered _ _ ⟨rest, splits, short, rfl⟩
      · simp only [if_neg short]
        exact ⟨.empty, Nat.zero_le _, showable.sentence, showable.sentenceShort⟩

/-! ## The published time -/

theorem length_timeText (min sec : UInt8) : (timeText min sec).length < Field.time.size := by
  unfold timeText twoDigits
  split <;> split <;> simp [Field.size]

section Time

variable {min sec : UInt8} {screenData : Nat → UInt8}

/-- Only the text of the time and its flag are written. -/
theorem publishTime_other {address : Nat} (flag : address ≠ ScreenData.isNewTime)
    (outside : ∀ index < Field.time.size, address ≠ ScreenData.time + index) :
    publishTime min sec screenData address = screenData address := by
  rw [publishTime, Function.update_of_ne flag]
  apply RawMemory.apply_of_not_named
  intro write member
  have bound := RawMemory.index_lt_of_mem_block member
  have length := length_timeText min sec
  rw [List.length_append, List.length_singleton] at bound
  exact (outside write.1 (by omega)).symm

theorem publishTime_holds :
    HoldsText (publishTime min sec screenData) .time (timeText min sec) := by
  intro index inside
  have below : index < (timeText min sec ++ [0]).length := by
    rw [List.length_append, List.length_singleton]
    exact Nat.lt_succ_of_le inside
  have value := RawMemory.apply_block ScreenData.time 0 (List.getElem?_eq_getElem below) screenData
  have apart : ScreenData.time + index ≠ ScreenData.isNewTime :=
    text_apart .time .time (Nat.lt_of_le_of_lt inside (length_timeText min sec))
  rw [Nat.zero_add] at value
  rw [List.getElem?_eq_getElem below, ← value]
  exact congrArg some (Function.update_of_ne apart _ _).symm

theorem publishTime_flag : publishTime min sec screenData ScreenData.isNewTime = 1 :=
  Function.update_self _ _ _

end Time

/-- What the timer task leaves in memory: everything in front of the time and behind it
is kept. -/
structure TimePublished (time : Option (UInt8 × UInt8)) (before after : Nat → UInt8) : Prop where
  kept : ∀ address, address ≠ ScreenData.isNewTime →
    (∀ index < Field.time.size, address ≠ ScreenData.time + index) → after address = before address
  flag : after ScreenData.isNewTime = 0 ↔ time = none
  holds : ∀ min sec, time = some (min, sec) → HoldsText after .time (timeText min sec)

theorem timerPublishes_published {lcd : LcdController} (round : Round) {before : ShownState lcd}
    (old : before.main.screenData ScreenData.isNewTime = 0) :
    TimePublished round.time before.main.screenData
      (timerPublishes round before).main.screenData := by
  rw [timerPublishes]
  cases round.time with
  | none =>
      refine ⟨fun _ _ _ => rfl, iff_of_true old rfl, ?_⟩
      intro min sec none
      cases none
  | some shown =>
      rcases shown with ⟨min, sec⟩
      refine ⟨fun address flag outside => publishTime_other flag outside, ?_, ?_⟩
      · apply iff_of_false
        · show publishTime min sec before.main.screenData ScreenData.isNewTime ≠ 0
          rw [publishTime_flag]
          decide
        · exact Option.some_ne_none _
      · intro min' sec' same
        cases same
        exact publishTime_holds

namespace TimePublished

variable {time : Option (UInt8 × UInt8)} {before after : Nat → UInt8}

theorem positioned (published : TimePublished time before after)
    (positioned : Positioned before) : Positioned after := by
  have place (field : Field) : (field.xAddress = 104 ∧ field.yAddress = 108) ∨
      (field.xAddress = 372 ∧ field.yAddress = 376) ∨
      (field.xAddress = 404 ∧ field.yAddress = 408) := by
    cases field
    · exact Or.inl ⟨rfl, rfl⟩
    · exact Or.inr (Or.inl ⟨rfl, rfl⟩)
    · exact Or.inr (Or.inr ⟨rfl, rfl⟩)
  have outside {address : Nat} (apart : address < 380 ∨ 401 ≤ address) :
      after address = before address := by
    apply published.kept
    · show address ≠ 380
      omega
    · intro index inside
      show address ≠ 381 + index
      have small : index < 20 := inside
      omega
  intro field
  have addresses := place field
  rw [← (positioned field).1, ← (positioned field).2]
  constructor
  · apply coordinate_congr
    intro index small
    apply outside
    omega
  · apply coordinate_congr
    intro index small
    apply outside
    omega

/-- The flags of word and sentence. -/
theorem flag_other (published : TimePublished time before after) {field : Field}
    (other : field ≠ .time) : after field.flagAddress = before field.flagAddress := by
  apply published.kept
  · exact fun same => other (@flagAddress_injective field .time same)
  · intro index inside same
    exact text_apart .time field inside same.symm

end TimePublished

/-! ## One round -/

/-- The screen shows what there is to see, and nothing is left to be drawn. -/
structure ScreenShows {lcd : LcdController} (font : UInt32 → Option FontImage)
    (state : ShownState lcd) (seen : Seen) : Prop where
  idle : state.main.s_isWordRequest = false
  flags : ∀ field : Field, state.main.screenData field.flagAddress = 0
  positioned : Positioned state.main.screenData
  held : heldPair state.main.request.held = seen.pair
  showable : Showable seen.pair
  times : ∀ min sec, seen.time = some (min, sec) → min.toNat < 100 ∧ sec.toNat < 100
  color : state.screen.s_backgroud_color = LT_BACKGROUND_COLOR
  picture : ShowsStamps state.screen (seenStamps font LT_BACKGROUND_COLOR seen)

/-- The texts that a round can draw. -/
def roundText (pair : List UInt8 × List UInt8) (time : Option (UInt8 × UInt8)) :
    Field → List UInt8
  | .word => pair.1
  | .sentence => pair.2
  | .time => match time with
    | none => []
    | some (min, sec) => timeText min sec

section Step

variable {lcd : LcdController} {font : UInt32 → Option FontImage} {round : Round}
  {before : ShownState lcd} {seen : Seen}

/-- A time is drawn where it was published. -/
theorem newStamps_time {screenData : Nat → UInt8} {time : Option (UInt8 × UInt8)}
    (flag : screenData ScreenData.isNewTime = 0 ↔ time = none)
    (pair : List UInt8 × List UInt8) :
    newStamps font LT_BACKGROUND_COLOR (fun _ => ⟨true, true⟩) screenData .time
        (roundText pair time .time) = shownTime font LT_BACKGROUND_COLOR time := by
  cases time with
  | none => exact if_pos (flag.mpr rfl)
  | some shown => exact if_neg fun none => Option.some_ne_none _ (flag.mp none)

/-- What a round can draw is ready to be drawn. -/
theorem readyToDraw_round (proper : round.Proper) {screenData : Nat → UInt8}
    (positioned : Positioned screenData) {pair : List UInt8 × List UInt8} (showable : Showable pair)
    (word : screenData ScreenData.isNewWord ≠ 0 → HoldsText screenData .word pair.1)
    (sentence : screenData ScreenData.isNewSentence ≠ 0 → HoldsText screenData .sentence pair.2)
    (flag : screenData ScreenData.isNewTime = 0 ↔ round.time = none)
    (time : ∀ min sec, round.time = some (min, sec) →
      HoldsText screenData .time (timeText min sec)) :
    ReadyToDraw screenData (roundText pair round.time) := by
  have timed (new : screenData ScreenData.isNewTime ≠ 0) : ∃ min sec,
      round.time = some (min, sec) ∧ roundText pair round.time .time = timeText min sec := by
    cases shown : round.time with
    | none => exact absurd (flag.mpr shown) new
    | some time => exact ⟨time.1, time.2, rfl, rfl⟩
  refine ⟨positioned, ?_, ?_, ?_⟩
  · intro field new
    cases field with
    | word => exact word new
    | sentence => exact sentence new
    | time =>
        rcases timed new with ⟨min, sec, shown, text⟩
        rw [text]
        exact time min sec shown
  · intro field new
    cases field with
    | word => exact Nat.lt_succ_of_le showable.wordShort
    | sentence => exact Nat.lt_succ_of_le showable.sentenceShort
    | time =>
        rcases timed new with ⟨min, sec, _, text⟩
        rw [text]
        exact length_timeText min sec
  · intro field new
    cases field with
    | word =>
        exact ⟨showable.word, Nat.le_trans showable.wordShort (by decide), by decide, by decide⟩
    | sentence => exact ⟨showable.sentence, showable.sentenceShort, by decide, by decide⟩
    | time =>
        rcases timed new with ⟨min, sec, shown, text⟩
        have bounds := proper.time min sec shown
        rw [text]
        exact timeText_fits bounds.1 bounds.2

theorem allGranted : ∀ (field : Field) (glyph : Nat),
    ((fun _ _ => ⟨true, true⟩ : Field → Nat → Granted) field glyph).Buffered :=
  fun _ _ => Or.inl rfl

theorem allSent : ∀ (field : Field) (number : Nat),
    Delivered ((fun _ _ _ => true : Field → Nat → Sent) field number) :=
  fun _ _ => ⟨rfl, rfl, rfl⟩

/-- The publication of a pair keeps the text of the time. -/
theorem publish_holdsTime {held : WordSentence} {screenData : Nat → UInt8} {text : List UInt8}
    (wordShort : CString.strlen held.word.bytes ≤ 99)
    (sentenceShort : CString.strlen held.sentence.bytes ≤ 255)
    (holds : HoldsText screenData .time text) : HoldsText (publish held screenData) .time text := by
  have frame := publish_frame
    (fun write member => Nat.lt_succ_of_le (Nat.le_trans (ReqWord_GetWord_index member) wordShort))
    (fun write member =>
      Nat.lt_succ_of_le (Nat.le_trans (ReqWord_GetSentence_index member) sentenceShort)) screenData
  intro index below
  rw [holds index below]
  apply congrArg some
  apply (frame _ _).symm
  have place : Field.time.textAddress = 381 := rfl
  have unpublished : ¬ ((1 ≤ Field.time.textAddress + index ∧
        Field.time.textAddress + index < 101) ∨
      (113 ≤ Field.time.textAddress + index ∧ Field.time.textAddress + index < 369) ∨
      Field.time.textAddress + index = 0 ∨ Field.time.textAddress + index = 112) := by
    omega
  exact unpublished

/-- A round with a response. -/
theorem ScreenShows.answered (documented : lcd.Documented) (same : SameSizes font)
    (shows : ScreenShows font before seen) (proper : round.Proper) (answered : round.Answered) :
    ∃ after, roundNext font before round = some after ∧
      ScreenShows font after ⟨heldNext (responseText round.layer) seen.pair, round.time⟩ := by
  have published := timerPublishes_published round (shows.flags .time)
  have asked : (timerPublishes round before).main.s_isWordRequest = true := by
    rw [timerPublishes, shows.idle, answered.1]
    rfl
  have delivered : ∀ number : Nat, Delivered ((fun _ _ => true : Nat → Sent) number) :=
    fun _ => ⟨rfl, rfl, rfl⟩
  have showsBefore : ShowsStamps (timerPublishes round before).screen _ := shows.picture
  rcases mainIteration_connected documented same.sized answered.2 asked showsBefore delivered with
    ⟨blank, middle, showsBlank, color⟩
  have pair := heldPair_request round.layer (timerPublishes round before).main.request
  have earlier : heldPair (timerPublishes round before).main.request.held = seen.pair := shows.held
  rw [if_pos answered.2, earlier] at pair
  have showable := proper.next answered shows.showable
  rw [← pair] at showable
  have positioned := published.positioned shows.positioned
  generalize (timerPublishes round before).main.screenData = timed at *
  generalize (ReqWord_Requset round.layer (timerPublishes round before).main.request).2 = request
    at *
  have holds := publish_holds timed showable.wordShort
  have kept := publish_kept timed showable.wordShort showable.sentenceShort
  have flag : publish request.held timed ScreenData.isNewTime = 0 ↔ round.time = none := by
    rw [kept.2]
    exact published.flag
  have ready := readyToDraw_round proper (kept.1 positioned) showable (fun _ => holds.1)
    (fun _ => holds.2.1) flag fun min sec shown =>
      publish_holdsTime showable.wordShort showable.sentenceShort (published.holds min sec shown)
  rcases Task_UpdateScreen_shows documented same.sized
    ⟨⟨false, request, publish request.held timed⟩, blank⟩ showsBlank ready allGranted allSent with
    ⟨screen, updated, picture, sameColor⟩
  refine ⟨_, by rw [roundNext, middle]; exact updated, ?_⟩
  have background : blank.s_backgroud_color = LT_BACKGROUND_COLOR := color.trans shows.color
  refine ⟨rfl, clearFlags_flag _, ?_, pair, ?_, ?_, sameColor.trans background, ?_⟩
  · exact (kept.1 positioned).congr fun address other _ => clearFlags_other _ other
  · rw [← pair]
    exact showable
  · exact proper.time
  · have word : publish request.held timed Field.word.flagAddress ≠ 0 := by
      show publish request.held timed ScreenData.isNewWord ≠ 0
      rw [holds.2.2.1]
      decide
    have sentence : publish request.held timed Field.sentence.flagAddress ≠ 0 := by
      show publish request.held timed ScreenData.isNewSentence ≠ 0
      rw [holds.2.2.2]
      decide
    simp only [background, newStamps_time flag] at picture
    rw [newStamps, if_neg word, newStamps, if_neg sentence, List.nil_append] at picture
    rw [← pair]
    exact picture

/-- A later time hides the one that is seen. -/
theorem paintAll_shownTime (same : SameSizes font) {time later : Option (UInt8 × UInt8)}
    (times : ∀ min sec, time = some (min, sec) → min.toNat < 100 ∧ sec.toNat < 100)
    (times' : ∀ min sec, later = some (min, sec) → min.toNat < 100 ∧ sec.toNat < 100)
    (canvas : Raster.Canvas UInt16) :
    Raster.paintAll canvas (shownTime font LT_BACKGROUND_COLOR time ++
        shownTime font LT_BACKGROUND_COLOR later) =
      Raster.paintAll canvas (shownTime font LT_BACKGROUND_COLOR (later.or time)) := by
  cases shown : later with
  | none => rw [Option.none_or, shownTime, List.append_nil]
  | some new =>
      rcases new with ⟨min', sec'⟩
      have bounds' := times' min' sec' shown
      rw [Option.some_or]
      have covering : ∀ stamp ∈ shownTime font LT_BACKGROUND_COLOR time, ∀ column row,
          stamp.region.Covers column row →
            ∃ stamp' ∈ shownTime font LT_BACKGROUND_COLOR (some (min', sec')),
              stamp'.region.Covers column row := by
        cases earlier : time with
        | none =>
            intro stamp member
            cases member
        | some old =>
            have bounds := times old.1 old.2 earlier
            exact timeStamps_over same bounds.1 bounds.2 bounds'.1 bounds'.2 LT_BACKGROUND_COLOR
              fun _ => ⟨true, true⟩
      exact Raster.paintAll_over canvas [] covering

/-- A round without a response. -/
theorem ScreenShows.unanswered (documented : lcd.Documented) (same : SameSizes font)
    (shows : ScreenShows font before seen) (proper : round.Proper) (idle : ¬ round.Answered) :
    ∃ after, roundNext font before round = some after ∧
      ScreenShows font after ⟨seen.pair, round.time.or seen.time⟩ := by
  have published := timerPublishes_published round (shows.flags .time)
  have silent : ¬ ((timerPublishes round before).main.s_isWordRequest = true ∧
      round.layer.connected) := by
    rw [timerPublishes, shows.idle]
    exact idle
  rcases mainIteration_idle font (fun _ _ => true) silent with
    ⟨request, middle, kept⟩
  have pair : heldPair request.held = seen.pair := by
    rw [kept]
    exact shows.held
  have positioned := published.positioned shows.positioned
  have word : (timerPublishes round before).main.screenData Field.word.flagAddress = 0 :=
    (published.flag_other (by decide)).trans (shows.flags .word)
  have sentence : (timerPublishes round before).main.screenData Field.sentence.flagAddress = 0 :=
    (published.flag_other (by decide)).trans (shows.flags .sentence)
  have picture : ShowsStamps (timerPublishes round before).screen
      (seenStamps font LT_BACKGROUND_COLOR seen) := shows.picture
  have color : (timerPublishes round before).screen.s_backgroud_color = LT_BACKGROUND_COLOR :=
    shows.color
  generalize (timerPublishes round before).main.screenData = timed at *
  generalize (timerPublishes round before).screen = screen at *
  have ready := readyToDraw_round proper positioned shows.showable
    (fun new => absurd word new) (fun new => absurd sentence new) published.flag published.holds
  rcases Task_UpdateScreen_shows documented same.sized ⟨⟨false, request, timed⟩, screen⟩ picture
    ready allGranted allSent with ⟨after, updated, drawn, sameColor⟩
  refine ⟨_, by rw [roundNext, middle]; exact updated, ?_⟩
  refine ⟨rfl, clearFlags_flag _, ?_, pair, shows.showable, ?_, sameColor.trans color, ?_⟩
  · exact positioned.congr fun address other _ => clearFlags_other _ other
  · intro min sec shown
    rcases Option.or_eq_some_iff.mp shown with new | ⟨_, old⟩
    · exact proper.time min sec new
    · exact shows.times min sec old
  · simp only [color, newStamps_time published.flag] at drawn
    rw [newStamps, if_pos word, newStamps, if_pos sentence, List.append_nil, List.append_nil]
      at drawn
    apply drawn.congr
    intro canvas
    rw [seenStamps, seenStamps, List.append_assoc _ _ (shownTime _ _ round.time),
      Raster.paintAll_append, paintAll_shownTime same shows.times proper.time,
      ← Raster.paintAll_append]

theorem ScreenShows.next (documented : lcd.Documented) (same : SameSizes font)
    (shows : ScreenShows font before seen) (proper : round.Proper) :
    ∃ after, roundNext font before round = some after ∧
      ScreenShows font after (seenNext seen round) := by
  rw [seenNext]
  by_cases answered : round.Answered
  · rw [if_pos answered]
    exact shows.answered documented same proper answered
  · rw [if_neg answered]
    exact shows.unanswered documented same proper answered

end Step

/-! ## Any number of rounds -/

/-- The globals of `task.c` and of the request as their initializers leave them. -/
def MainState.initial : MainState :=
  ⟨false, .initial, ScreenData.initial⟩

theorem flags_initial (field : Field) : MainState.initial.screenData field.flagAddress = 0 := by
  cases field <;> decide +kernel

theorem heldPair_initial : heldPair MainState.initial.request.held = Seen.initial.pair := by
  decide

section Run

variable {lcd : LcdController}

theorem screenShows_initial (font : UInt32 → Option FontImage) {screen : ScreenPanel lcd}
    (color : screen.s_backgroud_color = LT_BACKGROUND_COLOR) (blank : ShowsStamps screen []) :
    ScreenShows font ⟨.initial, screen⟩ .initial where
  idle := rfl
  flags := flags_initial
  positioned := positioned_initial
  held := heldPair_initial
  showable := showable_initial
  times := fun _ _ none => by cases none
  color := color
  picture := blank

theorem ScreenShows.run (documented : lcd.Documented) {font : UInt32 → Option FontImage}
    (same : SameSizes font) {before : ShownState lcd} {seen : Seen}
    (shows : ScreenShows font before seen)
    (rounds : List Round) (proper : ∀ round ∈ rounds, round.Proper) :
    ∃ after, Transition.run (roundNext font) before rounds = some after ∧
      ScreenShows font after (rounds.foldl seenNext seen) := by
  induction rounds generalizing before seen with
  | nil => exact ⟨before, rfl, shows⟩
  | cons round rest ih =>
      rw [List.forall_mem_cons] at proper
      rcases shows.next documented same proper.1 with ⟨middle, moved, shows'⟩
      rcases ih shows' proper.2 with ⟨after, executed, shows''⟩
      refine ⟨after, ?_, shows''⟩
      rw [Transition.run, Option.bind_eq_some_iff]
      exact ⟨middle, moved, executed⟩

end Run

/-- A response and a second without one. -/
def firstRounds : List Round :=
  [⟨some (2, 0), true, SocketLayer.succeeding [.data 13 [10, 13, 10, 97, 58, 98]]⟩,
    ⟨some (1, 59), false, SocketLayer.succeeding []⟩]

theorem firstRounds_proper : ∀ round ∈ firstRounds, round.Proper := by
  have letters : splitResponse (responseText
      (SocketLayer.succeeding [.data 13 [10, 13, 10, 97, 58, 98]])) = some ([97], [98]) := by
    decide +kernel
  unfold firstRounds
  rw [List.forall_mem_cons, List.forall_mem_singleton]
  constructor
  · refine ⟨fun min sec shown => by cases shown; decide, ?_⟩
    rintro _ word sentence ⟨rest, splits, _, cut⟩
    rw [← splitResponse_eq_some_iff, letters] at splits
    cases splits
    subst cut
    exact ⟨.ascii (by decide) .empty, by decide, .ascii (by decide) .empty, by decide⟩
  · refine ⟨fun min sec shown => by cases shown; decide, ?_⟩
    rintro ⟨requested, _⟩
    cases requested

end Tasks
end ToothVoca
