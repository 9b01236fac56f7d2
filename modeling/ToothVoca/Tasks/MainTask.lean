import ToothVoca.Library.Transition
import ToothVoca.Network.ReqWord

namespace ToothVoca
namespace Tasks

open Library Network

/-!
# The main task and the screen data it publishes into (`task.c`)

`Task_MainTask` polls `s_isWordRequest`.  When a request returns true it
resets the background and copies word and sentence into the shared
`ScreenData`, setting the flag of each field behind its copy.

The copies know the length of the static arrays of `req_word.c` but not the
size of the destination.  `ScreenData` is therefore laid out here as memory:
the fields stand at the offsets that natural alignment gives them, and a copy
is the list of its writes.  `word[100]` is shorter than the static `word[128]`
it is filled from, so which fields a publication reaches is decided by the
length of the word and by nothing else.
-/

namespace ScreenData

/-- The next multiple of four, where a `uint32_t` may stand. -/
def align4 (offset : Nat) : Nat :=
  (offset + 3) / 4 * 4

def isNewWord : Nat := 0
def word : Nat := isNewWord + 1
def word_x : Nat := align4 (word + 100)
def word_y : Nat := word_x + 4
def isNewSentence : Nat := word_y + 4
def sentence : Nat := isNewSentence + 1
def sentence_x : Nat := align4 (sentence + 256)
def sentence_y : Nat := sentence_x + 4
def isNewTime : Nat := sentence_y + 4
def time : Nat := isNewTime + 1
def time_x : Nat := align4 (time + 20)
def time_y : Nat := time_x + 4

/-- The addresses that a publication is meant to change: the two texts and
the flags of their fields. -/
def Published (address : Nat) : Prop :=
  (word ≤ address ∧ address < word + 100) ∨ (sentence ≤ address ∧ address < sentence + 256) ∨
    address = isNewWord ∨ address = isNewSentence

end ScreenData

/-- What the main task calls beside the request. -/
inductive MainCall where
  | LcdTouch_ResetBackground
  | ReqWord_GetWord
  | ReqWord_GetSentence
  | AudioStream_Run
deriving DecidableEq, Repr

/-- The state that one iteration of the main task reads and writes. -/
structure MainState where
  s_isWordRequest : Bool
  request : ReqWordState
  screenData : Nat → UInt8

/-- The publication of a fetched pair, in the order of the source. -/
def publish (held : WordSentence) (screenData : Nat → UInt8) : Nat → UInt8 :=
  let withWord := RawMemory.apply ScreenData.word (ReqWord_GetWord held) screenData
  let withWordFlag := Function.update withWord ScreenData.isNewWord 1
  let withSentence :=
    RawMemory.apply ScreenData.sentence (ReqWord_GetSentence held) withWordFlag
  Function.update withSentence ScreenData.isNewSentence 1

/-- One iteration of `Task_MainTask` up to its delay. -/
def Task_MainTask (layer : SocketLayer) (before : MainState) : MainState × List MainCall :=
  if before.s_isWordRequest then
    let requested := ReqWord_Requset layer before.request
    if requested.1 then
      ({ s_isWordRequest := false
         request := requested.2
         screenData := publish requested.2.held before.screenData },
        [.LcdTouch_ResetBackground, .ReqWord_GetWord, .ReqWord_GetSentence, .AudioStream_Run])
    else
      ({ before with s_isWordRequest := false, request := requested.2 }, [])
  else
    (before, [])

/-! ## Where a publication writes -/

/-- A publication stays inside its two arrays, terminators included, and
changes no other field of `ScreenData`. -/
def Confined (held : WordSentence) : Prop :=
  (∀ write ∈ ReqWord_GetWord held, write.1 < 100) ∧
    (∀ write ∈ ReqWord_GetSentence held, write.1 < 256) ∧
    ∀ screenData address, ¬ ScreenData.Published address →
      publish held screenData address = screenData address

/-- The responses after which the word held is at most 99 bytes long: their
word has at most 99 bytes, or so many that the parser clears the array; where
nothing is parsed, the word held before is at most 99 bytes long. -/
def WordFits (text : List UInt8) (held : WordSentence) : Prop :=
  (∀ word rest, Splits text word rest → word.length ≤ 99 ∨ 128 ≤ word.length) ∧
    ((∀ word rest, ¬ Splits text word rest) → CString.strlen held.word.bytes ≤ 99)

/-- The states of `http_req.c` and `req_word.c` after any history of
requests. -/
def RequestReachable : ReqWordState → Prop :=
  Transition.Reachable (fun state layer => some (ReqWord_Requset layer state).2)
    Transition.anyStep ReqWordState.initial

/-- One request keeps the sentence shorter than its array. -/
theorem sentence_short_step (layer : SocketLayer) (state : ReqWordState)
    (short : CString.strlen state.held.sentence.bytes ≤ 255) :
    CString.strlen (ReqWord_Requset layer state).2.held.sentence.bytes ≤ 255 := by
  by_cases connected : layer.connected
  · rcases (ReqWord_Requset_connected connected state).2 with ⟨buf, _, parsed⟩
    rw [parsed]
    rcases ReqWord_ParseResponse_cases buf state.held with
      ⟨word, rest, _, _, _, stored⟩ | ⟨word, rest, _, _, cleared⟩ | ⟨_, kept⟩
    · rw [CString.strlen, stored]
      exact List.length_take_le _ _
    · rw [cleared]
      exact short
    · rw [kept]
      exact short
  · rw [(ReqWord_Requset_refused connected state).2]
    exact short

theorem sentence_short {state : ReqWordState} (reachable : RequestReachable state) :
    CString.strlen state.held.sentence.bytes ≤ 255 := by
  refine Transition.Reachable.invariant
    (fun state => CString.strlen state.held.sentence.bytes ≤ 255) reachable ?_ ?_
  · decide
  · intro before layer after short _ moved
    cases moved
    exact sentence_short_step layer before short

/-- The frame of a publication whose indices are in bounds. -/
theorem publish_frame {held : WordSentence}
    (wordBound : ∀ write ∈ ReqWord_GetWord held, write.1 < 100)
    (sentenceBound : ∀ write ∈ ReqWord_GetSentence held, write.1 < 256)
    (screenData : Nat → UInt8) (address : Nat) (outside : ¬ ScreenData.Published address) :
    publish held screenData address = screenData address := by
  unfold ScreenData.Published at outside
  have notWordFlag : address ≠ ScreenData.isNewWord := fun same => outside (by simp [same])
  have notSentenceFlag : address ≠ ScreenData.isNewSentence := fun same => outside (by simp [same])
  have wordUnnamed : ∀ write ∈ ReqWord_GetWord held, ScreenData.word + write.1 ≠ address := by
    intro write member named
    have bound := wordBound write member
    omega
  have sentenceUnnamed :
      ∀ write ∈ ReqWord_GetSentence held, ScreenData.sentence + write.1 ≠ address := by
    intro write member named
    have bound := sentenceBound write member
    omega
  simp only [publish]
  rw [Function.update_of_ne notSentenceFlag, RawMemory.apply_of_not_named sentenceUnnamed,
    Function.update_of_ne notWordFlag, RawMemory.apply_of_not_named wordUnnamed]

theorem confined_iff_strlen {held : WordSentence}
    (sentenceShort : CString.strlen held.sentence.bytes ≤ 255) :
    Confined held ↔ CString.strlen held.word.bytes ≤ 99 := by
  constructor
  · rintro ⟨wordBound, _, _⟩
    exact Nat.le_of_lt_succ (wordBound _ (ReqWord_GetWord_terminator held))
  · intro wordShort
    have wordBound : ∀ write ∈ ReqWord_GetWord held, write.1 < 100 := fun write member =>
      Nat.lt_succ_of_le (Nat.le_trans (ReqWord_GetWord_index member) wordShort)
    have sentenceBound : ∀ write ∈ ReqWord_GetSentence held, write.1 < 256 := fun write member =>
      Nat.lt_succ_of_le (Nat.le_trans (ReqWord_GetSentence_index member) sentenceShort)
    exact ⟨wordBound, sentenceBound, publish_frame wordBound sentenceBound⟩

theorem strlen_word_iff_fits {layer : SocketLayer} (connected : layer.connected)
    (state : ReqWordState) :
    CString.strlen (ReqWord_Requset layer state).2.held.word.bytes ≤ 99 ↔
      WordFits (responseText layer) state.held := by
  rcases (ReqWord_Requset_connected connected state).2 with ⟨buf, text, parsed⟩
  rw [parsed, ← text]
  rcases ReqWord_ParseResponse_cases buf state.held with
    ⟨word, rest, splits, short, stored, _⟩ | ⟨word, rest, splits, long, cleared⟩ | ⟨none, kept⟩
  · rw [CString.strlen, stored]
    constructor
    · intro fits
      refine ⟨?_, fun none => absurd splits (none word rest)⟩
      intro word' rest' splits'
      rw [← (splits.unique splits').1]
      exact Or.inl fits
    · intro fits
      rcases fits.1 word rest splits with le | ge
      · exact le
      · exact absurd ge (Nat.not_le_of_lt short)
  · have empty : CString.strlen (Buffer.zero 128).bytes ≤ 99 := by decide
    rw [cleared]
    refine iff_of_true empty ⟨?_, fun none => absurd splits (none word rest)⟩
    intro word' rest' splits'
    rw [← (splits.unique splits').1]
    exact Or.inr long
  · rw [kept]
    constructor
    · exact fun fits => ⟨fun word rest splits => absurd splits (none word rest), fun _ => fits⟩
    · exact fun fits => fits.2 none

/-- After a request that returned true, the publication stays inside
`word[100]` and `sentence[256]` exactly when the word held is at most 99 bytes
long, as the response and the earlier word decide it. -/
theorem publication_confined_iff (layer : SocketLayer) (state : ReqWordState)
    (reachable : RequestReachable state)
    (returned : (ReqWord_Requset layer state).1 = true) :
    Confined (ReqWord_Requset layer state).2.held ↔
      WordFits (responseText layer) state.held := by
  have connected := (ReqWord_Requset_ok state).mp returned
  have sentenceShort := sentence_short_step layer state (sentence_short reachable)
  rw [confined_iff_strlen sentenceShort, strlen_word_iff_fits connected]

/-- A word of one byte, fetched by the first request. -/
theorem publication_confined_short :
    Confined (ReqWord_Requset (SocketLayer.succeeding [.data 13 [10, 13, 10, 97, 58, 98]])
        ReqWordState.initial).2.held ↔
      WordFits (responseText (SocketLayer.succeeding [.data 13 [10, 13, 10, 97, 58, 98]]))
        ReqWordState.initial.held :=
  publication_confined_iff _ _ Relation.ReflTransGen.refl
    ((ReqWord_Requset_ok _).mpr (by decide))

/-- The response `\r\n\r\n` followed by `length` letters and a colon. -/
def letters (length : Nat) : SocketLayer :=
  SocketLayer.succeeding [.data 13 ([10, 13, 10] ++ (List.replicate length 65 ++ [COLON]))]

theorem letters_yields {length : Nat} (short : length ≤ 127) :
    Yields (responseText (letters length)) (List.replicate length 65) [] := by
  have noColon : COLON ∉ List.replicate length 65 := by
    simp [List.mem_replicate, COLON]
  have shape : stream (letters length).reads =
      [] ++ CRLFCRLF ++ (List.replicate length 65 ++ COLON :: []) := by
    simp [letters, SocketLayer.succeeding, stream, CRLFCRLF]
  have free : CString.NulFree ([] ++ CRLFCRLF ++ (List.replicate length 65 ++ COLON :: [])) := by
    simp [CString.NulFree, CRLFCRLF, COLON, List.mem_replicate]
  have fits : ([] ++ CRLFCRLF ++ (List.replicate length 65 ++ COLON :: [])).length ≤
      MAX_REC_BUFFER_SIZE - 1 := by
    simp only [List.nil_append, List.length_append, List.length_replicate, List.length_cons,
      List.length_nil, CRLFCRLF, MAX_REC_BUFFER_SIZE]
    omega
  have text : responseText (letters length) =
      [] ++ CRLFCRLF ++ (List.replicate length 65 ++ COLON :: []) := by
    rw [responseText, received, shape, List.take_of_length_le fits, CString.content_eq_self free]
  refine ⟨[], ⟨[], text, ?_, noColon⟩, by rw [List.length_replicate]; omega, rfl⟩
  rw [text]
  exact CString.occurrence_of_split fun earlier before => absurd before (Nat.not_lt_zero _)

/-- A word of 127 bytes: it fits `word[128]`, and its terminator is written 28
bytes behind the end of `word[100]`. -/
theorem publication_not_confined :
    ¬ ∀ (layer : SocketLayer) (state : ReqWordState), RequestReachable state →
      (ReqWord_Requset layer state).1 = true →
      Confined (ReqWord_Requset layer state).2.held := by
  intro confined
  have connected : (letters 127).connected := by
    simp [SocketLayer.connected, letters, SocketLayer.succeeding]
  have stored := (ReqWord_Requset_yields connected (letters_yields (Nat.le_refl 127)) .initial).1
  have bound := (confined (letters 127) .initial Relation.ReflTransGen.refl
    ((ReqWord_Requset_ok _).mpr connected)).1 _ (ReqWord_GetWord_terminator _)
  simp only [CString.strlen, stored, List.length_replicate] at bound
  omega

/-! ## What a reported success means -/

/-- Word and sentence have both been set from the response of this request. -/
def SetFromResponse (layer : SocketLayer) (after : WordSentence) : Prop :=
  layer.connected ∧ ∃ word sentence, Yields (responseText layer) word sentence ∧
    CString.content after.word.bytes = word ∧ CString.content after.sentence.bytes = sentence

/-- The request reports success exactly when it has set the pair, and the main
task clears the screen and publishes only then. -/
def ReportsPair (layer : SocketLayer) (state : ReqWordState) : Prop :=
  ((ReqWord_Requset layer state).1 = true ↔
      SetFromResponse layer (ReqWord_Requset layer state).2.held) ∧
    ∀ before : MainState, before.request = state → (Task_MainTask layer before).2 ≠ [] →
      SetFromResponse layer (Task_MainTask layer before).1.request.held

/-- The main task acts only behind a request that returned true, and on the
arrays that this request left. -/
theorem Task_MainTask_acts {layer : SocketLayer} {before : MainState}
    (acts : (Task_MainTask layer before).2 ≠ []) :
    (ReqWord_Requset layer before.request).1 = true ∧
      (Task_MainTask layer before).1.request = (ReqWord_Requset layer before.request).2 := by
  unfold Task_MainTask at acts ⊢
  by_cases requested : before.s_isWordRequest = true
  · by_cases returned : (ReqWord_Requset layer before.request).1 = true
    · simp [requested, returned]
    · simp [requested, returned] at acts
  · simp [requested] at acts

/-- The code reports its result faithfully exactly where a connected request
gets a response that yields a pair. -/
theorem reportsPair_iff (layer : SocketLayer) (state : ReqWordState) :
    ReportsPair layer state ↔
      (layer.connected → ∃ word sentence, Yields (responseText layer) word sentence) := by
  constructor
  · rintro ⟨reported, _⟩ connected
    rcases reported.mp ((ReqWord_Requset_ok state).mpr connected) with
      ⟨_, word, sentence, yields, _⟩
    exact ⟨word, sentence, yields⟩
  · intro wellFormed
    have reported : (ReqWord_Requset layer state).1 = true →
        SetFromResponse layer (ReqWord_Requset layer state).2.held := by
      intro returned
      have connected := (ReqWord_Requset_ok state).mp returned
      rcases wellFormed connected with ⟨word, sentence, yields⟩
      exact ⟨connected, word, sentence, yields, ReqWord_Requset_yields connected yields state⟩
    refine ⟨⟨reported, fun set => (ReqWord_Requset_ok state).mpr set.1⟩, ?_⟩
    rintro before rfl acts
    rcases Task_MainTask_acts acts with ⟨returned, same⟩
    rw [same]
    exact reported returned

/-- An empty response: nothing is parsed, and the request reports success. -/
theorem reportsPair_not_always :
    ¬ ∀ (layer : SocketLayer) (state : ReqWordState), ReportsPair layer state := by
  intro always
  have connected : (SocketLayer.succeeding [.closed]).connected := by decide
  have returned := (ReqWord_Requset_ok .initial).mpr connected
  rcases (always (SocketLayer.succeeding [.closed]) .initial).1.mp returned with
    ⟨_, word, sentence, ⟨rest, ⟨header, shape, _, _⟩, _, _⟩, _⟩
  have lengths := congrArg List.length shape
  simp [responseText, received, SocketLayer.succeeding, stream, CString.content, CRLFCRLF]
    at lengths

end Tasks
end ToothVoca
