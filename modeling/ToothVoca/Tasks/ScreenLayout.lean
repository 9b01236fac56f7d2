import ToothVoca.Display.Layout
import ToothVoca.Network.ReqWord
import ToothVoca.Tasks.TimerTask

namespace ToothVoca
namespace Tasks

open Library Display

/-!
# The three texts on one screen

`Task_UpdateScreen` draws word, sentence and time at fixed places of one
panel, and the number of lines that a text takes is limited nowhere.  Lines
are 25 rows apart in every text, and the first lines of word and sentence are
50 rows apart: the third line of a word stands on the first line of the
sentence.  The sixth line of a sentence stands beside the time, which begins
at column 150, and a seventh one would run through it.

`Roomy` states when a word and a sentence avoid this, in terms of their line
breaks.  A word that fits its array has at most seven lines, so it reaches
neither the time nor the end of the panel.
-/

namespace s_wordData

def word_x : UInt32 := 10
def word_y : UInt32 := 10
def sentence_x : UInt32 := 10
def sentence_y : UInt32 := 60
def time_x : UInt32 := 150
def time_y : UInt32 := 200

end s_wordData

/-- No rectangle of one text has a pixel in common with one of the other. -/
def Apart (first second : List GlyphDraw) : Prop :=
  ∀ draw ∈ first, ∀ draw' ∈ second, ¬ draw.rect.Intersects draw'.rect

/-- The three texts, drawn by `Task_UpdateScreen`, stay on the panel and apart
from each other. -/
def ScreenFits (word sentence time : List UInt8) : Prop :=
  ∃ wordDraws sentenceDraws timeDraws,
    LcdTouch_DrawString true fontImages (word ++ [0]) s_wordData.word_x s_wordData.word_y =
      some wordDraws ∧
    LcdTouch_DrawString true fontImages (sentence ++ [0]) s_wordData.sentence_x
      s_wordData.sentence_y = some sentenceDraws ∧
    LcdTouch_DrawString true fontImages (time ++ [0]) s_wordData.time_x s_wordData.time_y =
      some timeDraws ∧
    (∀ draw ∈ wordDraws ++ sentenceDraws ++ timeDraws,
      draw.rect.y + draw.rect.height ≤ LT_LCD_V_RES) ∧
    Apart wordDraws sentenceDraws ∧ Apart wordDraws timeDraws ∧ Apart sentenceDraws timeDraws

/-- The word takes at most two lines, or the sentence ends in front of the
margin; and the sentence takes at most five lines, or a sixth one that ends in
front of the time. -/
def Roomy (word sentence : List Char) : Prop :=
  ((textLines 10 (word.map glyphWidth)).length ≤ 2 ∨
      10 + LineBreak.advance 1 (sentence.map glyphWidth) ≤ 21) ∧
    (textLines 10 (sentence.map glyphWidth)).length ≤ 6 ∧
    ∀ line ∈ (textLines 10 (sentence.map glyphWidth))[5]?, 20 + LineBreak.advance 1 line ≤ 151

/-! ## The boxes of a text -/

theorem mem_textBoxes_iff {x : Nat} {widths : List Nat} {box : LineBreak.Box} :
    box ∈ textBoxes x widths ↔
      ∃ index line, (textLines x widths)[index]? = some line ∧
        box ∈ LineBreak.row 1 (LineBreak.lineStart 20 x index) index line := by
  have rows : box ∈ LineBreak.rows 20 1 x 0 (textLines x widths) ↔ _ := LineBreak.mem_rows_iff
  simp only [Nat.zero_add] at rows
  exact rows

/-- A box of a line stands between the start of the line and its end. -/
theorem textBoxes_bounds {x : Nat} {widths : List Nat} {box : LineBreak.Box}
    (member : box ∈ textBoxes x widths) :
    ∃ line, (textLines x widths)[box.line]? = some line ∧
      LineBreak.lineStart 20 x box.line ≤ box.x ∧
      box.x + box.width + 1 ≤ LineBreak.lineStart 20 x box.line + LineBreak.advance 1 line := by
  rcases mem_textBoxes_iff.mp member with ⟨index, line, found, inRow⟩
  rcases LineBreak.mem_row inRow with ⟨sameLine, right, inside⟩
  rw [sameLine]
  exact ⟨line, found, right, inside⟩

theorem flatten_textLines (x : Nat) (widths : List Nat) :
    (textLines x widths).flatten = widths :=
  LineBreak.flatten_breakLines x widths

/-- The first box of a line stands at its start. -/
theorem textBoxes_first {x index : Nat} {widths line : List Nat}
    (found : (textLines x widths)[index]? = some line) :
    ∃ width ∈ widths, ⟨LineBreak.lineStart 20 x index, index, width⟩ ∈ textBoxes x widths := by
  have member := List.mem_of_getElem? found
  cases line with
  | nil => exact absurd rfl (LineBreak.breakLines_nonempty member)
  | cons width rest =>
      refine ⟨width, ?_, mem_textBoxes_iff.mpr ⟨index, _, found, List.mem_cons_self⟩⟩
      rw [← flatten_textLines x widths]
      exact List.mem_flatten.mpr ⟨_, member, List.mem_cons_self⟩

/-- A line that is not the last reaches the right end. -/
theorem textLines_full {x index : Nat} {widths line : List Nat}
    (found : (textLines x widths)[index]? = some line)
    (more : index + 1 < (textLines x widths).length) :
    300 ≤ LineBreak.lineStart 20 x index + LineBreak.advance 1 line :=
  LineBreak.full_of_breakLines found more

/-- Widths that end in front of the limit stand on the first line. -/
theorem textBoxes_short {x : Nat} {widths : List Nat} {box : LineBreak.Box}
    (member : box ∈ textBoxes x widths) (short : x + LineBreak.advance 1 widths < 300) :
    box.line = 0 ∧ box.x + box.width + 1 ≤ x + LineBreak.advance 1 widths := by
  rcases textBoxes_bounds member with ⟨line, found, _, right⟩
  have nonempty : widths ≠ [] := by
    intro empty
    rw [empty] at found
    cases found
  have single : textLines x widths = [widths] :=
    LineBreak.breakLines_of_short nonempty short
  rw [single, List.getElem?_singleton] at found
  by_cases first : box.line = 0
  · rw [if_pos first] at found
    cases found
    rw [first] at right
    exact ⟨first, right⟩
  · rw [if_neg first] at found
    cases found

theorem textLines_single {x : Nat} {widths line : List Nat}
    (found : (textLines x widths)[0]? = some line) (last : (textLines x widths).length ≤ 1) :
    line = widths := by
  have flat := flatten_textLines x widths
  have shape : textLines x widths = [line] := by
    cases lines : textLines x widths with
    | nil =>
        rw [lines] at found
        cases found
    | cons first rest =>
        rw [lines] at found last
        cases found
        cases rest with
        | nil => rfl
        | cons second others => exact absurd last (by simp)
  rw [shape, List.flatten_singleton] at flat
  exact flat

/-! ## How far a word reaches -/

/-- Twenty columns for each byte: a box with fewer than 99 bytes in front of it
stands in one of the first seven lines. -/
theorem layout_line_le (x line used : Nat) {text : List Char}
    (supported : SupportedText text) (short : used + (Utf8.encode text).length ≤ 99)
    (first : (line = 0 ∧ x ≤ 10 + 20 * used) ∨
      (1 ≤ line ∧ 20 ≤ x ∧ 280 * line + x ≤ 20 * used)) :
    ∀ box ∈ LineBreak.layout 20 300 1 x line (text.map glyphWidth), box.line ≤ 6 := by
  induction text generalizing x line used with
  | nil =>
      intro box member
      cases member
  | cons character rest ih =>
      rcases supportedText_cons.mp supported with ⟨head, tail⟩
      have bounds := glyphWidth_bounds head
      have positive := character.utf8Size_pos
      rw [Utf8.encode_cons, List.length_append] at short
      rw [String.length_utf8EncodeChar] at short bounds
      intro box member
      rw [List.map_cons, LineBreak.layout] at member
      rcases List.mem_cons.mp member with here | later
      · rw [here]
        simp only
        omega
      · by_cases full : 300 ≤ x + (glyphWidth character + 1)
        · rw [if_pos full] at later
          exact ih _ _ (used + character.utf8Size) tail (by omega) (by omega) box later
        · rw [if_neg full] at later
          exact ih _ _ (used + character.utf8Size) tail (by omega) (by omega) box later

theorem word_line_le {word : List Char} (supported : SupportedText word)
    (short : (Utf8.encode word).length ≤ 99) :
    ∀ box ∈ textBoxes 10 (word.map glyphWidth), box.line ≤ 6 := by
  have bound := layout_line_le 10 0 0 supported (by omega) (by omega)
  rw [LineBreak.layout_eq_rows] at bound
  exact bound

/-! ## The time -/

/-- The boxes of a time text: digits 11 columns wide, blanks and the colon 7. -/
def timeBoxes : List LineBreak.Box :=
  [⟨150, 0, 11⟩, ⟨162, 0, 11⟩, ⟨174, 0, 7⟩, ⟨182, 0, 7⟩, ⟨190, 0, 7⟩, ⟨198, 0, 11⟩,
    ⟨210, 0, 11⟩]

theorem unitsOf_ascii {text : List UInt8} (ascii : ∀ byte ∈ text, byte.toNat < 127) :
    unitsOf text = text.map .single := by
  induction text with
  | nil => rfl
  | cons first rest ih =>
      rcases List.forall_mem_cons.mp ascii with ⟨head, tail⟩
      rw [unitsOf_refused (Or.inl head), ih tail, List.map_cons]

theorem twoDigits_units {value : UInt8} (small : value.toNat < 100) :
    (twoDigits value).map (fun byte => unitWidth (.single byte)) = [11, 11] ∧
      ∀ byte ∈ twoDigits value, 32 ≤ byte.toNat ∧ byte.toNat ≤ 126 := by
  have checked := forall_byte (fun value => value.toNat < 100 →
    (twoDigits value).map (fun byte => unitWidth (.single byte)) = [11, 11] ∧
      (twoDigits value).all (fun byte => 32 ≤ byte.toNat ∧ byte.toNat ≤ 126) = true)
    (by decide +kernel) value small
  exact ⟨checked.1, fun byte member =>
    of_decide_eq_true (List.all_eq_true.mp checked.2 byte member)⟩

theorem timeText_units {min sec : UInt8} (minSmall : min.toNat < 100)
    (secSmall : sec.toNat < 100) :
    (∀ byte ∈ timeText min sec, 32 ≤ byte.toNat ∧ byte.toNat ≤ 126) ∧
      (unitsOf (timeText min sec)).map unitWidth = [11, 11, 7, 7, 7, 11, 11] := by
  have minutes := twoDigits_units minSmall
  have seconds := twoDigits_units secSmall
  have middle : ∀ byte ∈ ([32, 58, 32] : List UInt8), 32 ≤ byte.toNat ∧ byte.toNat ≤ 126 := by
    simp
  have printable : ∀ byte ∈ timeText min sec, 32 ≤ byte.toNat ∧ byte.toNat ≤ 126 := by
    intro byte member
    rcases List.mem_append.mp member with front | inSeconds
    · rcases List.mem_append.mp front with inMinutes | between
      · exact minutes.2 byte inMinutes
      · exact middle byte between
    · exact seconds.2 byte inSeconds
  refine ⟨printable, ?_⟩
  have separators : ([32, 58, 32] : List UInt8).map (fun byte => unitWidth (.single byte)) =
      [7, 7, 7] := by decide +kernel
  rw [unitsOf_ascii fun byte member => Nat.lt_succ_of_le (printable byte member).2, List.map_map]
  show (timeText min sec).map (fun byte => unitWidth (.single byte)) = _
  rw [timeText, List.map_append, List.map_append, minutes.1, separators, seconds.1]
  rfl

/-! ## From rectangles to boxes -/

def BoxesApart (y y' : Nat) (first second : List LineBreak.Box) : Prop :=
  ∀ box ∈ first, ∀ box' ∈ second, ¬ (boxRect y box).Intersects (boxRect y' box')

/-- The layout of word and sentence keeps them on the panel and apart from
each other and from the time. -/
structure BoxesFit (word sentence : List LineBreak.Box) : Prop where
  wordInside : ∀ box ∈ word, 10 + 25 * box.line + 20 ≤ 240
  sentenceInside : ∀ box ∈ sentence, 60 + 25 * box.line + 20 ≤ 240
  wordSentence : BoxesApart 10 60 word sentence
  wordTime : BoxesApart 10 200 word timeBoxes
  sentenceTime : BoxesApart 60 200 sentence timeBoxes

section Rects

variable {draws draws' : List GlyphDraw} {boxes boxes' : List LineBreak.Box} {y y' : Nat}

theorem apart_iff (rects : draws.map GlyphDraw.rect = boxes.map (boxRect y))
    (rects' : draws'.map GlyphDraw.rect = boxes'.map (boxRect y')) :
    Apart draws draws' ↔ BoxesApart y y' boxes boxes' := by
  have overRects : Apart draws draws' ↔ ∀ rect ∈ draws.map GlyphDraw.rect,
      ∀ rect' ∈ draws'.map GlyphDraw.rect, ¬ rect.Intersects rect' := by
    simp only [List.forall_mem_map, Apart]
  rw [overRects, rects, rects']
  simp only [List.forall_mem_map, BoxesApart]

theorem inside_iff (rects : draws.map GlyphDraw.rect = boxes.map (boxRect y)) :
    (∀ draw ∈ draws, draw.rect.y + draw.rect.height ≤ LT_LCD_V_RES) ↔
      ∀ box ∈ boxes, y + 25 * box.line + 20 ≤ 240 := by
  have overRects : (∀ draw ∈ draws, draw.rect.y + draw.rect.height ≤ LT_LCD_V_RES) ↔
      ∀ rect ∈ draws.map GlyphDraw.rect, rect.y + rect.height ≤ LT_LCD_V_RES := by
    simp only [List.forall_mem_map]
  rw [overRects, rects]
  simp only [List.forall_mem_map]
  exact Iff.rfl

end Rects

/-- The rectangles of a supported text of the screen. -/
theorem supported_rects {text : List Char} (supported : SupportedText text)
    (short : (Utf8.encode text).length ≤ 255) {x y : UInt32} (inLine : x.toNat < 300)
    (room : y.toNat ≤ 240) :
    ∃ draws, LcdTouch_DrawString true fontImages (Utf8.encode text ++ [0]) x y = some draws ∧
      draws.map GlyphDraw.rect =
        (textBoxes x.toNat (text.map glyphWidth)).map (boxRect y.toNat) := by
  rw [← map_unitWidth_supported supported]
  exact LcdTouch_DrawString_rects supported.nulFree (unitsOf_inTable supported) short inLine room

/-- The rectangles of a time text. -/
theorem time_rects {min sec : UInt8} (minSmall : min.toNat < 100) (secSmall : sec.toNat < 100) :
    ∃ draws, LcdTouch_DrawString true fontImages (timeText min sec ++ [0]) s_wordData.time_x
        s_wordData.time_y = some draws ∧
      draws.map GlyphDraw.rect = timeBoxes.map (boxRect 200) := by
  rcases timeText_units minSmall secSmall with ⟨printable, widths⟩
  have free : CString.NulFree (timeText min sec) := fun member =>
    absurd (printable 0 member).1 (by decide)
  have inTable : ∀ unit ∈ unitsOf (timeText min sec), InTable unit.code.toNat := by
    rw [unitsOf_ascii fun byte member => Nat.lt_succ_of_le (printable byte member).2]
    intro unit member
    rcases List.mem_map.mp member with ⟨byte, inText, shape⟩
    rw [← shape]
    have code : (DecodedUnit.single byte).code.toNat = byte.toNat := UInt8.toNat_toUInt32 byte
    rw [code]
    exact Or.inl (printable byte inText)
  have length : (timeText min sec).length ≤ 255 := by
    unfold timeText twoDigits
    split <;> split <;> simp
  rcases LcdTouch_DrawString_rects free inTable length (x := s_wordData.time_x)
    (y := s_wordData.time_y) (by decide) (by decide) with ⟨draws, drawn, rects⟩
  rw [widths] at rects
  exact ⟨draws, drawn, rects⟩

theorem screenFits_iff_boxes {word sentence : List Char} (wordSupported : SupportedText word)
    (sentenceSupported : SupportedText sentence) (wordShort : (Utf8.encode word).length ≤ 99)
    (sentenceShort : (Utf8.encode sentence).length ≤ 255) {min sec : UInt8}
    (minSmall : min.toNat < 100) (secSmall : sec.toNat < 100) :
    ScreenFits (Utf8.encode word) (Utf8.encode sentence) (timeText min sec) ↔
      BoxesFit (textBoxes 10 (word.map glyphWidth)) (textBoxes 10 (sentence.map glyphWidth)) := by
  rcases supported_rects wordSupported (by omega) (x := s_wordData.word_x)
    (y := s_wordData.word_y) (by decide) (by decide) with ⟨wordDraws, wordDrawn, wordRects⟩
  rcases supported_rects sentenceSupported sentenceShort (x := s_wordData.sentence_x)
    (y := s_wordData.sentence_y) (by decide) (by decide) with
    ⟨sentenceDraws, sentenceDrawn, sentenceRects⟩
  rcases time_rects minSmall secSmall with ⟨timeDraws, timeDrawn, timeRects⟩
  have timeInside : ∀ box ∈ timeBoxes, 200 + 25 * box.line + 20 ≤ 240 := by decide
  constructor
  · rintro ⟨_, _, _, wordDrawn', sentenceDrawn', timeDrawn', inside, apart, apart', apart''⟩
    cases wordDrawn.symm.trans wordDrawn'
    cases sentenceDrawn.symm.trans sentenceDrawn'
    cases timeDrawn.symm.trans timeDrawn'
    simp only [List.forall_mem_append] at inside
    exact {
      wordInside := (inside_iff wordRects).mp inside.1.1
      sentenceInside := (inside_iff sentenceRects).mp inside.1.2
      wordSentence := (apart_iff wordRects sentenceRects).mp apart
      wordTime := (apart_iff wordRects timeRects).mp apart'
      sentenceTime := (apart_iff sentenceRects timeRects).mp apart'' }
  · intro fit
    refine ⟨_, _, _, wordDrawn, sentenceDrawn, timeDrawn, ?_,
      (apart_iff wordRects sentenceRects).mpr fit.wordSentence,
      (apart_iff wordRects timeRects).mpr fit.wordTime,
      (apart_iff sentenceRects timeRects).mpr fit.sentenceTime⟩
    simp only [List.forall_mem_append]
    exact ⟨⟨(inside_iff wordRects).mpr fit.wordInside,
      (inside_iff sentenceRects).mpr fit.sentenceInside⟩, (inside_iff timeRects).mpr timeInside⟩

/-! ## Room for both texts -/

section Room

variable {wordWidths sentenceWidths : List Nat}

/-- A third line of the word meets a sentence that reaches the margin. -/
theorem wordSentence_meet (wide : ∀ width ∈ wordWidths, 3 ≤ width)
    (apart : BoxesApart 10 60 (textBoxes 10 wordWidths) (textBoxes 10 sentenceWidths)) :
    (textLines 10 wordWidths).length ≤ 2 ∨ 10 + LineBreak.advance 1 sentenceWidths ≤ 21 := by
  by_contra both
  have long : 2 < (textLines 10 wordWidths).length := by omega
  have reaches : 21 < 10 + LineBreak.advance 1 sentenceWidths := by omega
  rcases textBoxes_first (List.getElem?_eq_getElem long) with ⟨width, inWord, member⟩
  have widthBound := wide width inWord
  have someLine : 0 < (textLines 10 sentenceWidths).length := by
    by_contra none
    have empty := List.eq_nil_of_length_eq_zero (Nat.eq_zero_of_not_pos none)
    have flat := flatten_textLines 10 sentenceWidths
    rw [empty] at flat
    rw [← flat] at reaches
    exact absurd reaches (by decide)
  have found := List.getElem?_eq_getElem someLine
  have firstReaches : 21 < 10 + LineBreak.advance 1 (textLines 10 sentenceWidths)[0] := by
    by_cases last : (textLines 10 sentenceWidths).length ≤ 1
    · rw [textLines_single found last]
      exact reaches
    · have full := textLines_full found (by omega)
      have start : LineBreak.lineStart 20 10 0 = 10 := rfl
      omega
  rcases LineBreak.row_meets 1 10 0 20 (20 + width) (by omega) (by omega) firstReaches with
    ⟨box, inRow, left, right⟩
  have inSentence := mem_textBoxes_iff.mpr ⟨0, _, found, inRow⟩
  have sameLine := (LineBreak.mem_row inRow).1
  refine apart _ member box inSentence ⟨?_, ?_, ?_, ?_⟩
  · exact right
  · exact left
  · simp only [boxRect, sameLine]
    omega
  · simp only [boxRect, sameLine]
    omega

/-- A sixth line of the sentence that reaches column 151 meets the time. -/
theorem sentenceTime_meet
    (apart : BoxesApart 60 200 (textBoxes 10 sentenceWidths) timeBoxes) {line : List Nat}
    (found : (textLines 10 sentenceWidths)[5]? = some line) :
    20 + LineBreak.advance 1 line ≤ 151 := by
  by_contra reaches
  rcases LineBreak.row_meets 1 20 5 150 161 (by omega) (by omega) (Nat.lt_of_not_le reaches)
    with ⟨box, inRow, left, right⟩
  have inSentence := mem_textBoxes_iff.mpr ⟨5, _, found, inRow⟩
  have sameLine := (LineBreak.mem_row inRow).1
  refine apart box inSentence ⟨150, 0, 11⟩ (by decide) ⟨?_, ?_, ?_, ?_⟩
  · exact left
  · exact right
  · simp only [boxRect, sameLine]
    omega
  · simp only [boxRect, sameLine]
    omega

/-- A sixth line in front of the time does not reach the right end, so it is the
last one. -/
theorem sentence_sixLines
    (sixth : ∀ line ∈ (textLines 10 sentenceWidths)[5]?, 20 + LineBreak.advance 1 line ≤ 151) :
    (textLines 10 sentenceWidths).length ≤ 6 := by
  by_contra long
  have inside : 5 < (textLines 10 sentenceWidths).length := by omega
  have found := List.getElem?_eq_getElem inside
  have full := textLines_full found (by omega)
  have start : LineBreak.lineStart 20 10 5 = 20 := rfl
  have ends := sixth _ found
  omega

theorem sentence_line_le (sixLines : (textLines 10 sentenceWidths).length ≤ 6)
    {box : LineBreak.Box} (member : box ∈ textBoxes 10 sentenceWidths) : box.line ≤ 5 := by
  rcases textBoxes_bounds member with ⟨line, found, _, _⟩
  rcases List.getElem?_eq_some_iff.mp found with ⟨inside, _⟩
  omega

/-- Two lines of a word end above the sentence, and further ones begin behind a
sentence that ends in front of the margin. -/
theorem wordSentence_apart
    (room : (textLines 10 wordWidths).length ≤ 2 ∨ 10 + LineBreak.advance 1 sentenceWidths ≤ 21) :
    BoxesApart 10 60 (textBoxes 10 wordWidths) (textBoxes 10 sentenceWidths) := by
  intro box member box' member' meets
  simp only [Rect.Intersects, boxRect] at meets
  rcases textBoxes_bounds member with ⟨line, found, left, _⟩
  rcases List.getElem?_eq_some_iff.mp found with ⟨inside, _⟩
  rcases room with twoLines | margin
  · omega
  · have inMargin := textBoxes_short member' (by omega)
    by_cases third : box.line = 2
    · have start : LineBreak.lineStart 20 10 box.line = 20 := by
        rw [third]
        rfl
      omega
    · omega

/-- Five lines of a sentence end above the time, and the sixth in front of it. -/
theorem sentenceTime_apart
    (sixth : ∀ line ∈ (textLines 10 sentenceWidths)[5]?, 20 + LineBreak.advance 1 line ≤ 151) :
    BoxesApart 60 200 (textBoxes 10 sentenceWidths) timeBoxes := by
  intro box member box' member' meets
  simp only [Rect.Intersects, boxRect] at meets
  have behind : ∀ box ∈ timeBoxes, 150 ≤ box.x ∧ box.line = 0 := by decide
  have timeBox := behind box' member'
  have line := sentence_line_le (sentence_sixLines sixth) member
  by_cases last : box.line = 5
  · rcases textBoxes_bounds member with ⟨widths, found, _, right⟩
    rw [last] at found right
    have ends := sixth widths found
    have start : LineBreak.lineStart 20 10 5 = 20 := rfl
    omega
  · omega

/-- Room for both texts is exactly what keeps them apart. -/
theorem boxesFit_iff {word sentence : List Char} (wordSupported : SupportedText word)
    (wordShort : (Utf8.encode word).length ≤ 99) :
    BoxesFit (textBoxes 10 (word.map glyphWidth)) (textBoxes 10 (sentence.map glyphWidth)) ↔
      Roomy word sentence := by
  have wordLines := word_line_le wordSupported wordShort
  constructor
  · intro fit
    have wide : ∀ width ∈ word.map glyphWidth, 3 ≤ width := by
      intro width member
      rcases List.mem_map.mp member with ⟨character, inWord, shape⟩
      rw [← shape]
      exact (glyphWidth_bounds (wordSupported character inWord)).1
    have sixth (line : List Nat)
        (found : (textLines 10 (sentence.map glyphWidth))[5]? = some line) :=
      sentenceTime_meet fit.sentenceTime found
    exact ⟨wordSentence_meet wide fit.wordSentence, sentence_sixLines sixth, sixth⟩
  · rintro ⟨room, sixLines, sixth⟩
    constructor
    case wordInside =>
      intro box member
      have line := wordLines box member
      omega
    case sentenceInside =>
      intro box member
      have line := sentence_line_le sixLines member
      omega
    case wordSentence => exact wordSentence_apart room
    case wordTime =>
      intro box member box' member' meets
      simp only [Rect.Intersects, boxRect] at meets
      have line := wordLines box member
      omega
    case sentenceTime => exact sentenceTime_apart sixth

end Room

/-- For every supported word and sentence that fit their arrays and every time
that a run of the timer displays, the screen holds the three texts exactly
when there is room for word and sentence. -/
theorem screenFits_iff_roomy (word sentence : List Char) (wordSupported : SupportedText word)
    (sentenceSupported : SupportedText sentence) (wordShort : (Utf8.encode word).length ≤ 99)
    (sentenceShort : (Utf8.encode sentence).length ≤ 255) (setting : TimeSetting)
    (state : TimerState) (reachable : TimerReachable setting state) (min sec : UInt8)
    (shown : .displayed min sec ∈ state.log) :
    ScreenFits (Utf8.encode word) (Utf8.encode sentence) (timeText min sec) ↔
      Roomy word sentence := by
  have bounds := displayed_bounds reachable shown
  rw [screenFits_iff_boxes wordSupported sentenceSupported wordShort sentenceShort (by omega)
    (by omega), boxesFit_iff wordSupported wordShort]

/-- The state of the source's timer behind its first display. -/
theorem firstDisplay_reachable :
    TimerReachable .source ⟨.count, 2, 0, true, false, 1, [.displayed 2 0]⟩ :=
  Transition.reachable_of_run [.touch, .timer, .timer, .timer] Relation.ReflTransGen.refl
    (by decide)

theorem screenFits_iff_roomy_short :
    ScreenFits (Utf8.encode ['W']) (Utf8.encode ['a', '가']) (timeText 2 0) ↔
      Roomy ['W'] ['a', '가'] :=
  screenFits_iff_roomy ['W'] ['a', '가'] (by decide +kernel) (by decide +kernel)
    (by decide +kernel) (by decide +kernel) .source _ firstDisplay_reachable 2 0 (by decide)

/-- A word of 50 letters `W` takes four lines; the third one is drawn over the
sentence. -/
theorem screenFits_not_long :
    ¬ ∀ (buf : List UInt8) (held : Network.WordSentence) (word sentence : List Char),
      SupportedText word → SupportedText sentence →
      CString.content (Network.ReqWord_ParseResponse buf held).word.bytes = Utf8.encode word →
      CString.content (Network.ReqWord_ParseResponse buf held).sentence.bytes =
        Utf8.encode sentence →
      (Utf8.encode word).length ≤ 99 → (Utf8.encode sentence).length ≤ 255 →
      ∀ (setting : TimeSetting) (state : TimerState), TimerReachable setting state →
      ∀ min sec, .displayed min sec ∈ state.log →
      ScreenFits (Utf8.encode word) (Utf8.encode sentence) (timeText min sec) := by
  intro always
  have wordSupported : SupportedText (List.replicate 50 'W') := by decide +kernel
  have sentenceSupported : SupportedText ['W', 'W'] := by decide +kernel
  have wordShort : (Utf8.encode (List.replicate 50 'W')).length ≤ 99 := by decide +kernel
  have sentenceShort : (Utf8.encode ['W', 'W']).length ≤ 255 := by decide +kernel
  have fits := always ([13, 10, 13, 10] ++ List.replicate 50 87 ++ [58, 87, 87, 0]) .initial
    (List.replicate 50 'W') ['W', 'W'] wordSupported sentenceSupported (by decide +kernel)
    (by decide +kernel) wordShort sentenceShort .source _ firstDisplay_reachable 2 0 (by decide)
  rw [screenFits_iff_boxes wordSupported sentenceSupported wordShort sentenceShort (by decide)
    (by decide), boxesFit_iff wordSupported wordShort] at fits
  rcases fits.1 with twoLines | margin
  · exact absurd twoLines (by decide +kernel)
  · exact absurd margin (by decide +kernel)

end Tasks
end ToothVoca
