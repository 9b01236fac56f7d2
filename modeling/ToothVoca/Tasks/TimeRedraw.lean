import ToothVoca.Display.Screen
import ToothVoca.Tasks.ScreenLayout

namespace ToothVoca
namespace Tasks

open Library Display

/-!
# One time drawn over another

Nothing is erased before the time is drawn again: `Task_UpdateScreen` draws every
second at the same position, over whatever is there.  A glyph is transferred with its
background, and all digits have the same width, so the glyphs of every time that the
timer displays take the same rectangles.  `earlier_time_gone` says what follows for
whole sequences of calls: of an earlier time nothing is left behind a later one,
wherever the two stand in the sequence.
-/

/-- A font with the sizes of the table. -/
def SameSizes (font : UInt32 → Option FontImage) : Prop :=
  ∀ fontIndex : UInt32, fontIndex.toNat < Font_length →
    shapeOf font fontIndex = fontImages fontIndex

/-- The call of `Task_UpdateScreen` for a time. -/
def drawTime (min sec : UInt8) (behind : List UInt8) (granted : Nat → Granted) : ScreenCall :=
  .LcdTouch_DrawString (timeText min sec) behind s_wordData.time_x s_wordData.time_y granted

theorem SameSizes.sized {font : UInt32 → Option FontImage} (same : SameSizes font) :
    SizedFont (shapeOf font) := by
  intro fontIndex inside
  rw [same fontIndex inside]
  exact fontImages_sized fontIndex inside

section Times

variable {font : UInt32 → Option FontImage} {min sec : UInt8}

theorem timeText_fits (minSmall : min.toNat < 100) (secSmall : sec.toNat < 100) :
    Fits (timeText min sec) s_wordData.time_x s_wordData.time_y := by
  have printable := (timeText_units minSmall secSmall).1
  refine ⟨?_, ?_, by decide, by decide⟩
  · apply Drawable.of_units
    rw [unitsOf_ascii fun byte member => Nat.lt_succ_of_le (printable byte member).2,
      List.forall_mem_map]
    intro byte member
    exact (inTable_single_iff byte).mpr (printable byte member)
  · unfold timeText twoDigits
    split <;> split <;> simp

/-- The glyphs of a time, placed by a font with the sizes of the table. -/
theorem time_places (same : SameSizes font) (minSmall : min.toNat < 100)
    (secSmall : sec.toNat < 100) :
    (place (shapeOf font) 0 ⟨s_wordData.time_x.toUInt16, s_wordData.time_y.toUInt16⟩
      (unitsOf (timeText min sec))).map GlyphDraw.rect = timeBoxes.map (boxRect 200) := by
  have fits := timeText_fits minSmall secSmall
  have inTable := fits.drawable.units
  have rects := rects_place same.sized 200 0 0
    ⟨s_wordData.time_x.toUInt16, s_wordData.time_y.toUInt16⟩ (unitsOf (timeText min sec)) inTable
    (by decide) rfl (by
      have count := (length_unitsOf (timeText min sec)).1
      have short := fits.short
      omega)
  have widths : (unitsOf (timeText min sec)).map (fun unit =>
      (shapeOf font (LcdTouch_GetFontIndexOfUnicode unit.code)).width.toNat) =
        [11, 11, 7, 7, 7, 11, 11] := by
    rw [← (timeText_units minSmall secSmall).2]
    apply List.map_congr_left
    intro unit member
    rw [same _ ((fontIndex_lt_iff unit.code).mpr (inTable unit member))]
    rfl
  rw [rects, widths]
  rfl

/-- The table has an image for each index. -/
theorem SameSizes.found (same : SameSizes font) {fontIndex : UInt32}
    (inside : fontIndex.toNat < Font_length) : ∃ image, font fontIndex = some image := by
  have size := (same.sized fontIndex inside).1
  cases found : font fontIndex with
  | some image => exact ⟨image, rfl⟩
  | none =>
      rw [shapeOf, found] at size
      cases size

/-- The stamps that a time is drawn with. -/
def timeStamps (font : UInt32 → Option FontImage) (s_backgroud_color : UInt16) (min sec : UInt8)
    (granted : Nat → Granted) : List (Raster.Stamp UInt16) :=
  textStamps font s_backgroud_color granted 0
    (place (shapeOf font) 0 ⟨s_wordData.time_x.toUInt16, s_wordData.time_y.toUInt16⟩
      (unitsOf (timeText min sec)))

/-- The size of a glyph that is placed for a time. -/
theorem time_sizes (font : UInt32 → Option FontImage) (text : List UInt8) :
    ∀ draw ∈ place (shapeOf font) 0 ⟨s_wordData.time_x.toUInt16, s_wordData.time_y.toUInt16⟩
        (unitsOf text),
      ∀ image, font draw.fontIndex = some image →
        draw.textWidth.toNat = image.width.toNat ∧ draw.textHeight.toNat = image.height.toNat := by
  intro draw member image found
  have size := sizes_place _ _ _ _ draw member
  rwa [shapeOf_found found] at size

/-- Every picture of a time stands in one of the seven boxes. -/
theorem timeStamps_inside (same : SameSizes font) (minSmall : min.toNat < 100)
    (secSmall : sec.toNat < 100) (s_backgroud_color : UInt16) (granted : Nat → Granted) :
    ∀ stamp ∈ timeStamps font s_backgroud_color min sec granted,
      ∃ box ∈ timeBoxes, stamp.region = (boxRect 200 box).region := by
  intro stamp member
  have places := time_places same minSmall secSmall
  have regions := regions_textStamps s_backgroud_color granted 0
    (time_sizes font (timeText min sec))
  have region := regions.subset (List.mem_map_of_mem member)
  rcases List.mem_map.mp region with ⟨draw, inDraws, same'⟩
  have inBoxes := List.mem_map_of_mem (f := GlyphDraw.rect) inDraws
  rw [places] at inBoxes
  rcases List.mem_map.mp inBoxes with ⟨box, inTime, rect⟩
  refine ⟨box, inTime, ?_⟩
  rw [← same', rect]

/-- A time for which everything is granted has a picture in each of the boxes. -/
theorem timeStamps_all (same : SameSizes font) (minSmall : min.toNat < 100)
    (secSmall : sec.toNat < 100) (s_backgroud_color : UInt16) :
    ∀ box ∈ timeBoxes,
      ∃ stamp ∈ timeStamps font s_backgroud_color min sec (fun _ => ⟨true, true⟩),
        stamp.region = (boxRect 200 box).region := by
  intro box inTime
  have places := time_places same minSmall secSmall
  have inRects := List.mem_map_of_mem (f := boxRect 200) inTime
  rw [← places] at inRects
  rcases List.mem_map.mp inRects with ⟨draw, inDraws, rect⟩
  have inTable := (timeText_fits minSmall secSmall).drawable.units
  have inside := (place_indices_iff (shapeOf font) 0
    ⟨s_wordData.time_x.toUInt16, s_wordData.time_y.toUInt16⟩ _).mpr inTable draw inDraws
  rcases same.found inside with ⟨image, found⟩
  rcases List.getElem?_of_mem inDraws with ⟨number, drawn⟩
  refine ⟨_, mem_textStamps s_backgroud_color _ 0 drawn found (by rfl), ?_⟩
  have size := time_sizes font (timeText min sec) draw inDraws image found
  rw [← rect]
  simp only [glyphStamp, Rect.region, GlyphDraw.rect, size.1, size.2]

/-- A later time covers an earlier one. -/
theorem timeStamps_over (same : SameSizes font) {min' sec' : UInt8} (minSmall : min.toNat < 100)
    (secSmall : sec.toNat < 100) (minSmall' : min'.toNat < 100) (secSmall' : sec'.toNat < 100)
    (s_backgroud_color : UInt16) (granted : Nat → Granted) :
    ∀ stamp ∈ timeStamps font s_backgroud_color min sec granted, ∀ column row,
      stamp.region.Covers column row →
        ∃ later ∈ timeStamps font s_backgroud_color min' sec' (fun _ => ⟨true, true⟩),
          later.region.Covers column row := by
  intro stamp member column row covers
  rcases timeStamps_inside same minSmall secSmall s_backgroud_color granted stamp member with
    ⟨box, inTime, region⟩
  rcases timeStamps_all same minSmall' secSmall' s_backgroud_color box inTime with
    ⟨later, inLater, region'⟩
  refine ⟨later, inLater, ?_⟩
  rwa [region', ← region]

end Times

/-- The stamps behind two times show the same as without the first of them. -/
theorem paintAll_times {font : UInt32 → Option FontImage} (same : SameSizes font)
    (min sec min' sec' : UInt8) (minSmall : min.toNat < 100) (secSmall : sec.toNat < 100)
    (minSmall' : min'.toNat < 100) (secSmall' : sec'.toNat < 100) (s_backgroud_color : UInt16)
    (behind behind' : List UInt8) (granted : Nat → Granted) (between later : List ScreenCall)
    (canvas : Raster.Canvas UInt16) (stamps : List (Raster.Stamp UInt16)) :
    let next := stampsNext font s_backgroud_color
    let last := drawTime min' sec' behind' fun _ => ⟨true, true⟩
    Raster.paintAll canvas ((drawTime min sec behind granted :: between ++ last :: later).foldl
        next stamps) =
      Raster.paintAll canvas ((between ++ last :: later).foldl next stamps) := by
  rcases foldl_stampsNext font s_backgroud_color between with ⟨keptBetween, between', stampsBetween⟩
  rcases foldl_stampsNext font s_backgroud_color later with ⟨keptLater, later', stampsLater⟩
  have covering :=
    timeStamps_over same minSmall secSmall minSmall' secSmall' s_backgroud_color granted
  have draws (min sec : UInt8) (behind : List UInt8) (granted : Nat → Granted)
      (stamps : List (Raster.Stamp UInt16)) :
      stampsNext font s_backgroud_color stamps (drawTime min sec behind granted) =
        stamps ++ timeStamps font s_backgroud_color min sec granted := rfl
  simp only [List.cons_append, List.foldl_cons, List.foldl_append, stampsBetween, stampsLater,
    draws]
  cases keptLater with
  | false => rfl
  | true =>
      cases keptBetween with
      | false => rfl
      | true =>
          have hidden := Raster.paintAll_over (Raster.paintAll canvas stamps) between' covering
          simp only [Raster.paintAll_append, if_true] at hidden ⊢
          rw [hidden]

/-- Of a time that the timer displays nothing is left on the screen behind a later one
for which everything is granted: whatever is drawn in front of, between and behind the
two, whatever is granted for it, and however the screen is reset, it shows what it would
without the first. -/
theorem earlier_time_gone {lcd : LcdController} (documented : lcd.Documented)
    {font : UInt32 → Option FontImage} (same : SameSizes font)
    {setting : TimeSetting} {state : TimerState} (reachable : TimerReachable setting state)
    {min sec min' sec' : UInt8} (shown : .displayed min sec ∈ state.log)
    (shown' : .displayed min' sec' ∈ state.log) (behind behind' : List UInt8)
    {granted : Nat → Granted} {sent sent' : Nat → Sent}
    {earlier between later : List (ScreenCall × (Nat → Sent))}
    (fits : ∀ action ∈ earlier ++ between ++ later, action.1.Fits)
    {start after only : ScreenPanel lcd} {stamps : List (Raster.Stamp UInt16)}
    (shows : ShowsStamps start stamps)
    (executed : Transition.run (screenPanelNext font) start
      (earlier ++ (drawTime min sec behind granted, sent) :: between ++
        (drawTime min' sec' behind' fun _ => ⟨true, true⟩, sent') :: later) = some after)
    (executedOnly : Transition.run (screenPanelNext font) start
      (earlier ++ (between ++
        (drawTime min' sec' behind' fun _ => ⟨true, true⟩, sent') :: later)) = some only) :
    ∀ cell, OnScreen (start.panel.view.place cell) →
      after.panel.view.memory cell = only.panel.view.memory cell := by
  have bounds := displayed_bounds reachable shown
  have bounds' := displayed_bounds reachable shown'
  have first : (drawTime min sec behind granted).Fits := timeText_fits (by omega) (by omega)
  have last : (drawTime min' sec' behind' fun _ => ⟨true, true⟩).Fits :=
    timeText_fits (by omega) (by omega)
  simp only [List.forall_mem_append] at fits
  have both := screen_shows documented same.sized shows (by
    simp only [List.forall_mem_append, List.forall_mem_cons]
    exact ⟨⟨fits.1.1, first, fits.1.2⟩, last, fits.2⟩) executed
  have single := screen_shows documented same.sized shows (by
    simp only [List.forall_mem_append, List.forall_mem_cons]
    exact ⟨fits.1.1, fits.1.2, last, fits.2⟩) executedOnly
  intro cell onScreen
  have hidden := paintAll_times same min sec min' sec' (by omega)
    (by omega) (by omega) (by omega) start.s_backgroud_color behind behind' granted
    (between.map Prod.fst) (later.map Prod.fst) (fun _ _ => start.s_backgroud_color)
    ((earlier.map Prod.fst).foldl (stampsNext font start.s_backgroud_color) stamps)
  have seen := both.1.seen cell (by rwa [both.2.place])
  have seen' := single.1.seen cell (by rwa [single.2.place])
  rw [both.2.place, both.2.s_backgroud_color] at seen
  rw [single.2.place, single.2.s_backgroud_color] at seen'
  rw [seen, seen']
  simp only [List.map_append, List.map_cons, List.foldl_append, List.foldl_cons,
    List.cons_append] at hidden ⊢
  rw [hidden]

/-- A font with the sizes of the table, and a point at the left of every row. -/
def edgeFont (fontIndex : UInt32) : Option FontImage :=
  some ⟨fontImages fontIndex, fun _ => 0x80⟩

theorem edgeFont_sizes : SameSizes edgeFont :=
  fun _ _ => rfl

/-- Two seconds of the first session of the source. -/
theorem twoDisplays_reachable :
    TimerReachable .source
      ⟨.count, 1, 59, true, true, 2, [.displayed 2 0, .wordRequested, .displayed 1 59]⟩ :=
  Transition.reachable_of_run (.touch :: List.replicate 11 .timer) Relation.ReflTransGen.refl
    (by decide)

theorem earlier_time_gone_second :
    ∃ after only,
      Transition.run (screenPanelNext edgeFont) (blankPanel 0)
          [(drawTime 2 0 [] fun _ => ⟨true, true⟩, fun _ _ => true),
            (drawTime 1 59 [] fun _ => ⟨true, true⟩, fun _ _ => true)] = some after ∧
        Transition.run (screenPanelNext edgeFont) (blankPanel 0)
          [(drawTime 1 59 [] fun _ => ⟨true, true⟩, fun _ _ => true)] = some only ∧
        ∀ cell, OnScreen ((blankPanel 0).panel.view.place cell) →
          after.panel.view.memory cell = only.panel.view.memory cell := by
  have fits (min sec : UInt8) (minSmall : min.toNat < 100) (secSmall : sec.toNat < 100) :
      (drawTime min sec [] fun _ => ⟨true, true⟩).Fits := timeText_fits minSmall secSmall
  have buffered (min sec : UInt8) : (drawTime min sec [] fun _ => ⟨true, true⟩).Buffered :=
    fun _ => Or.inl rfl
  have delivered : ∀ number : Nat, Delivered ((fun _ _ => true : Nat → Sent) number) :=
    fun _ => ⟨rfl, rfl, rfl⟩
  rcases screen_finishes ILI9341_documented edgeFont_sizes.sized (blankPanel_shows 0).plain
    [(drawTime 2 0 [] fun _ => ⟨true, true⟩, fun _ _ => true),
      (drawTime 1 59 [] fun _ => ⟨true, true⟩, fun _ _ => true)]
    (by
      rw [List.forall_mem_cons, List.forall_mem_singleton]
      exact ⟨fits 2 0 (by decide) (by decide), fits 1 59 (by decide) (by decide)⟩)
    (by
      rw [List.forall_mem_cons, List.forall_mem_singleton]
      exact ⟨buffered 2 0, buffered 1 59⟩)
    (by
      rw [List.forall_mem_cons, List.forall_mem_singleton]
      exact ⟨delivered, delivered⟩) with ⟨after, executed⟩
  rcases screen_finishes ILI9341_documented edgeFont_sizes.sized (blankPanel_shows 0).plain
    [(drawTime 1 59 [] fun _ => ⟨true, true⟩, fun _ _ => true)]
    (by
      rw [List.forall_mem_singleton]
      exact fits 1 59 (by decide) (by decide))
    (by
      rw [List.forall_mem_singleton]
      exact buffered 1 59)
    (by
      rw [List.forall_mem_singleton]
      exact delivered) with ⟨only, executedOnly⟩
  have nothing : ∀ action ∈ ([] ++ [] : List (ScreenCall × (Nat → Sent))) ++ [], action.1.Fits :=
    List.forall_mem_nil _
  refine ⟨after, only, executed, executedOnly, ?_⟩
  exact @earlier_time_gone _ ILI9341_documented _ edgeFont_sizes _ _ twoDisplays_reachable 2 0 1 59
    (by decide) (by decide) [] [] (fun _ => ⟨true, true⟩) (fun _ _ => true) (fun _ _ => true)
    [] [] [] nothing _ _ _ _ (blankPanel_shows 0) executed executedOnly

end Tasks
end ToothVoca
