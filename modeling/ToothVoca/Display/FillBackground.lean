import ToothVoca.Display.DrawText
import ToothVoca.Display.Panel

namespace ToothVoca
namespace Display

open Library

/-!
# Transfers on the panel, and the background (`lcd_touch.c`)

`LcdToudh_FillBackground` and `LcdToudh_DrawImageData` are loops around two
statements: a call of `esp_lcd_panel_draw_bitmap` within `ESP_ERROR_CHECK`, and the
wait for its completion.  A call that reports an error stops the program, and pixels
that are not sent are waited for without end; `transfer` has no result in these
cases, and none for pixels read through the NULL pointer.

`Paints` says what a list of transfers that comes to its end does to a panel, whatever
its memory holds: it is painted with stamps, and nothing else that a caller sees is
changed.  Lists of transfers behind each other paint their stamps behind each other, so
the loops are followed row by row and band by band.
-/

def LT_BACKGROUND_COLOR : UInt16 := 0x0000

section Transfers

variable {lcd : LcdController}

/-- The pixels of the driver have 16 bits, and bitmaps are drawn where they are
asked for. -/
structure Panel.Plain (panel : Panel lcd) : Prop where
  ready : panel.Ready
  x_gap : panel.ili9341.x_gap = 0
  y_gap : panel.ili9341.y_gap = 0

/-- All three commands of a bitmap are sent. -/
def Delivered (sent : Sent) : Prop :=
  sent 0 = true ∧ sent 1 = true ∧ sent 2 = true

instance (sent : Sent) : Decidable (Delivered sent) :=
  inferInstanceAs (Decidable (_ ∧ _))

/-- One transfer, from its start to its completion. -/
def transfer (panel : Panel lcd) (sent : Sent) (call : DrawBitmap) : Option (Panel lcd) :=
  match call.data_buf with
  | none => none
  | some data_buf =>
      match panel_ili9341_draw_bitmap panel sent call.x_start call.y_start call.x_end call.y_end
        fun index => data_buf (call.index + index) with
      | some (true, after) => if sent 2 then some after else none
      | _ => none

/-- Transfers behind each other.  Which commands are sent is numbered from the first
transfer on. -/
def transferAll (panel : Panel lcd) : (Nat → Sent) → List DrawBitmap → Option (Panel lcd)
  | _, [] => some panel
  | sent, call :: rest =>
      (transfer panel (sent 0) call).bind fun after =>
        transferAll after (fun number => sent (number + 1)) rest

/-- No pixels are read through the NULL pointer. -/
def Allocated (calls : List DrawBitmap) : Prop :=
  ∀ call ∈ calls, call.data_buf ≠ none

end Transfers

/-! ## The background -/

/-- The loop that fills the buffer, with fuel for its iterations. -/
def fillLoop (color : UInt16) (buf_size : Nat) : Nat → Nat → List RawMemory.Write
  | 0, _ => []
  | fuel + 1, i =>
      if i < buf_size then
        (i, (color >>> 8).toUInt8) :: (i + 1, color.toUInt8) :: fillLoop color buf_size fuel (i + 2)
      else []

/-- The loop over the bands of the screen, with the given number of bands left. -/
def bandLoop (row_line : Nat) (display_buf : Nat → UInt8) : Nat → Nat → List DrawBitmap
  | 0, _ => []
  | bands + 1, j =>
      { x_start := 0
        y_start := j * row_line
        x_end := LT_LCD_H_RES
        y_end := (j + 1) * row_line
        data_buf := some display_buf
        index := 0 } :: bandLoop row_line display_buf bands (j + 1)

/-- What `LcdToudh_FillBackground` leaves: the global colour, the writes to its buffer
and the transfers. -/
structure FillResult where
  s_backgroud_color : UInt16
  writes : List RawMemory.Write
  transfers : List DrawBitmap

def LcdToudh_FillBackground (granted : Granted) (s_backgroud_color color : UInt16) : FillResult :=
  if granted.semaphore = false then ⟨s_backgroud_color, [], []⟩
  else
    let row_line := LT_LCD_V_RES / LT_LCD_BIT_PER_PIXEL
    let byte_per_pixel := LT_LCD_BIT_PER_PIXEL / 8
    let buf_size := row_line * LT_LCD_H_RES * byte_per_pixel
    if granted.buffer = false then ⟨s_backgroud_color, [], []⟩
    else
      let writes := fillLoop color buf_size buf_size 0
      { s_backgroud_color := color
        writes := writes
        transfers := bandLoop row_line (RawMemory.apply 0 writes fun _ => 0)
          LT_LCD_BIT_PER_PIXEL 0 }

def LcdTouch_ResetBackground (isInitDisplay : Bool) (granted : Granted)
    (s_backgroud_color : UInt16) : FillResult :=
  if isInitDisplay = false then ⟨s_backgroud_color, [], []⟩
  else LcdToudh_FillBackground granted s_backgroud_color s_backgroud_color

/-- A reset for which something is refused does nothing. -/
theorem LcdTouch_ResetBackground_refused {granted : Granted} (refused : granted ≠ ⟨true, true⟩)
    (s_backgroud_color : UInt16) :
    LcdTouch_ResetBackground true granted s_backgroud_color = ⟨s_backgroud_color, [], []⟩ := by
  rcases granted with ⟨buffer, semaphore⟩
  cases buffer <;> cases semaphore
  · rfl
  · rfl
  · rfl
  · exact absurd rfl refused

/-- The whole screen in one colour. -/
def screenStamp (color : UInt16) : Raster.Stamp UInt16 where
  region := ⟨0, 0, LT_LCD_H_RES, LT_LCD_V_RES⟩
  picture := fun _ _ => color

/-- A place on the screen, as the program counts columns and rows. -/
def OnScreen (place : Nat × Nat) : Prop :=
  place.1 < LT_LCD_H_RES ∧ place.2 < LT_LCD_V_RES

theorem screenStamp_covers (color : UInt16) {place : Nat × Nat} (onScreen : OnScreen place) :
    (screenStamp color).region.Covers place.1 place.2 := by
  unfold OnScreen LT_LCD_H_RES LT_LCD_V_RES at onScreen
  simp only [Raster.Region.Covers, screenStamp, LT_LCD_H_RES, LT_LCD_V_RES]
  omega

/-! ## What transfers paint -/

/-- What the transfers do on every panel: where all of them come to their end they paint,
and they come to their end where everything is sent. -/
structure Paints (lcd : LcdController) (calls : List DrawBitmap)
    (stamps : List (Raster.Stamp UInt16)) : Prop where
  painted : ∀ {panel after : Panel lcd} {sent : Nat → Sent}, panel.Plain →
    transferAll panel sent calls = some after →
    after.Plain ∧ after.view = panel.view.paintAll stamps
  finished : ∀ {panel : Panel lcd} (sent : Nat → Sent), panel.Plain → Allocated calls →
    (∀ number < calls.length, Delivered (sent number)) →
    ∃ after, transferAll panel sent calls = some after

/-! ## Lists of transfers -/

section Lists

variable {lcd : LcdController}

theorem transferAll_append (panel : Panel lcd) (sent : Nat → Sent)
    (first second : List DrawBitmap) :
    transferAll panel sent (first ++ second) =
      (transferAll panel sent first).bind fun after =>
        transferAll after (fun number => sent (number + first.length)) second := by
  induction first generalizing panel sent with
  | nil => rfl
  | cons call rest ih =>
      rw [List.cons_append, transferAll, transferAll]
      cases transfer panel (sent 0) call with
      | none => rfl
      | some after =>
          rw [Option.bind_some, Option.bind_some, ih]
          simp only [List.length_cons, Nat.add_assoc]

theorem PanelView.paintAll_append (view : PanelView lcd)
    (first second : List (Raster.Stamp UInt16)) :
    view.paintAll (first ++ second) = (view.paintAll first).paintAll second := by
  rw [PanelView.paintAll, Raster.paintCells_append]
  rfl

namespace Paints

variable {first second calls : List DrawBitmap} {stamps stamps' : List (Raster.Stamp UInt16)}

theorem nil : Paints lcd [] [] where
  painted := by
    intro panel after sent plain returned
    cases returned
    exact ⟨plain, rfl⟩
  finished := fun {panel} _ _ _ _ => ⟨panel, rfl⟩

theorem append (paints : Paints lcd first stamps) (paints' : Paints lcd second stamps') :
    Paints lcd (first ++ second) (stamps ++ stamps') where
  painted := by
    intro panel after sent plain returned
    rw [transferAll_append, Option.bind_eq_some_iff] at returned
    rcases returned with ⟨middle, begun, ended⟩
    rcases paints.painted plain begun with ⟨plain', view⟩
    rcases paints'.painted plain' ended with ⟨plain'', view'⟩
    refine ⟨plain'', ?_⟩
    rw [view', view, PanelView.paintAll_append]
  finished := by
    intro panel sent plain allocated delivered
    rw [Allocated, List.forall_mem_append] at allocated
    rw [List.length_append] at delivered
    rcases paints.finished sent plain allocated.1 (fun number inside => delivered number (by omega))
      with ⟨middle, begun⟩
    have plain' := (paints.painted plain begun).1
    rcases paints'.finished (fun number => sent (number + first.length)) plain' allocated.2
      (fun number inside => delivered _ (by omega)) with ⟨after, ended⟩
    refine ⟨after, ?_⟩
    rw [transferAll_append, begun, Option.bind_some, ended]

theorem cons {call : DrawBitmap} {stamp : Raster.Stamp UInt16} (paints : Paints lcd [call] [stamp])
    (paints' : Paints lcd calls stamps) : Paints lcd (call :: calls) (stamp :: stamps) :=
  paints.append paints'

/-- Stamps that paint the same can stand for each other. -/
theorem of_same (paints : Paints lcd calls stamps)
    (same : ∀ canvas, Raster.paintAll canvas stamps = Raster.paintAll canvas stamps') :
    Paints lcd calls stamps' where
  painted := by
    intro panel after sent plain returned
    rcases paints.painted plain returned with ⟨plain', view⟩
    refine ⟨plain', ?_⟩
    rw [view, PanelView.paintAll, Raster.paintCells_congr _ _ same]
    rfl
  finished := paints.finished

/-- Transfers that read through the NULL pointer do not come to their end. -/
theorem of_null (null : ∀ call ∈ calls, call.data_buf = none) : Paints lcd calls [] := by
  cases calls with
  | nil => exact nil
  | cons call rest =>
      rw [List.forall_mem_cons] at null
      refine ⟨?_, ?_⟩
      · intro panel after sent plain returned
        simp only [transferAll, transfer, null.1, Option.bind_none, reduceCtorEq] at returned
      · intro panel sent plain allocated
        exact absurd null.1 (allocated call List.mem_cons_self)

end Paints

/-- A bitmap with corners of 16 bits that has been transferred is painted. -/
theorem transfer_painted (documented : lcd.Documented) {panel after : Panel lcd}
    (plain : panel.Plain) {sent : Sent} {call : DrawBitmap} {data_buf : Nat → UInt8}
    (allocated : call.data_buf = some data_buf) (wide : call.x_start < call.x_end)
    (high : call.y_start < call.y_end) (xSmall : call.x_end ≤ 2 ^ 16)
    (ySmall : call.y_end ≤ 2 ^ 16)
    (small : (call.x_end - call.x_start) * (call.y_end - call.y_start) < 2 ^ 27) :
    (transfer panel sent call = some after →
        after.Plain ∧ after.view = panel.view.paintAll [bitmapStamp
          ⟨call.x_start, call.y_start, call.x_end - call.x_start, call.y_end - call.y_start⟩
          fun index => data_buf (call.index + index)]) ∧
      (Delivered sent → ∃ after, transfer panel sent call = some after) := by
  have product : ((call.x_end : Int) - call.x_start) * (call.y_end - call.y_start) =
      ((call.x_end - call.x_start) * (call.y_end - call.y_start) : Nat) := by
    rw [Int.natCast_mul, Int.natCast_sub (Nat.le_of_lt wide), Int.natCast_sub (Nat.le_of_lt high)]
  have inside : (PanelCall.draw_bitmap call.x_start call.y_start call.x_end call.y_end
      fun index => data_buf (call.index + index)).InCoordinates
        panel.ili9341.x_gap panel.ili9341.y_gap := by
    simp only [PanelCall.InCoordinates, plain.x_gap, plain.y_gap, product]
    omega
  have region : panel.view.region call.x_start call.y_start call.x_end call.y_end =
      ⟨call.x_start, call.y_start, call.x_end - call.x_start, call.y_end - call.y_start⟩ := by
    simp only [PanelView.region, Panel.view, plain.x_gap, plain.y_gap, Int.add_zero,
      Int.toNat_natCast, Raster.Region.mk.injEq, true_and]
    omega
  rcases panel_ili9341_draw_bitmap_view documented plain.ready sent
    (fun index => data_buf (call.index + index)) (by omega) inside with
    ⟨drawn, called, driver, follows⟩
  rw [region] at follows
  simp only [transfer, allocated, called]
  by_cases area : (sent 0 && sent 1) = true
  · rw [area]
    by_cases pixels : sent 2 = true
    · simp only [if_pos pixels]
      rw [area, pixels] at follows
      refine ⟨?_, fun _ => ⟨drawn, rfl⟩⟩
      intro same
      cases same
      exact ⟨⟨follows.ready, by rw [driver, plain.x_gap], by rw [driver, plain.y_gap]⟩,
        follows.view⟩
    · refine ⟨?_, fun delivered => absurd delivered.2.2 pixels⟩
      simp only [if_neg pixels, reduceCtorEq, false_implies]
  · simp only [Bool.not_eq_true] at area
    refine ⟨?_, ?_⟩
    · simp only [area, reduceCtorEq, false_implies]
    · rintro ⟨columns, rows, _⟩
      rw [columns, rows] at area
      cases area

/-- One transfer paints its bitmap. -/
theorem Paints.bitmap (documented : lcd.Documented) {call : DrawBitmap} {data_buf : Nat → UInt8}
    (allocated : call.data_buf = some data_buf) (wide : call.x_start < call.x_end)
    (high : call.y_start < call.y_end) (xSmall : call.x_end ≤ 2 ^ 16)
    (ySmall : call.y_end ≤ 2 ^ 16)
    (small : (call.x_end - call.x_start) * (call.y_end - call.y_start) < 2 ^ 27) :
    Paints lcd [call] [bitmapStamp
      ⟨call.x_start, call.y_start, call.x_end - call.x_start, call.y_end - call.y_start⟩
      fun index => data_buf (call.index + index)] where
  painted := by
    intro panel after sent plain returned
    rw [transferAll, Option.bind_eq_some_iff] at returned
    rcases returned with ⟨drawn, called, same⟩
    cases same
    exact (transfer_painted documented plain allocated wide high xSmall ySmall small).1 called
  finished := by
    intro panel sent plain _ delivered
    rcases (@transfer_painted lcd documented panel panel plain (sent 0) _ _ allocated wide high
      xSmall ySmall small).2 (delivered 0 Nat.zero_lt_one) with ⟨drawn, called⟩
    refine ⟨drawn, ?_⟩
    rw [transferAll, called]
    rfl

/-- A bitmap of some rows of a stamp, with the pixels of these rows. -/
theorem Paints.band (documented : lcd.Documented) {stamp : Raster.Stamp UInt16} {y count : Nat}
    {call : DrawBitmap} {data_buf : Nat → UInt8} (allocated : call.data_buf = some data_buf)
    (left : call.x_start = stamp.region.left)
    (right : call.x_end = stamp.region.left + stamp.region.width)
    (top : call.y_start = stamp.region.top + y)
    (bottom : call.y_end = stamp.region.top + y + count) (wide : 0 < stamp.region.width)
    (high : 0 < count) (xSmall : call.x_end ≤ 2 ^ 16) (ySmall : call.y_end ≤ 2 ^ 16)
    (small : stamp.region.width * count < 2 ^ 27)
    (pixels : ∀ x < stamp.region.width, ∀ below < count,
      pixel16 (data_buf (call.index + 2 * (below * stamp.region.width + x)))
          (data_buf (call.index + (2 * (below * stamp.region.width + x) + 1))) =
        stamp.picture x (y + below)) :
    Paints lcd [call] [stamp.band y count] := by
  have width : call.x_end - call.x_start = stamp.region.width := by omega
  have height : call.y_end - call.y_start = count := by omega
  have paints := Paints.bitmap documented allocated (by omega) (by omega) xSmall ySmall
    (by rwa [width, height])
  rw [width, height, left, top] at paints
  apply paints.of_same
  intro canvas
  apply Raster.paint_congr
  · rfl
  · intro x inWidth below inHeight
    exact pixels x inWidth below inHeight

end Lists

/-! ## Colours in two bytes -/

/-- The two bytes of a colour, high byte first, are the pixel of that colour. -/
theorem pixel16_bytes (color : UInt16) :
    pixel16 (color >>> 8).toUInt8 color.toUInt8 = color := by
  have bytes := toNat_bytes color
  have low := color.toUInt8.toNat_lt
  have high := (color >>> 8).toUInt8.toNat_lt
  apply UInt16.toNat_inj.mp
  rw [pixel16, UInt16.toNat_or, UInt16.toNat_shiftLeft]
  simp only [UInt8.toNat_toUInt16, UInt16.reduceToNat, Nat.reduceMod]
  rw [Nat.shiftLeft_eq, Nat.mod_eq_of_lt (by omega), Nat.mul_comm,
    ← Nat.two_pow_add_eq_or_of_lt low]
  omega

/-- The loop fills the buffer with the two bytes of the colour. -/
theorem fillLoop_eq (color : UInt16) (pixels fuel i : Nat) (enough : pixels ≤ fuel) :
    fillLoop color (i + 2 * pixels) fuel i =
      RawMemory.block i
        (List.replicate pixels [(color >>> 8).toUInt8, color.toUInt8]).flatten := by
  induction pixels generalizing fuel i with
  | zero =>
      cases fuel with
      | zero => rfl
      | succ fuel => exact if_neg (Nat.lt_irrefl i)
  | succ pixels ih =>
      cases fuel with
      | zero => cases enough
      | succ fuel =>
          have step := @ih fuel (i + 2) (Nat.le_of_succ_le_succ enough)
          have size : i + 2 + 2 * pixels = i + 2 * (pixels + 1) := by omega
          rw [size] at step
          rw [fillLoop, if_pos (by omega), step, List.replicate_succ, List.flatten_cons]
          rfl

theorem getElem?_pairs {Element : Type} (first second : Element) {pairs pair : Nat}
    (inside : pair < pairs) :
    (List.replicate pairs [first, second]).flatten[2 * pair]? = some first ∧
      (List.replicate pairs [first, second]).flatten[2 * pair + 1]? = some second := by
  induction pairs generalizing pair with
  | zero => cases inside
  | succ pairs ih =>
      rw [List.replicate_succ, List.flatten_cons]
      cases pair with
      | zero => exact ⟨rfl, rfl⟩
      | succ pair => exact ih (Nat.lt_of_succ_lt_succ inside)

/-- Every pixel of the filled buffer has the colour. -/
theorem fill_pixel (color : UInt16) {pixels pixel : Nat} (inside : pixel < pixels) :
    let display_buf := RawMemory.apply 0 (fillLoop color (2 * pixels) (2 * pixels) 0) fun _ => 0
    pixel16 (display_buf (2 * pixel)) (display_buf (2 * pixel + 1)) = color := by
  have filled := fillLoop_eq color pixels (2 * pixels) 0 (by omega)
  have bytes := getElem?_pairs (color >>> 8).toUInt8 color.toUInt8 inside
  have high := RawMemory.apply_block 0 0 bytes.1 fun _ => 0
  have low := RawMemory.apply_block 0 0 bytes.2 fun _ => 0
  simp only [Nat.zero_add] at filled high low
  simp only [filled, high, low]
  exact pixel16_bytes color

/-- The bands of the background, from one on. -/
theorem bandLoop_paints {lcd : LcdController} (documented : lcd.Documented) (color : UInt16)
    {display_buf : Nat → UInt8}
    (pixels : ∀ pixel < 4800,
      pixel16 (display_buf (2 * pixel)) (display_buf (2 * pixel + 1)) = color)
    {bands j : Nat} (inside : j + bands ≤ 16) :
    Paints lcd (bandLoop 15 display_buf bands j) ((screenStamp color).bands 15 (j * 15) bands) := by
  induction bands generalizing j with
  | zero => exact Paints.nil
  | succ bands ih =>
      have rest := @ih (j + 1) (by omega)
      rw [Nat.succ_mul] at rest
      refine Paints.cons ?_ rest
      apply Paints.band documented rfl
      · rfl
      · rfl
      · exact (Nat.zero_add _).symm
      · show (j + 1) * 15 = 0 + j * 15 + 15
        omega
      · show 0 < 320
        decide
      · decide
      · show 320 ≤ 2 ^ 16
        decide
      · show (j + 1) * 15 ≤ 2 ^ 16
        omega
      · show 320 * 15 < 2 ^ 27
        decide
      · intro x inWidth below inHeight
        have width : (screenStamp color).region.width = 320 := rfl
        rw [width] at inWidth ⊢
        have pixel := pixels (below * 320 + x) (by omega)
        simp only [Nat.zero_add]
        exact pixel

theorem allocated_bandLoop (row_line : Nat) (display_buf : Nat → UInt8) (bands j : Nat) :
    Allocated (bandLoop row_line display_buf bands j) := by
  induction bands generalizing j with
  | zero => exact List.forall_mem_nil _
  | succ bands ih =>
      rw [bandLoop, Allocated, List.forall_mem_cons]
      exact ⟨Option.some_ne_none _, ih (j + 1)⟩

/-- The background is filled from a buffer. -/
theorem LcdToudh_FillBackground_allocated (granted : Granted) (s_backgroud_color color : UInt16) :
    Allocated (LcdToudh_FillBackground granted s_backgroud_color color).transfers := by
  rcases granted with ⟨buffer, semaphore⟩
  cases semaphore
  · exact List.forall_mem_nil _
  · cases buffer
    · exact List.forall_mem_nil _
    · exact allocated_bandLoop _ _ _ _

/-- A granted background paints the whole screen. -/
theorem LcdToudh_FillBackground_paints {lcd : LcdController} (documented : lcd.Documented)
    (s_backgroud_color color : UInt16) :
    Paints lcd (LcdToudh_FillBackground ⟨true, true⟩ s_backgroud_color color).transfers
      [screenStamp color] := by
  have bands := bandLoop_paints documented color (fun pixel inside => fill_pixel color inside)
    (show 0 + 16 ≤ 16 from Nat.le_refl _)
  have whole (canvas : Raster.Canvas UInt16) := Raster.paintAll_whole canvas
    (screenStamp color) (show 16 * 15 = (screenStamp color).region.height from rfl)
  rw [Nat.zero_mul] at bands
  exact bands.of_same whole

end Display
end ToothVoca
