import ToothVoca.Display.Controller
import ToothVoca.Library.Transition

namespace ToothVoca
namespace Display

open Library

/-!
# The driver of the panel (`esp_lcd_ili9341.c`)

The driver turns calls like `esp_lcd_panel_draw_bitmap` into commands for the
controller of the panel.  A bitmap becomes three of them: the columns and the rows
of a window, each as two big-endian numbers, and the pixels.

Every command can fail to be sent, and a call stops at the first that does, except
that nobody looks at whether the pixels are sent.  Two registers are shadowed in
the driver, and the shadow is changed before the command is sent.

`PanelView` is what a caller can rely on, without windows, formats and shadows: a memory
that bitmaps are painted on in the orientation that is shown, an orientation that was
asked for, and what else is seen of the panel.  `panelView_run` says that every run of
calls on the driver is a run on the view, whichever commands fail.
-/

/-! ## The driver -/

structure ili9341_lcd_init_cmd_t where
  cmd : LcdCommand
  data : List UInt8
deriving DecidableEq, Repr

structure ili9341_panel_t where
  x_gap : Int
  y_gap : Int
  fb_bits_per_pixel : Nat
  madctl_val : UInt8
  colmod_val : UInt8
  init_cmds : Option (List ili9341_lcd_init_cmd_t)
deriving DecidableEq, Repr

/-- The driver, and the state of the controller that it talks to. -/
structure Panel (lcd : LcdController) where
  ili9341 : ili9341_panel_t
  controller : lcd.State

/-- Which of the commands of a call are sent. -/
abbrev Sent := Nat → Bool

section Driver

variable {lcd : LcdController}

/-- Send commands one after the other, as long as none of them fails. -/
def txParams (lcd : LcdController) (controller : lcd.State) :
    List (LcdCommand × List UInt8) → Sent → Bool × lcd.State
  | [], _ => (true, controller)
  | (cmd, data) :: rest, sent =>
      if sent 0 then
        txParams lcd (lcd.receive controller cmd data) rest fun number => sent (number + 1)
      else (false, controller)

/-- The two bytes of a coordinate, `(value >> 8) & 0xFF` and `value & 0xFF`. -/
def coordinateBytes (value : Int) : List UInt8 :=
  [UInt8.ofInt (value >>> (8 : Nat)), UInt8.ofInt value]

/-- The call of the driver returns whether it succeeded.  There is no result when
its assertion fails. -/
def panel_ili9341_draw_bitmap (panel : Panel lcd) (sent : Sent) (x_start y_start x_end y_end : Int)
    (color_data : Nat → UInt8) : Option (Bool × Panel lcd) :=
  if x_start < x_end ∧ y_start < y_end then
    let x_start := x_start + panel.ili9341.x_gap
    let x_end := x_end + panel.ili9341.x_gap
    let y_start := y_start + panel.ili9341.y_gap
    let y_end := y_end + panel.ili9341.y_gap
    let area := txParams lcd panel.controller
      [(.CASET, coordinateBytes x_start ++ coordinateBytes (x_end - 1)),
        (.RASET, coordinateBytes y_start ++ coordinateBytes (y_end - 1))] sent
    if area.1 then
      let len := ((x_end - x_start) * (y_end - y_start) *
        panel.ili9341.fb_bits_per_pixel / 8).toNat
      some (true, { panel with
        controller :=
          if sent 2 then lcd.receive area.2 .RAMWR ((List.range len).map color_data) else area.2 })
    else some (false, { panel with controller := area.2 })
  else none

/-- The command that a change of `madctl_val` is followed by. -/
def sendMadctl (panel : Panel lcd) (sent : Sent) (madctl_val : UInt8) : Bool × Panel lcd :=
  let after := txParams lcd panel.controller [(.MADCTL, [madctl_val])] sent
  (after.1, ⟨{ panel.ili9341 with madctl_val := madctl_val }, after.2⟩)

/-- Set or clear the bits of a register. -/
def assignBit (value bit : UInt8) (set : Bool) : UInt8 :=
  if set then value ||| bit else value &&& ~~~bit

def panel_ili9341_mirror (panel : Panel lcd) (sent : Sent) (mirror_x mirror_y : Bool) :
    Bool × Panel lcd :=
  sendMadctl panel sent
    (assignBit (assignBit panel.ili9341.madctl_val LCD_CMD_MX_BIT mirror_x) LCD_CMD_MY_BIT mirror_y)

def panel_ili9341_swap_xy (panel : Panel lcd) (sent : Sent) (swap_axes : Bool) :
    Bool × Panel lcd :=
  sendMadctl panel sent (assignBit panel.ili9341.madctl_val LCD_CMD_MV_BIT swap_axes)

def panel_ili9341_set_gap (panel : Panel lcd) (x_gap y_gap : Int) : Bool × Panel lcd :=
  (true, { panel with ili9341 := { panel.ili9341 with x_gap := x_gap, y_gap := y_gap } })

def panel_ili9341_invert_color (panel : Panel lcd) (sent : Sent) (invert_color_data : Bool) :
    Bool × Panel lcd :=
  let after := txParams lcd panel.controller
    [(if invert_color_data then .INVON else .INVOFF, [])] sent
  (after.1, { panel with controller := after.2 })

def panel_ili9341_disp_on_off (panel : Panel lcd) (sent : Sent) (on_off : Bool) :
    Bool × Panel lcd :=
  let after := txParams lcd panel.controller [(if on_off then .DISPON else .DISPOFF, [])] sent
  (after.1, { panel with controller := after.2 })

/-! ## Creation and initialization -/

/-- What the driver is asked for: the fields of `esp_lcd_panel_dev_config_t` that it
reads.  An order of the colours that it does not know is `none`. -/
structure esp_lcd_panel_dev_config_t where
  reset_gpio_num : Int
  bgr : Option Bool
  bits_per_pixel : Nat
  init_cmds : Option (List ili9341_lcd_init_cmd_t)

inductive PanelError where
  | ESP_ERR_NO_MEM
  | ESP_ERR_NOT_SUPPORTED
  | gpio_config
deriving DecidableEq, Repr

/-- `esp_lcd_new_panel_ili9341` with the outcomes of its allocation and of
`gpio_config`. -/
def esp_lcd_new_panel_ili9341 (granted gpioConfigured : Bool)
    (panel_dev_config : esp_lcd_panel_dev_config_t) : Except PanelError ili9341_panel_t :=
  if granted = false then .error .ESP_ERR_NO_MEM
  else if 0 ≤ panel_dev_config.reset_gpio_num ∧ gpioConfigured = false then .error .gpio_config
  else do
    let madctl_val ← match panel_dev_config.bgr with
      | some false => .ok 0
      | some true => .ok LCD_CMD_BGR_BIT
      | none => .error .ESP_ERR_NOT_SUPPORTED
    let (colmod_val, fb_bits_per_pixel) ← match panel_dev_config.bits_per_pixel with
      | 16 => .ok (0x55, 16)
      | 18 => .ok (0x66, 24)
      | _ => .error .ESP_ERR_NOT_SUPPORTED
    return {
      x_gap := 0
      y_gap := 0
      fb_bits_per_pixel := fb_bits_per_pixel
      madctl_val := madctl_val
      colmod_val := colmod_val
      init_cmds := panel_dev_config.init_cmds }

def vendor_specific_init_default : List ili9341_lcd_init_cmd_t :=
  [⟨.vendor 0xCF, [0x00, 0xAA, 0xE0]⟩, ⟨.vendor 0xED, [0x67, 0x03, 0x12, 0x81]⟩,
    ⟨.vendor 0xE8, [0x8A, 0x01, 0x78]⟩, ⟨.vendor 0xCB, [0x39, 0x2C, 0x00, 0x34, 0x02]⟩,
    ⟨.vendor 0xF7, [0x20]⟩, ⟨.vendor 0xF7, [0x20]⟩, ⟨.vendor 0xEA, [0x00, 0x00]⟩,
    ⟨.vendor 0xC0, [0x23]⟩, ⟨.vendor 0xC1, [0x11]⟩, ⟨.vendor 0xC5, [0x43, 0x4C]⟩,
    ⟨.vendor 0xC7, [0xA0]⟩, ⟨.vendor 0xB1, [0x00, 0x1B]⟩, ⟨.vendor 0xF2, [0x00]⟩,
    ⟨.vendor 0x26, [0x01]⟩,
    ⟨.vendor 0xE0, [0x1F, 0x36, 0x36, 0x3A, 0x0C, 0x05, 0x4F, 0x87, 0x3C, 0x08, 0x11, 0x35, 0x19,
      0x13, 0x00]⟩,
    ⟨.vendor 0xE1, [0x00, 0x09, 0x09, 0x05, 0x13, 0x0A, 0x30, 0x78, 0x43, 0x07, 0x0E, 0x0A, 0x26,
      0x2C, 0x1F]⟩,
    ⟨.vendor 0xB7, [0x07]⟩, ⟨.vendor 0xB6, [0x08, 0x82, 0x27]⟩]

/-- The shadows behind a command of the table.  There is no result when the value is
read from a command without data. -/
def ili9341_panel_t.shadow (ili9341 : ili9341_panel_t) (init_cmd : ili9341_lcd_init_cmd_t) :
    Option ili9341_panel_t :=
  match init_cmd.cmd, init_cmd.data with
  | .MADCTL, [] | .COLMOD, [] => none
  | .MADCTL, value :: _ => some { ili9341 with madctl_val := value }
  | .COLMOD, value :: _ => some { ili9341 with colmod_val := value }
  | _, _ => some ili9341

/-- The loop of `panel_ili9341_init` over the table. -/
def initLoop (panel : Panel lcd) : List ili9341_lcd_init_cmd_t → Sent → Option (Bool × Panel lcd)
  | [], _ => some (true, panel)
  | init_cmd :: rest, sent => do
      let ili9341 ← panel.ili9341.shadow init_cmd
      if sent 0 then
        initLoop ⟨ili9341, lcd.receive panel.controller init_cmd.cmd init_cmd.data⟩ rest
          fun number => sent (number + 1)
      else
        return (false, ⟨ili9341, panel.controller⟩)

def panel_ili9341_init (panel : Panel lcd) (sent : Sent) : Option (Bool × Panel lcd) :=
  let first := txParams lcd panel.controller
    [(.SLPOUT, []), (.MADCTL, [panel.ili9341.madctl_val]), (.COLMOD, [panel.ili9341.colmod_val])]
    sent
  if first.1 then
    initLoop ⟨panel.ili9341, first.2⟩
      (panel.ili9341.init_cmds.getD vendor_specific_init_default) fun number => sent (number + 3)
  else some (false, { panel with controller := first.2 })

/-! ## Calls in any order -/

inductive PanelCall where
  | draw_bitmap (x_start y_start x_end y_end : Int) (color_data : Nat → UInt8)
  | mirror (mirror_x mirror_y : Bool)
  | swap_xy (swap_axes : Bool)
  | set_gap (x_gap y_gap : Int)
  | invert_color (invert_color_data : Bool)
  | disp_on_off (on_off : Bool)

/-- A call, and which of its commands are sent. -/
structure PanelAction where
  call : PanelCall
  sent : Sent

def panelCall (before : Panel lcd) (action : PanelAction) : Option (Bool × Panel lcd) :=
  match action.call with
  | .draw_bitmap x_start y_start x_end y_end color_data =>
      panel_ili9341_draw_bitmap before action.sent x_start y_start x_end y_end color_data
  | .mirror mirror_x mirror_y => some (panel_ili9341_mirror before action.sent mirror_x mirror_y)
  | .swap_xy swap_axes => some (panel_ili9341_swap_xy before action.sent swap_axes)
  | .set_gap x_gap y_gap => some (panel_ili9341_set_gap before x_gap y_gap)
  | .invert_color invert_color_data =>
      some (panel_ili9341_invert_color before action.sent invert_color_data)
  | .disp_on_off on_off => some (panel_ili9341_disp_on_off before action.sent on_off)

def panelNext (before : Panel lcd) (action : PanelAction) : Option (Panel lcd) :=
  (panelCall before action).map Prod.snd

end Driver

/-! ## What a caller can rely on -/

structure PanelView (lcd : LcdController) where
  memory : lcd.Cell → UInt16
  x_gap : Int
  y_gap : Int
  requested : Orientation
  shown : Orientation
  bgr : Bool
  awake : Bool
  inverted : Bool
  on : Bool

section View

variable {lcd : LcdController}

/-- The order of the colours that the bits of a register stand for. -/
def bgrOf (madctl : UInt8) : Bool :=
  madctl.toNat.testBit 3

def Panel.view (panel : Panel lcd) : PanelView lcd where
  memory := lcd.memory panel.controller
  x_gap := panel.ili9341.x_gap
  y_gap := panel.ili9341.y_gap
  requested := orientationOf panel.ili9341.madctl_val
  shown := orientationOf (lcd.registers panel.controller).madctl
  bgr := bgrOf (lcd.registers panel.controller).madctl
  awake := (lcd.registers panel.controller).awake
  inverted := (lcd.registers panel.controller).inverted
  on := (lcd.registers panel.controller).on

/-- Where a cell stands in the orientation that is shown. -/
def PanelView.place (view : PanelView lcd) (cell : lcd.Cell) : Nat × Nat :=
  lcd.place view.shown cell

def PanelView.paintAll (view : PanelView lcd) (stamps : List (Raster.Stamp UInt16)) :
    PanelView lcd :=
  { view with memory := Raster.paintCells view.place view.memory stamps }

/-- The rectangle of a bitmap. -/
def PanelView.region (view : PanelView lcd) (x_start y_start x_end y_end : Int) :
    Raster.Region where
  left := (x_start + view.x_gap).toNat
  top := (y_start + view.y_gap).toNat
  width := (x_end - x_start).toNat
  height := (y_end - y_start).toNat

/-- Ask for an orientation.  When it is sent, everything asked for so far is shown. -/
def PanelView.orient (view : PanelView lcd) (sent : Bool) (requested : Orientation) :
    PanelView lcd :=
  { view with requested := requested, shown := if sent then requested else view.shown }

/-- A call on the view, with whether it succeeds. -/
def viewCall (before : PanelView lcd) (action : PanelAction) : Option (Bool × PanelView lcd) :=
  match action.call with
  | .draw_bitmap x_start y_start x_end y_end color_data =>
      if x_start < x_end ∧ y_start < y_end then
        some (action.sent 0 && action.sent 1,
          if action.sent 0 && action.sent 1 && action.sent 2 then
            before.paintAll
              [bitmapStamp (before.region x_start y_start x_end y_end) color_data]
          else before)
      else none
  | .mirror mirror_x mirror_y =>
      some (action.sent 0, before.orient (action.sent 0)
        { before.requested with mirror_x := mirror_x, mirror_y := mirror_y })
  | .swap_xy swap_axes =>
      some (action.sent 0,
        before.orient (action.sent 0) { before.requested with swap_axes := swap_axes })
  | .set_gap x_gap y_gap => some (true, { before with x_gap := x_gap, y_gap := y_gap })
  | .invert_color invert_color_data =>
      some (action.sent 0, { before with
        inverted := if action.sent 0 then invert_color_data else before.inverted })
  | .disp_on_off on_off =>
      some (action.sent 0, { before with on := if action.sent 0 then on_off else before.on })

def viewNext (before : PanelView lcd) (action : PanelAction) : Option (PanelView lcd) :=
  (viewCall before action).map Prod.snd

/-- The corners of a bitmap are coordinates of 16 bits, and the number of its bits is an
`int`. -/
def PanelCall.InCoordinates (x_gap y_gap : Int) : PanelCall → Prop
  | .draw_bitmap x_start y_start x_end y_end _ =>
      0 ≤ x_start + x_gap ∧ x_end + x_gap ≤ 2 ^ 16 ∧ 0 ≤ y_start + y_gap ∧
        y_end + y_gap ≤ 2 ^ 16 ∧ (x_end - x_start) * (y_end - y_start) * 16 < 2 ^ 31
  | _ => True

instance (x_gap y_gap : Int) (call : PanelCall) : Decidable (call.InCoordinates x_gap y_gap) :=
  match call with
  | .draw_bitmap _ _ _ _ _ => inferInstanceAs (Decidable (_ ∧ _))
  | .mirror _ _ | .swap_xy _ | .set_gap _ _ | .invert_color _ | .disp_on_off _ => isTrue True.intro

def InCoordinates (before : Panel lcd) (action : PanelAction) : Prop :=
  action.call.InCoordinates before.ili9341.x_gap before.ili9341.y_gap

def ViewInCoordinates (before : PanelView lcd) (action : PanelAction) : Prop :=
  action.call.InCoordinates before.x_gap before.y_gap

instance (before : Panel lcd) (action : PanelAction) : Decidable (InCoordinates before action) :=
  inferInstanceAs (Decidable (action.call.InCoordinates _ _))

instance (before : PanelView lcd) (action : PanelAction) :
    Decidable (ViewInCoordinates before action) :=
  inferInstanceAs (Decidable (action.call.InCoordinates _ _))

/-- Driver and controller agree on pixels of 16 bits and on the order of their colours. -/
structure Panel.Ready (panel : Panel lcd) : Prop where
  fb_bits_per_pixel : panel.ili9341.fb_bits_per_pixel = 16
  colmod : (lcd.registers panel.controller).colmod = 0x55
  bgr : bgrOf panel.ili9341.madctl_val = bgrOf (lcd.registers panel.controller).madctl

/-! ## The window of a bitmap -/

theorem coordinateOf_bytes (value : Int) (positive : 0 ≤ value) (small : value < 2 ^ 16) :
    coordinateOf (UInt8.ofInt (value >>> (8 : Nat))) (UInt8.ofInt value) = value.toNat := by
  rcases Int.eq_ofNat_of_zero_le positive with ⟨number, same⟩
  subst same
  have high : UInt8.ofInt ((number : Int) >>> (8 : Nat)) = UInt8.ofNat (number / 256 % 256) := by
    rw [UInt8.ofInt, Int.shiftRight_eq_div_pow]
    congr 1
  have low : UInt8.ofInt (number : Int) = UInt8.ofNat (number % 256) := rfl
  rw [high, low, coordinateOf, UInt8.toNat_ofNat', UInt8.toNat_ofNat', Int.toNat_natCast]
  omega

/-- What the two commands in front of the pixels leave as they found it. -/
structure Addressed (lcd : LcdController) (before after : lcd.State) : Prop where
  registers : lcd.registers after = lcd.registers before
  memory : lcd.memory after = lcd.memory before

section Window

variable {x_start y_start x_end y_end : Int}

/-- The window of the two commands. -/
def bitmapWindow (x_start y_start x_end y_end : Int) : Raster.Region where
  left := x_start.toNat
  top := y_start.toNat
  width := (x_end - x_start).toNat
  height := (y_end - y_start).toNat

/-- The four bytes of two corners, as the controller reads them. -/
theorem coordinateBytes_corners {start stop : Int} (positive : 0 ≤ start) (ordered : start < stop)
    (small : stop ≤ 2 ^ 16) :
    ∃ high low high' low', coordinateBytes start ++ coordinateBytes (stop - 1) =
        [high, low, high', low'] ∧
      coordinateOf high low = start.toNat ∧ coordinateOf high' low' = (stop - 1).toNat ∧
      coordinateOf high low ≤ coordinateOf high' low' := by
  have first := coordinateOf_bytes start positive (by omega)
  have last := coordinateOf_bytes (stop - 1) (by omega) (by omega)
  refine ⟨_, _, _, _, rfl, first, last, ?_⟩
  rw [first, last]
  omega

theorem receive_CASET (documented : lcd.Documented) (controller : lcd.State)
    (positive : 0 ≤ x_start) (ordered : x_start < x_end) (small : x_end ≤ 2 ^ 16) :
    let after := lcd.receive controller .CASET
      (coordinateBytes x_start ++ coordinateBytes (x_end - 1))
    lcd.columns after = (x_start.toNat, (x_end - 1).toNat) ∧
      lcd.rows after = lcd.rows controller ∧ Addressed lcd controller after := by
  rcases coordinateBytes_corners positive ordered small with
    ⟨high, low, high', low', bytes, first, last, sorted⟩
  have set := documented.CASET controller high low high' low' sorted
  rw [first, last, ← bytes] at set
  exact ⟨set.1, set.2.1, set.2.2, documented.kept _ _ _ (by decide)⟩

theorem receive_RASET (documented : lcd.Documented) (controller : lcd.State)
    (positive : 0 ≤ y_start) (ordered : y_start < y_end) (small : y_end ≤ 2 ^ 16) :
    let after := lcd.receive controller .RASET
      (coordinateBytes y_start ++ coordinateBytes (y_end - 1))
    lcd.rows after = (y_start.toNat, (y_end - 1).toNat) ∧
      lcd.columns after = lcd.columns controller ∧ Addressed lcd controller after := by
  rcases coordinateBytes_corners positive ordered small with
    ⟨high, low, high', low', bytes, first, last, sorted⟩
  have set := documented.RASET controller high low high' low' sorted
  rw [first, last, ← bytes] at set
  exact ⟨set.1, set.2.1, set.2.2, documented.kept _ _ _ (by decide)⟩

/-- The window is the one of the bitmap when both of its commands are sent. -/
theorem txParams_window (documented : lcd.Documented) (controller : lcd.State) (sent : Sent)
    (xPositive : 0 ≤ x_start) (xOrdered : x_start < x_end) (xSmall : x_end ≤ 2 ^ 16)
    (yPositive : 0 ≤ y_start) (yOrdered : y_start < y_end) (ySmall : y_end ≤ 2 ^ 16) :
    ∃ after, txParams lcd controller
        [(.CASET, coordinateBytes x_start ++ coordinateBytes (x_end - 1)),
          (.RASET, coordinateBytes y_start ++ coordinateBytes (y_end - 1))] sent =
        (sent 0 && sent 1, after) ∧ Addressed lcd controller after ∧
      ((sent 0 && sent 1) = true →
        lcd.window after = bitmapWindow x_start y_start x_end y_end) := by
  rcases receive_CASET documented controller xPositive xOrdered xSmall with
    ⟨columns, _, addressed⟩
  rcases receive_RASET documented (lcd.receive controller .CASET
    (coordinateBytes x_start ++ coordinateBytes (x_end - 1))) yPositive yOrdered ySmall with
    ⟨rows, kept, addressed'⟩
  by_cases first : sent 0 = true
  · by_cases second : sent 1 = true
    · refine ⟨_, ?_, ⟨addressed'.registers.trans addressed.registers,
        addressed'.memory.trans addressed.memory⟩, ?_⟩
      · simp only [txParams, Nat.zero_add, first, second, if_true, Bool.and_self]
      · intro _
        rw [columns] at kept
        simp only [LcdController.window, rows, kept, bitmapWindow, Raster.Region.mk.injEq, true_and]
        omega
    · simp only [Bool.not_eq_true] at second
      refine ⟨_, ?_, addressed, ?_⟩
      · simp only [txParams, Nat.zero_add, first, second, if_true, Bool.and_false,
          Bool.false_eq_true, if_false]
      · rw [second, Bool.and_false]
        exact fun impossible => by cases impossible
  · simp only [Bool.not_eq_true] at first
    refine ⟨controller, ?_, ⟨rfl, rfl⟩, ?_⟩
    · simp only [txParams, first, Bool.false_and, Bool.false_eq_true, if_false]
    · rw [first, Bool.false_and]
      exact fun impossible => by cases impossible

end Window

/-! ## The bits of a register -/

theorem testBit_assignBit (value bit : UInt8) (set : Bool) {position : Nat}
    (inside : position < 8) :
    (assignBit value bit set).toNat.testBit position =
      if bit.toNat.testBit position then set else value.toNat.testBit position := by
  cases set with
  | true =>
      have joined : (assignBit value bit true).toNat = value.toNat ||| bit.toNat :=
        UInt8.toNat_or value bit
      rw [joined, Nat.testBit_or]
      cases bit.toNat.testBit position <;> simp
  | false =>
      have complement : (~~~bit).toNat = 2 ^ 8 - (bit.toNat + 1) := by
        rw [UInt8.toNat_not, Nat.add_comm bit.toNat, ← Nat.sub_sub]
        rfl
      have masked : (assignBit value bit false).toNat = value.toNat &&& (~~~bit).toNat :=
        UInt8.toNat_and value (~~~bit)
      rw [masked, Nat.testBit_and, complement, Nat.testBit_two_pow_sub_succ bit.toNat_lt]
      cases bit.toNat.testBit position <;> simp [inside]

/-- Mirrors are bits of their own. -/
theorem bits_mirror (value : UInt8) (mirror_x mirror_y : Bool) :
    let after := assignBit (assignBit value LCD_CMD_MX_BIT mirror_x) LCD_CMD_MY_BIT mirror_y
    orientationOf after = { orientationOf value with mirror_x := mirror_x, mirror_y := mirror_y } ∧
      bgrOf after = bgrOf value := by
  simp only [orientationOf, bgrOf, testBit_assignBit _ _ _ (show 5 < 8 by decide),
    testBit_assignBit _ _ _ (show 6 < 8 by decide), testBit_assignBit _ _ _ (show 7 < 8 by decide),
    testBit_assignBit _ _ _ (show 3 < 8 by decide)]
  exact ⟨rfl, rfl⟩

theorem bits_swap (value : UInt8) (swap_axes : Bool) :
    let after := assignBit value LCD_CMD_MV_BIT swap_axes
    orientationOf after = { orientationOf value with swap_axes := swap_axes } ∧
      bgrOf after = bgrOf value := by
  simp only [orientationOf, bgrOf, testBit_assignBit _ _ _ (show 5 < 8 by decide),
    testBit_assignBit _ _ _ (show 6 < 8 by decide), testBit_assignBit _ _ _ (show 7 < 8 by decide),
    testBit_assignBit _ _ _ (show 3 < 8 by decide)]
  exact ⟨rfl, rfl⟩

/-! ## Every call on the driver is a call on the view -/

variable {before after : Panel lcd}

theorem txParams_single (lcd : LcdController) (controller : lcd.State) (cmd : LcdCommand)
    (data : List UInt8) (sent : Sent) :
    txParams lcd controller [(cmd, data)] sent =
      (sent 0, if sent 0 then lcd.receive controller cmd data else controller) := by
  rw [txParams]
  cases sent 0 <;> rfl

/-- When no command fails, the controller has received all of them. -/
theorem txParams_sent {controller : lcd.State} {commands : List (LcdCommand × List UInt8)}
    {sent : Sent} (all : (txParams lcd controller commands sent).1 = true) :
    (txParams lcd controller commands sent).2 =
      commands.foldl (fun controller command => lcd.receive controller command.1 command.2)
        controller := by
  induction commands generalizing controller sent with
  | nil => rfl
  | cons command rest ih =>
      rw [txParams] at all ⊢
      by_cases delivered : sent 0 = true
      · rw [if_pos delivered] at all ⊢
        exact ih all
      · rw [if_neg delivered] at all
        cases all

/-- What a call does: the driver stays ready, and the view follows. -/
structure Follows (after : Panel lcd) (view : PanelView lcd) : Prop where
  ready : after.Ready
  view : after.view = view

theorem sendMadctl_view (documented : lcd.Documented) (ready : before.Ready) (sent : Sent)
    {madctl_val : UInt8} (bgr : bgrOf madctl_val = bgrOf before.ili9341.madctl_val) :
    (sendMadctl before sent madctl_val).1 = sent 0 ∧
      Follows (sendMadctl before sent madctl_val).2
        (before.view.orient (sent 0) (orientationOf madctl_val)) := by
  have registers := documented.MADCTL before.controller madctl_val
  have memory := documented.kept before.controller .MADCTL [madctl_val] (by decide)
  rw [sendMadctl, txParams_single]
  refine ⟨rfl, ?_⟩
  cases delivered : sent 0 with
  | true =>
      refine ⟨⟨ready.fb_bits_per_pixel, ?_, ?_⟩, ?_⟩
      · simp only [if_true, registers, ready.colmod]
      · simp only [if_true, registers]
      · simp only [Panel.view, PanelView.orient, if_true, registers, memory, ← ready.bgr, bgr]
  | false => exact ⟨⟨ready.fb_bits_per_pixel, ready.colmod, bgr.trans ready.bgr⟩, rfl⟩

/-- The number of bytes of a bitmap with 16 bits for each pixel. -/
theorem bitmap_len {width height : Int} (widthPositive : 0 ≤ width) (heightPositive : 0 ≤ height) :
    (width * height * (16 : Nat) / 8).toNat = 2 * (width.toNat * height.toNat) := by
  have positive : 0 ≤ width * height := Int.mul_nonneg widthPositive heightPositive
  have area : (width * height).toNat = width.toNat * height.toNat :=
    Int.toNat_mul widthPositive heightPositive
  omega

/-- What the driver makes of a bitmap: the pixels are painted unless something is not
sent. -/
theorem panel_ili9341_draw_bitmap_view (documented : lcd.Documented) (ready : before.Ready)
    (sent : Sent) {x_start y_start x_end y_end : Int} (color_data : Nat → UInt8)
    (ordered : x_start < x_end ∧ y_start < y_end)
    (inside : (PanelCall.draw_bitmap x_start y_start x_end y_end color_data).InCoordinates
      before.ili9341.x_gap before.ili9341.y_gap) :
    ∃ after, panel_ili9341_draw_bitmap before sent x_start y_start x_end y_end color_data =
        some (sent 0 && sent 1, after) ∧ after.ili9341 = before.ili9341 ∧
      Follows after (if sent 0 && sent 1 && sent 2 then
        before.view.paintAll
          [bitmapStamp (before.view.region x_start y_start x_end y_end) color_data]
        else before.view) := by
  rcases inside with ⟨xPositive, xSmall, yPositive, ySmall, _⟩
  rcases txParams_window documented before.controller sent xPositive
    (show _ < x_end + before.ili9341.x_gap by omega) xSmall yPositive
    (show _ < y_end + before.ili9341.y_gap by omega) ySmall with
    ⟨opened, area, addressed, window⟩
  have width : x_end + before.ili9341.x_gap - (x_start + before.ili9341.x_gap) =
      x_end - x_start := by omega
  have height : y_end + before.ili9341.y_gap - (y_start + before.ili9341.y_gap) =
      y_end - y_start := by omega
  have unpainted (result : lcd.State) (same : Addressed lcd before.controller result) :
      Follows ⟨before.ili9341, result⟩ before.view := by
    refine ⟨⟨ready.fb_bits_per_pixel, ?_, ?_⟩, ?_⟩
    · rw [same.registers, ready.colmod]
    · rw [same.registers, ready.bgr]
    · simp only [Panel.view, same.registers, same.memory]
  simp only [panel_ili9341_draw_bitmap, if_pos ordered, area]
  by_cases both : (sent 0 && sent 1) = true
  · simp only [both, if_true, Bool.true_and]
    refine ⟨_, rfl, rfl, ?_⟩
    by_cases pixels : sent 2 = true
    · have region : lcd.window opened = before.view.region x_start y_start x_end y_end := by
        rw [window both, bitmapWindow, width, height]
        rfl
      have len := bitmap_len (show 0 ≤ x_end - x_start by omega)
        (show 0 ≤ y_end - y_start by omega)
      have colmod : (lcd.registers opened).colmod = 0x55 := by
        rw [addressed.registers, ready.colmod]
      have painted := documented.painted colmod color_data (len.trans (by rw [region]; rfl))
      rw [region, addressed.registers, addressed.memory] at painted
      simp only [pixels, if_true, ready.fb_bits_per_pixel, width, height]
      refine ⟨⟨ready.fb_bits_per_pixel, ?_, ?_⟩, ?_⟩
      · rw [painted.1, ready.colmod]
      · rw [painted.1, ready.bgr]
      · simp only [Panel.view, painted.1, painted.2]
        rfl
    · simp only [Bool.not_eq_true] at pixels
      simp only [pixels, Bool.false_eq_true, if_false]
      exact unpainted opened addressed
  · simp only [Bool.not_eq_true] at both
    simp only [both, Bool.false_eq_true, if_false, Bool.false_and]
    exact ⟨_, rfl, rfl, unpainted opened addressed⟩

/-- A command that sets one register. -/
theorem register_view (documented : lcd.Documented) (ready : before.Ready) (sent : Sent)
    {cmd : LcdCommand} {registers : LcdRegisters} (setting : cmd ∈
      [.INVOFF, .INVON, .DISPOFF, .DISPON, .CASET, .RASET, LcdCommand.MADCTL])
    (sets : lcd.registers (lcd.receive before.controller cmd []) = registers)
    (madctl : registers.madctl = (lcd.registers before.controller).madctl)
    (colmod : registers.colmod = (lcd.registers before.controller).colmod)
    (awake : registers.awake = (lcd.registers before.controller).awake) :
    Follows
      { before with controller := (txParams lcd before.controller [(cmd, [])] sent).2 }
      { before.view with
        inverted := if sent 0 then registers.inverted else before.view.inverted
        on := if sent 0 then registers.on else before.view.on } := by
  have memory := documented.kept before.controller cmd [] setting
  rw [txParams_single]
  cases delivered : sent 0 with
  | true =>
      refine ⟨⟨ready.fb_bits_per_pixel, ?_, ?_⟩, ?_⟩
      · simp only [if_true, sets, colmod, ready.colmod]
      · simp only [if_true, sets, madctl, ready.bgr]
      · simp only [Panel.view, if_true, sets, madctl, awake, memory]
  | false => exact ⟨⟨ready.fb_bits_per_pixel, ready.colmod, ready.bgr⟩, rfl⟩

theorem panel_ili9341_disp_on_off_view (documented : lcd.Documented) (ready : before.Ready)
    (sent : Sent) (on_off : Bool) :
    Follows (panel_ili9341_disp_on_off before sent on_off).2
      { before.view with on := if sent 0 then on_off else before.view.on } := by
  have same : (if sent 0 then (lcd.registers before.controller).inverted
      else before.view.inverted) = before.view.inverted := ite_self _
  cases on_off with
  | true =>
      have follows := register_view documented ready sent (by decide)
        (documented.DISPON before.controller) rfl rfl rfl
      rwa [same] at follows
  | false =>
      have follows := register_view documented ready sent (by decide)
        (documented.DISPOFF before.controller) rfl rfl rfl
      rwa [same] at follows

theorem panel_ili9341_invert_color_view (documented : lcd.Documented) (ready : before.Ready)
    (sent : Sent) (invert_color_data : Bool) :
    Follows (panel_ili9341_invert_color before sent invert_color_data).2
      { before.view with
        inverted := if sent 0 then invert_color_data else before.view.inverted } := by
  have same : (if sent 0 then (lcd.registers before.controller).on else before.view.on) =
      before.view.on := ite_self _
  cases invert_color_data with
  | true =>
      have follows := register_view documented ready sent (by decide)
        (documented.INVON before.controller) rfl rfl rfl
      rwa [same] at follows
  | false =>
      have follows := register_view documented ready sent (by decide)
        (documented.INVOFF before.controller) rfl rfl rfl
      rwa [same] at follows

/-- One call on a driver that is ready is the same call on its view, with the same
result. -/
theorem panelCall_view (documented : lcd.Documented) {action : PanelAction} (ready : before.Ready)
    (inside : InCoordinates before action) :
    (panelCall before action).map (Prod.map id Panel.view) = viewCall before.view action ∧
      ∀ result, panelCall before action = some result → result.2.Ready := by
  have returns {result : Bool × Panel lcd} {ok : Bool} {view : PanelView lcd}
      (answered : result.1 = ok) (follows : Follows result.2 view) :
      (some result).map (Prod.map id Panel.view) = some (ok, view) ∧
        ∀ result', some result = some result' → result'.2.Ready := by
    refine ⟨congrArg some (Prod.ext answered follows.view), ?_⟩
    intro result' same
    cases same
    exact follows.ready
  rcases action with ⟨call, sent⟩
  cases call with
  | draw_bitmap x_start y_start x_end y_end color_data =>
      by_cases ordered : x_start < x_end ∧ y_start < y_end
      · rcases panel_ili9341_draw_bitmap_view documented ready sent color_data ordered inside with
          ⟨after, drawn, _, follows⟩
        simp only [panelCall, drawn, viewCall, if_pos ordered]
        exact returns rfl follows
      · simp only [panelCall, panel_ili9341_draw_bitmap, viewCall, if_neg ordered]
        exact ⟨rfl, fun _ none => by cases none⟩
  | mirror mirror_x mirror_y =>
      rcases bits_mirror before.ili9341.madctl_val mirror_x mirror_y with ⟨orientation, bgr⟩
      rcases sendMadctl_view documented ready sent bgr with ⟨result, follows⟩
      rw [orientation] at follows
      exact returns result follows
  | swap_xy swap_axes =>
      rcases bits_swap before.ili9341.madctl_val swap_axes with ⟨orientation, bgr⟩
      rcases sendMadctl_view documented ready sent bgr with ⟨result, follows⟩
      rw [orientation] at follows
      exact returns result follows
  | set_gap x_gap y_gap =>
      exact returns rfl ⟨⟨ready.fb_bits_per_pixel, ready.colmod, ready.bgr⟩, rfl⟩
  | invert_color invert_color_data =>
      have result : (panel_ili9341_invert_color before sent invert_color_data).1 = sent 0 := by
        rw [panel_ili9341_invert_color, txParams_single]
      exact returns result (panel_ili9341_invert_color_view documented ready sent invert_color_data)
  | disp_on_off on_off =>
      have result : (panel_ili9341_disp_on_off before sent on_off).1 = sent 0 := by
        rw [panel_ili9341_disp_on_off, txParams_single]
      exact returns result (panel_ili9341_disp_on_off_view documented ready sent on_off)

/-- Whichever commands are sent, a run of calls on the driver is the run of the same
calls on the view, those included that end in a failed assertion. -/
theorem panelView_run (documented : lcd.Documented) (ready : before.Ready)
    (actions : List PanelAction) :
    (Transition.runWithin panelNext InCoordinates before actions).map Panel.view =
      Transition.runWithin viewNext ViewInCoordinates before.view actions := by
  refine @Transition.runWithin_map _ _ panelNext InCoordinates _ viewNext ViewInCoordinates _ _
    Panel.view Panel.Ready (fun _ _ => Iff.rfl) ?_ _ ready actions
  intro before action ready inside
  rcases panelCall_view documented ready inside with ⟨same, kept⟩
  constructor
  · rw [viewNext, ← same, Option.map_map, panelNext, Option.map_map]
    rfl
  · intro after moved
    rcases Option.map_eq_some_iff.mp moved with ⟨result, called, rfl⟩
    exact kept result called

/-! ## From the creation on -/

/-- The driver's shadows are what the controller was sent, which is out of its sleep. -/
structure Panel.Shadowed (panel : Panel lcd) : Prop where
  madctl : (lcd.registers panel.controller).madctl = panel.ili9341.madctl_val
  colmod : (lcd.registers panel.controller).colmod = panel.ili9341.colmod_val
  awake : (lcd.registers panel.controller).awake = true

/-- The commands of a table that the data sheet describes: extended ones, an
orientation, and the format of 16 bits. -/
def TableCommand (init_cmd : ili9341_lcd_init_cmd_t) : Prop :=
  (∃ cmd ∈ extendedCommands, init_cmd.cmd = .vendor cmd) ∨
    (∃ value, init_cmd = ⟨.MADCTL, [value]⟩) ∨ init_cmd = ⟨.COLMOD, [0x55]⟩

theorem tableCommand_default :
    ∀ init_cmd ∈ vendor_specific_init_default, ∃ cmd ∈ extendedCommands,
      init_cmd.cmd = .vendor cmd := by
  decide

/-- A command of the table keeps the shadows and the format. -/
theorem Panel.Shadowed.command (documented : lcd.Documented) {panel : Panel lcd}
    {init_cmd : ili9341_lcd_init_cmd_t} {ili9341 : ili9341_panel_t} (shadowed : panel.Shadowed)
    (format : panel.ili9341.colmod_val = 0x55) (table : TableCommand init_cmd)
    (shadows : panel.ili9341.shadow init_cmd = some ili9341) :
    Panel.Shadowed
        (⟨ili9341, lcd.receive panel.controller init_cmd.cmd init_cmd.data⟩ : Panel lcd) ∧
      ili9341.colmod_val = 0x55 ∧
      ili9341.fb_bits_per_pixel = panel.ili9341.fb_bits_per_pixel := by
  rcases init_cmd with ⟨cmd, data⟩
  rcases table with ⟨code, member, same⟩ | ⟨value, same⟩ | same
  · cases same
    cases shadows
    have registers := documented.extended panel.controller code data member
    refine ⟨⟨?_, ?_, ?_⟩, format, rfl⟩
    · rw [registers, shadowed.madctl]
    · rw [registers, shadowed.colmod]
    · rw [registers, shadowed.awake]
  · cases same
    cases shadows
    have registers := documented.MADCTL panel.controller value
    refine ⟨⟨?_, ?_, ?_⟩, format, rfl⟩
    · rw [registers]
    · rw [registers]
      exact shadowed.colmod
    · rw [registers]
      exact shadowed.awake
  · cases same
    cases shadows
    have registers := documented.COLMOD panel.controller 0x55
    refine ⟨⟨?_, ?_, ?_⟩, rfl, rfl⟩
    · rw [registers]
      exact shadowed.madctl
    · rw [registers]
    · rw [registers]
      exact shadowed.awake

theorem initLoop_shadowed (documented : lcd.Documented) {panel : Panel lcd}
    {init_cmds : List ili9341_lcd_init_cmd_t} {sent : Sent} (shadowed : panel.Shadowed)
    (format : panel.ili9341.colmod_val = 0x55)
    (table : ∀ init_cmd ∈ init_cmds, TableCommand init_cmd)
    (finished : initLoop panel init_cmds sent = some (true, after)) :
    after.Shadowed ∧ after.ili9341.colmod_val = 0x55 ∧
      after.ili9341.fb_bits_per_pixel = panel.ili9341.fb_bits_per_pixel := by
  induction init_cmds generalizing panel sent with
  | nil =>
      cases finished
      exact ⟨shadowed, format, rfl⟩
  | cons init_cmd rest ih =>
      rw [List.forall_mem_cons] at table
      rw [initLoop] at finished
      rcases Option.bind_eq_some_iff.mp finished with ⟨ili9341, shadows, finished⟩
      rcases shadowed.command documented format table.1 shadows with ⟨next, colmod, bits⟩
      by_cases delivered : sent 0 = true
      · rw [if_pos delivered] at finished
        rcases ih next colmod table.2 finished with ⟨shadowed', colmod', bits'⟩
        exact ⟨shadowed', colmod', bits'.trans bits⟩
      · rw [if_neg delivered] at finished
        cases finished

/-- Extended commands change nothing in the driver. -/
theorem initLoop_same {panel : Panel lcd} {init_cmds : List ili9341_lcd_init_cmd_t} {sent : Sent}
    (extended : ∀ init_cmd ∈ init_cmds, ∃ cmd ∈ extendedCommands, init_cmd.cmd = .vendor cmd)
    (finished : initLoop panel init_cmds sent = some (true, after)) :
    after.ili9341 = panel.ili9341 := by
  induction init_cmds generalizing panel sent with
  | nil =>
      cases finished
      rfl
  | cons init_cmd rest ih =>
      rw [List.forall_mem_cons] at extended
      rcases init_cmd with ⟨cmd, data⟩
      rcases extended with ⟨⟨code, _, same⟩, later⟩
      cases same
      rw [initLoop] at finished
      rcases Option.bind_eq_some_iff.mp finished with ⟨ili9341, shadows, finished⟩
      cases shadows
      by_cases delivered : sent 0 = true
      · rw [if_pos delivered] at finished
        have same := ih later finished
        exact same
      · rw [if_neg delivered] at finished
        cases finished

/-- A driver for pixels of 16 bits. -/
theorem created_format {granted gpioConfigured : Bool} {config : esp_lcd_panel_dev_config_t}
    {ili9341 : ili9341_panel_t} (depth : config.bits_per_pixel = 16)
    (created : esp_lcd_new_panel_ili9341 granted gpioConfigured config = .ok ili9341) :
    ili9341.colmod_val = 0x55 ∧ ili9341.fb_bits_per_pixel = 16 ∧
      ili9341.init_cmds = config.init_cmds := by
  rw [esp_lcd_new_panel_ili9341] at created
  split at created
  · cases created
  · split at created
    · cases created
    · rw [depth] at created
      cases order : config.bgr with
      | none =>
          rw [order] at created
          cases created
      | some bgr =>
          rw [order] at created
          cases bgr <;> cases created <;> exact ⟨rfl, rfl, rfl⟩

/-- A successful initialization leaves the driver ready, what it asks for shown, and the
panel out of its sleep. -/
theorem panel_ili9341_init_ready (documented : lcd.Documented) {panel : Panel lcd} {sent : Sent}
    (format : panel.ili9341.colmod_val = 0x55) (bits : panel.ili9341.fb_bits_per_pixel = 16)
    (table : ∀ init_cmd ∈ panel.ili9341.init_cmds.getD vendor_specific_init_default,
      TableCommand init_cmd)
    (initialized : panel_ili9341_init panel sent = some (true, after)) :
    after.Ready ∧ after.view.shown = after.view.requested ∧ after.view.awake = true := by
  rw [panel_ili9341_init] at initialized
  by_cases delivered : (txParams lcd panel.controller [(.SLPOUT, []),
      (.MADCTL, [panel.ili9341.madctl_val]), (.COLMOD, [panel.ili9341.colmod_val])] sent).1 = true
  · simp only [if_pos delivered, txParams_sent delivered, List.foldl_cons, List.foldl_nil]
      at initialized
    have begun : Panel.Shadowed (⟨panel.ili9341, lcd.receive (lcd.receive
        (lcd.receive panel.controller .SLPOUT []) .MADCTL [panel.ili9341.madctl_val])
          .COLMOD [panel.ili9341.colmod_val]⟩ : Panel lcd) :=
      ⟨by rw [documented.COLMOD, documented.MADCTL], by rw [documented.COLMOD],
        by rw [documented.COLMOD, documented.MADCTL, documented.SLPOUT]⟩
    rcases initLoop_shadowed documented begun format table initialized with
      ⟨shadowed, colmod, same⟩
    exact ⟨⟨same.trans bits, shadowed.colmod.trans colmod, congrArg bgrOf shadowed.madctl.symm⟩,
      congrArg orientationOf shadowed.madctl, shadowed.awake⟩
  · simp only [if_neg delivered, Option.some.injEq, Prod.mk.injEq, Bool.false_eq_true,
      false_and] at initialized

end View

/-- The memory of a controller that was reset. -/
def resetState (memory : Fin 240 × Fin 320 → UInt16) : ILI9341.State where
  registers := ⟨0, 0x66, false, false, false⟩
  columns := (0, 239)
  rows := (0, 319)
  memory := memory

/-- The panel of the source, mirrored and then drawn on, with the pixels of the second
bitmap not sent. -/
def drawnPanel : List PanelAction :=
  [⟨.mirror true false, fun _ => true⟩, ⟨.draw_bitmap 10 60 14 61 fun _ => 0xFF, fun _ => true⟩,
    ⟨.draw_bitmap 10 61 14 62 fun _ => 0xFF, fun number => number != 2⟩]

end Display
end ToothVoca
