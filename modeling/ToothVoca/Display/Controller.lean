import Mathlib.Data.UInt
import ToothVoca.Library.Raster

namespace ToothVoca
namespace Display

open Library

/-!
# The controller of the panel

The driver of the panel talks to a controller, which is no part of the program.  It is
a parameter of everything that is said about pixels: what its states are, what it makes
of a command, how many cells its memory has and at which column and row each of them
stands under an orientation.

`LcdController.Documented` is what the data sheet says of the commands that the driver
sends.  Of the formats of a pixel it knows the one of 16 bits.  A window may reach
beyond the memory: what is sent for places without a cell is ignored.

`ILI9341` is a controller of this kind, with the memory of the chip and its three bits
of orientation.
-/

/-- The commands of the controller that the driver knows by name. -/
inductive LcdCommand where
  | SLPOUT
  | INVOFF
  | INVON
  | DISPOFF
  | DISPON
  | CASET
  | RASET
  | RAMWR
  | MADCTL
  | COLMOD
  | vendor (cmd : UInt8)
deriving DecidableEq, Repr

def LCD_CMD_BGR_BIT : UInt8 := 0x08
def LCD_CMD_MV_BIT : UInt8 := 0x20
def LCD_CMD_MX_BIT : UInt8 := 0x40
def LCD_CMD_MY_BIT : UInt8 := 0x80

/-! ## The controller -/

/-- A pixel of 16 bits from its two bytes. -/
def pixel16 (high low : UInt8) : UInt16 :=
  high.toUInt16 <<< 8 ||| low.toUInt16

/-- A bitmap with two bytes for each pixel, row by row. -/
def bitmapStamp (region : Raster.Region) (color_data : Nat → UInt8) : Raster.Stamp UInt16 where
  region := region
  picture := fun x y =>
    pixel16 (color_data (2 * (y * region.width + x))) (color_data (2 * (y * region.width + x) + 1))

structure Orientation where
  mirror_x : Bool
  mirror_y : Bool
  swap_axes : Bool
deriving DecidableEq, Repr

/-- The orientation that the bits of a register stand for. -/
def orientationOf (madctl : UInt8) : Orientation where
  mirror_x := madctl.toNat.testBit 6
  mirror_y := madctl.toNat.testBit 7
  swap_axes := madctl.toNat.testBit 5

/-- The registers that the driver sets, apart from the window. -/
structure LcdRegisters where
  madctl : UInt8
  colmod : UInt8
  awake : Bool
  inverted : Bool
  on : Bool
deriving DecidableEq, Repr

/-- A controller: its states with what can be said of them, what it makes of a command,
and the column and the row of each cell of its memory. -/
structure LcdController where
  State : Type
  Cell : Type
  receive : State → LcdCommand → List UInt8 → State
  registers : State → LcdRegisters
  columns : State → Nat × Nat
  rows : State → Nat × Nat
  memory : State → Cell → UInt16
  place : Orientation → Cell → Nat × Nat

/-- A big-endian number of two bytes. -/
def coordinateOf (high low : UInt8) : Nat :=
  256 * high.toNat + low.toNat

/-- The commands of the default table of the driver. -/
def extendedCommands : List UInt8 :=
  [0x26, 0xB1, 0xB6, 0xB7, 0xC0, 0xC1, 0xC5, 0xC7, 0xCB, 0xCF, 0xE0, 0xE1, 0xE8, 0xEA, 0xED, 0xF2,
    0xF7]

namespace LcdController

/-- The window, whose last column and row belong to it. -/
def window (lcd : LcdController) (state : lcd.State) : Raster.Region where
  left := (lcd.columns state).1
  top := (lcd.rows state).1
  width := (lcd.columns state).2 + 1 - (lcd.columns state).1
  height := (lcd.rows state).2 + 1 - (lcd.rows state).1

/-- What the data sheet of the controller says of the commands that are sent. -/
structure Documented (lcd : LcdController) : Prop where
  SLPOUT : ∀ state, lcd.registers (lcd.receive state .SLPOUT []) =
    { lcd.registers state with awake := true }
  INVOFF : ∀ state, lcd.registers (lcd.receive state .INVOFF []) =
    { lcd.registers state with inverted := false }
  INVON : ∀ state, lcd.registers (lcd.receive state .INVON []) =
    { lcd.registers state with inverted := true }
  DISPOFF : ∀ state, lcd.registers (lcd.receive state .DISPOFF []) =
    { lcd.registers state with on := false }
  DISPON : ∀ state, lcd.registers (lcd.receive state .DISPON []) =
    { lcd.registers state with on := true }
  MADCTL : ∀ state value, lcd.registers (lcd.receive state .MADCTL [value]) =
    { lcd.registers state with madctl := value }
  COLMOD : ∀ state value, lcd.registers (lcd.receive state .COLMOD [value]) =
    { lcd.registers state with colmod := value }
  extended : ∀ state cmd data, cmd ∈ extendedCommands →
    lcd.registers (lcd.receive state (.vendor cmd) data) = lcd.registers state
  /-- The first column is at most the last one. -/
  CASET : ∀ state high low high' low', coordinateOf high low ≤ coordinateOf high' low' →
    lcd.columns (lcd.receive state .CASET [high, low, high', low']) =
        (coordinateOf high low, coordinateOf high' low') ∧
      lcd.rows (lcd.receive state .CASET [high, low, high', low']) = lcd.rows state ∧
      lcd.registers (lcd.receive state .CASET [high, low, high', low']) = lcd.registers state
  RASET : ∀ state high low high' low', coordinateOf high low ≤ coordinateOf high' low' →
    lcd.rows (lcd.receive state .RASET [high, low, high', low']) =
        (coordinateOf high low, coordinateOf high' low') ∧
      lcd.columns (lcd.receive state .RASET [high, low, high', low']) = lcd.columns state ∧
      lcd.registers (lcd.receive state .RASET [high, low, high', low']) = lcd.registers state
  /-- No command but that of the pixels changes the memory. -/
  kept : ∀ state cmd data,
    cmd ∈ [.INVOFF, .INVON, .DISPOFF, .DISPON, .CASET, .RASET, LcdCommand.MADCTL] →
    lcd.memory (lcd.receive state cmd data) = lcd.memory state
  /-- The pixels of a whole window go into its cells, row by row. -/
  RAMWR : ∀ state data, (lcd.registers state).colmod = 0x55 →
    data.length = 2 * ((lcd.window state).width * (lcd.window state).height) →
    lcd.registers (lcd.receive state .RAMWR data) = lcd.registers state ∧
      ∀ cell,
        let place := lcd.place (orientationOf (lcd.registers state).madctl) cell
        let index := (place.2 - (lcd.window state).top) * (lcd.window state).width +
          (place.1 - (lcd.window state).left)
        lcd.memory (lcd.receive state .RAMWR data) cell =
          if (lcd.window state).Covers place.1 place.2 then
            pixel16 (data.getD (2 * index) 0) (data.getD (2 * index + 1) 0)
          else lcd.memory state cell

end LcdController

/-! ## The pixels of a window -/

/-- The pixel of a covered point is among the pixels that are sent. -/
theorem pixel_index_lt {region : Raster.Region} {column row : Nat}
    (covers : region.Covers column row) :
    (row - region.top) * region.width + (column - region.left) < region.width * region.height := by
  unfold Raster.Region.Covers at covers
  have rows : (row - region.top) + 1 ≤ region.height := by omega
  have product := Nat.mul_le_mul_left region.width rows
  rw [Nat.mul_succ, Nat.mul_comm region.width] at product
  omega

theorem getD_range_map (color_data : Nat → UInt8) {len index : Nat} (below : index < len) :
    ((List.range len).map color_data).getD index 0 = color_data index := by
  rw [List.getD_eq_getElem?_getD, List.getElem?_map, List.getElem?_range below]
  rfl

/-- The pixels of a whole window paint it. -/
theorem LcdController.Documented.painted {lcd : LcdController} (documented : lcd.Documented)
    {state : lcd.State} (colmod : (lcd.registers state).colmod = 0x55) (color_data : Nat → UInt8)
    {len : Nat} (whole : len = 2 * ((lcd.window state).width * (lcd.window state).height)) :
    lcd.registers (lcd.receive state .RAMWR ((List.range len).map color_data)) =
        lcd.registers state ∧
      lcd.memory (lcd.receive state .RAMWR ((List.range len).map color_data)) =
        Raster.paintCells (lcd.place (orientationOf (lcd.registers state).madctl))
          (lcd.memory state) [bitmapStamp (lcd.window state) color_data] := by
  have counted : ((List.range len).map color_data).length = len := by
    rw [List.length_map, List.length_range]
  rcases documented.RAMWR state ((List.range len).map color_data) colmod (counted.trans whole) with
    ⟨registers, pixels⟩
  refine ⟨registers, ?_⟩
  funext cell
  rw [pixels cell]
  by_cases covers : (lcd.window state).Covers
      (lcd.place (orientationOf (lcd.registers state).madctl) cell).1
      (lcd.place (orientationOf (lcd.registers state).madctl) cell).2
  · have inside := pixel_index_lt covers
    have painted := Raster.paint_covered (fun _ _ => lcd.memory state cell)
      (show (bitmapStamp (lcd.window state) color_data).region.Covers _ _ from covers)
    rw [if_pos covers, getD_range_map _ (by omega), getD_range_map _ (by omega)]
    exact painted.symm
  · have kept := Raster.paint_kept (fun _ _ => lcd.memory state cell)
      (show ¬ (bitmapStamp (lcd.window state) color_data).region.Covers _ _ from covers)
    rw [if_neg covers]
    exact kept.symm

/-! ## A controller with 240 columns and 320 rows -/

namespace ILI9341

structure State where
  registers : LcdRegisters
  columns : Nat × Nat
  rows : Nat × Nat
  memory : Fin 240 × Fin 320 → UInt16

/-- The mirrors first, and then the exchange. -/
def place (orientation : Orientation) (cell : Fin 240 × Fin 320) : Nat × Nat :=
  let column := if orientation.mirror_x then 239 - cell.1.val else cell.1.val
  let row := if orientation.mirror_y then 319 - cell.2.val else cell.2.val
  if orientation.swap_axes then (row, column) else (column, row)

/-- The pixels that are sent for a window, and no others. -/
def write (state : State) (data : List UInt8) : Fin 240 × Fin 320 → UInt16 :=
  fun cell =>
    let place := place (orientationOf state.registers.madctl) cell
    let window : Raster.Region := ⟨state.columns.1, state.rows.1,
      state.columns.2 + 1 - state.columns.1, state.rows.2 + 1 - state.rows.1⟩
    let index := (place.2 - window.top) * window.width + (place.1 - window.left)
    if window.Covers place.1 place.2 ∧ 2 * index + 1 < data.length then
      pixel16 (data.getD (2 * index) 0) (data.getD (2 * index + 1) 0)
    else state.memory cell

def receive (state : State) (cmd : LcdCommand) (data : List UInt8) : State :=
  match cmd, data with
  | .SLPOUT, _ => { state with registers := { state.registers with awake := true } }
  | .INVOFF, _ => { state with registers := { state.registers with inverted := false } }
  | .INVON, _ => { state with registers := { state.registers with inverted := true } }
  | .DISPOFF, _ => { state with registers := { state.registers with on := false } }
  | .DISPON, _ => { state with registers := { state.registers with on := true } }
  | .CASET, [high, low, high', low'] =>
      { state with columns := (coordinateOf high low, coordinateOf high' low') }
  | .RASET, [high, low, high', low'] =>
      { state with rows := (coordinateOf high low, coordinateOf high' low') }
  | .RAMWR, data =>
      { state with
        memory := if state.registers.colmod = 0x55 then write state data else state.memory }
  | .MADCTL, value :: _ => { state with registers := { state.registers with madctl := value } }
  | .COLMOD, value :: _ => { state with registers := { state.registers with colmod := value } }
  | _, _ => state

theorem memory_receive (state : State) {cmd : LcdCommand} (other : cmd ≠ .RAMWR)
    (data : List UInt8) : (receive state cmd data).memory = state.memory := by
  cases cmd with
  | RAMWR => exact absurd rfl other
  | CASET | RASET =>
      rcases data with _ | ⟨_, _ | ⟨_, _ | ⟨_, _ | ⟨_, _ | ⟨_, _⟩⟩⟩⟩⟩ <;> rfl
  | MADCTL | COLMOD => cases data <;> rfl
  | _ => rfl

end ILI9341

def ILI9341 : LcdController where
  State := ILI9341.State
  Cell := Fin 240 × Fin 320
  receive := ILI9341.receive
  registers := ILI9341.State.registers
  columns := ILI9341.State.columns
  rows := ILI9341.State.rows
  memory := ILI9341.State.memory
  place := ILI9341.place

theorem ILI9341_documented : ILI9341.Documented where
  SLPOUT := fun _ => rfl
  INVOFF := fun _ => rfl
  INVON := fun _ => rfl
  DISPOFF := fun _ => rfl
  DISPON := fun _ => rfl
  MADCTL := fun _ _ => rfl
  COLMOD := fun _ _ => rfl
  extended := fun _ _ _ _ => rfl
  CASET := fun _ _ _ _ _ _ => ⟨rfl, rfl, rfl⟩
  RASET := fun _ _ _ _ _ _ => ⟨rfl, rfl, rfl⟩
  kept := by
    intro state cmd data member
    apply ILI9341.memory_receive state _ data
    rintro rfl
    simp at member
  RAMWR := by
    intro state data colmod whole
    have written : (ILI9341.receive state .RAMWR data).memory = ILI9341.write state data :=
      if_pos colmod
    have bytes {index : Nat} (below : index < (ILI9341.window state).width *
        (ILI9341.window state).height) : 2 * index + 1 < data.length := by omega
    refine ⟨rfl, ?_⟩
    intro cell
    refine (congrFun written cell).trans ?_
    by_cases covers : (ILI9341.window state).Covers
        (ILI9341.place (orientationOf (ILI9341.registers state).madctl) cell).1
        (ILI9341.place (orientationOf (ILI9341.registers state).madctl) cell).2
    · exact (if_pos ⟨covers, bytes (pixel_index_lt covers)⟩).trans (if_pos covers).symm
    · exact (if_neg fun both => covers both.1).trans (if_neg covers).symm

end Display
end ToothVoca
