import ToothVoca.Display.RefreshProgress
import ToothVoca.Display.Screen

namespace ToothVoca
namespace Display

open Library

/-!
# Two tasks on one panel (`lcd_touch.c`)

The main task fills the background and the task of the screen draws glyphs, on
two cores and on one panel.  Here the statements of both functions, with their
semaphores, carry the transfers that they start, so a run is an interleaving of
two calls that each consist of many transfers.

As long as a task creates its semaphore only while the other one is outside of
its own span, the transfers of a call are not mixed with those of another one.
The panel then is what the calls leave that are made one after the other, in the
order in which they get past their allocations.

`granted` is not part of the program.  It lists the calls that have got past
their allocations.  A transfer changes the panel when it is started: in the runs
considered, its buffer is not released before it has completed.  A transfer that
is refused, not sent, or read from NULL is not started, and its call stays there.
-/

/-- A call that uses the panel.  For a glyph its buffer has been allocated, or
not. -/
inductive PanelUse where
  | LcdTouch_ResetBackground
  | LcdTouch_DrawText (buffer : Bool) (draw : GlyphDraw)

def PanelUse.task : PanelUse → RefreshTask
  | .LcdTouch_ResetBackground => .MainTask
  | .LcdTouch_DrawText _ _ => .LcdTouchTask

structure SharedPanel (lcd : LcdController) where
  refresh : RefreshState
  panel : Panel lcd
  current : RefreshTask → Option PanelUse
  todo : RefreshTask → List DrawBitmap
  granted : List PanelUse

def SharedPanel.initial {lcd : LcdController} (panel : Panel lcd) : SharedPanel lcd where
  refresh := RefreshState.initial
  panel := panel
  current := fun _ => none
  todo := fun _ => []
  granted := []

inductive SharedAction where
  | call (use : PanelUse)
  | proceed (task : RefreshTask)
  | fail (task : RefreshTask)
  | complete

section Calls

variable {lcd : LcdController} (font : UInt32 → Option FontImage) (s_backgroud_color : UInt16)
  (sent : Nat → Sent)

/-- The transfers of a call that is granted its semaphore. -/
def useTransfers : PanelUse → Option (List DrawBitmap)
  | .LcdTouch_ResetBackground =>
      some (LcdTouch_ResetBackground true ⟨true, true⟩ s_backgroud_color).transfers
  | .LcdTouch_DrawText buffer draw =>
      (LcdTouch_DrawText font s_backgroud_color ⟨buffer, true⟩ draw.text_data).map
        DrawTextResult.transfers

/-- A statement, with the transfer that it starts and the call that it lets
through. -/
def sharedProceed (task : RefreshTask) (before : SharedPanel lcd) :
    Option (SharedPanel lcd) :=
  (refreshProceed task before.refresh).bind fun refresh =>
    match before.refresh.points task, refresh.points task with
    | .start _, .take _ number =>
        match before.todo task with
        | [] => none
        | call :: rest =>
            (transfer before.panel (sent number) call).map fun panel =>
              { before with
                refresh := refresh
                panel := panel
                todo := Function.update before.todo task rest }
    | .create _, .start _ | .allocate _, .start _ =>
        some { before with
          refresh := refresh
          granted := before.granted ++ (before.current task).toList }
    | _, _ => some { before with refresh := refresh }

def sharedNext (before : SharedPanel lcd) : SharedAction → Option (SharedPanel lcd)
  | .call use =>
      (useTransfers font s_backgroud_color use).bind fun transfers =>
        (refreshNext before.refresh (.call use.task transfers.length)).map fun refresh =>
          { before with
            refresh := refresh
            current := Function.update before.current use.task (some use)
            todo := Function.update before.todo use.task transfers }
  | .proceed task => sharedProceed sent task before
  | .fail task =>
      (refreshNext before.refresh (.fail task)).map fun refresh =>
        { before with refresh := refresh }
  | .complete =>
      (refreshNext before.refresh .complete).map fun refresh =>
        { before with refresh := refresh }

/-! ## The same calls one after the other -/

/-- What a call adds to the stamps on the screen. -/
def useStamps (before : List (Raster.Stamp UInt16)) : PanelUse → List (Raster.Stamp UInt16)
  | .LcdTouch_ResetBackground => []
  | .LcdTouch_DrawText buffer draw =>
      before ++ textStamps font s_backgroud_color (fun _ => ⟨buffer, true⟩) 0 [draw]

/-- A glyph that has a place on the panel, whether or not it has a buffer. -/
def PanelUse.Able : PanelUse → Prop
  | .LcdTouch_ResetBackground => True
  | .LcdTouch_DrawText _ draw =>
      ∀ image, font draw.fontIndex = some image →
        Transferable image draw.start_x_pos draw.start_y_pos

/-- The transfers of calls behind each other. -/
def serial (uses : List PanelUse) : List DrawBitmap :=
  uses.flatMap fun use => (useTransfers font s_backgroud_color use).getD []

/-- A task creates its semaphore while the other one is outside, and glyphs are
called for that have a place on the panel. -/
def SharedAllowed (before : SharedPanel lcd) : SharedAction → Prop
  | .call use => use.Able font
  | .proceed task => Exclusive before.refresh (.proceed task)
  | .fail task => Exclusive before.refresh (.fail task)
  | .complete => True

end Calls

/-! ## One call -/

section Use

variable {lcd : LcdController} {font : UInt32 → Option FontImage} {s_backgroud_color : UInt16}

/-- The stamps of one call alone. -/
def useStamp (font : UInt32 → Option FontImage) (s_backgroud_color : UInt16) :
    PanelUse → List (Raster.Stamp UInt16)
  | .LcdTouch_ResetBackground => [screenStamp s_backgroud_color]
  | .LcdTouch_DrawText buffer draw =>
      textStamps font s_backgroud_color (fun _ => ⟨buffer, true⟩) 0 [draw]

theorem use_paints (documented : lcd.Documented) (s_backgroud_color : UInt16) {use : PanelUse}
    (able : use.Able font) :
    ∃ calls, useTransfers font s_backgroud_color use = some calls ∧
      Paints lcd calls (useStamp font s_backgroud_color use) := by
  cases use with
  | LcdTouch_ResetBackground =>
      exact ⟨_, rfl,
        LcdToudh_FillBackground_paints documented s_backgroud_color s_backgroud_color⟩
  | LcdTouch_DrawText buffer draw =>
      have drawn : ∃ result,
          LcdTouch_DrawText font s_backgroud_color ⟨buffer, true⟩ draw.text_data = some result ∧
            Paints lcd result.transfers
              (useStamp font s_backgroud_color (.LcdTouch_DrawText buffer draw)) := by
        rw [useStamp, textStamps, textStamps, List.append_nil]
        cases found : font draw.fontIndex with
        | none =>
            rcases LcdTouch_DrawText_none s_backgroud_color ⟨buffer, true⟩ draw.text_data found
              with ⟨result, returned, none⟩
            refine ⟨result, returned, ?_⟩
            rw [none]
            exact Paints.nil
        | some image =>
            rcases LcdTouch_DrawText_paints documented draw.text_data found rfl
              (able image found) with ⟨result, returned, _, paints⟩
            exact ⟨result, returned, paints⟩
      rcases drawn with ⟨result, returned, paints⟩
      refine ⟨result.transfers, ?_, paints⟩
      rw [useTransfers, returned, Option.map_some]

/-- The background is one transfer for each of its bands. -/
theorem length_bandLoop (row_line : Nat) (display_buf : Nat → UInt8) (bands j : Nat) :
    (bandLoop row_line display_buf bands j).length = bands := by
  induction bands generalizing j with
  | zero => rfl
  | succ bands ih => exact congrArg Nat.succ (ih (j + 1))

/-- A call keeps the screen what the stamps make of it. -/
theorem ShowsStamps.use (documented : lcd.Documented) {screen : ScreenPanel lcd}
    {stamps : List (Raster.Stamp UInt16)} (shows : ShowsStamps screen stamps) {use : PanelUse}
    (able : use.Able font) {sent : Nat → Sent} {panel : Panel lcd}
    (returned : transferAll screen.panel sent
      ((useTransfers font screen.s_backgroud_color use).getD []) = some panel) :
    ShowsStamps { screen with panel := panel }
      (useStamps font screen.s_backgroud_color stamps use) := by
  rcases use_paints documented screen.s_backgroud_color able with ⟨calls, called, paints⟩
  rw [called, Option.getD_some] at returned
  rcases paints.painted shows.plain returned with ⟨plain, view⟩
  have place := congrArg PanelView.place view
  have memory := congrArg PanelView.memory view
  have painted := @ShowsStamps.paint _ screen { screen with panel := panel } _ shows _ plain rfl
    place memory
  cases use with
  | LcdTouch_ResetBackground => exact painted.screen
  | LcdTouch_DrawText buffer draw => exact painted

theorem serial_append (uses : List PanelUse) (use : PanelUse) :
    serial font s_backgroud_color (uses ++ [use]) =
      serial font s_backgroud_color uses ++
        (useTransfers font s_backgroud_color use).getD [] := by
  unfold serial
  rw [List.flatMap_append, List.flatMap_cons, List.flatMap_nil, List.append_nil]

/-- What calls behind each other leave on the screen. -/
theorem serial_shows (documented : lcd.Documented) {screen : ScreenPanel lcd}
    {stamps : List (Raster.Stamp UInt16)} (shows : ShowsStamps screen stamps)
    {uses : List PanelUse} (able : ∀ use ∈ uses, use.Able font) {sent : Nat → Sent}
    {panel : Panel lcd}
    (returned : transferAll screen.panel sent (serial font screen.s_backgroud_color uses) =
      some panel) :
    ShowsStamps { screen with panel := panel }
      (uses.foldl (useStamps font screen.s_backgroud_color) stamps) := by
  induction uses generalizing screen stamps sent with
  | nil =>
      cases returned
      exact shows
  | cons use rest ih =>
      rw [List.forall_mem_cons] at able
      rw [serial, List.flatMap_cons, transferAll_append, Option.bind_eq_some_iff]
        at returned
      rcases returned with ⟨middle, first, later⟩
      exact @ih { screen with panel := middle } _ (shows.use documented able.1 first) able.2 _ later

end Use

/-! ## What one statement does to the transfers -/

/-- Where a statement leads, and how many transfers are started behind it. -/
def LeadsTo (task : RefreshTask) (started : Nat) : RefreshPoint → RefreshPoint → Nat → Prop
  | .create rows, behind, started' => behind = task.afterCreate rows ∧ started' = started
  | .allocate rows, behind, started' => behind = .start rows ∧ started' = started
  | .start (rows + 1), behind, started' =>
      behind = .take rows started ∧ started' = started + 1
  | .take rows number, behind, started' =>
      (∃ handle, behind = .wait rows number handle) ∧ started' = started
  | .wait rows _ _, behind, started' => behind = .start rows ∧ started' = started
  | _, behind, started' =>
      (behind = .idle ∨ behind = .delete ∨ behind = .free) ∧ started' = started

theorem proceed_leadsTo {before after : RefreshState} {task : RefreshTask}
    (moved : refreshProceed task before = some after) :
    after.points task.other = before.points task.other ∧
      LeadsTo task before.started (before.points task) (after.points task) after.started := by
  cases proceeds_of_moved moved with
  | create rows stands | allocate rows stands | start rows stands | fall rows _ _ stands
  | pass rows _ _ stands =>
      rw [stands]
      exact ⟨RefreshState.move_points_other _ task _, RefreshState.move_points_self _ task _, rfl⟩
  | take rows number stands =>
      rw [stands]
      exact ⟨RefreshState.move_points_other _ task _,
        ⟨_, RefreshState.move_points_self _ task _⟩, rfl⟩
  | abandon stands =>
      rw [stands]
      exact ⟨RefreshState.move_points_other _ task _,
        Or.inl (RefreshState.move_points_self _ task _), rfl⟩
  | finish stands =>
      rw [stands, RefreshState.move_points_self]
      refine ⟨RefreshState.move_points_other _ task _, ?_, rfl⟩
      cases task with
      | MainTask => exact Or.inr (Or.inr rfl)
      | LcdTouchTask => exact Or.inr (Or.inl rfl)
  | delete stands =>
      rw [stands, RefreshState.move_points_self]
      refine ⟨RefreshState.move_points_other _ task _, ?_, rfl⟩
      cases task with
      | MainTask => exact Or.inl rfl
      | LcdTouchTask => exact Or.inr (Or.inr rfl)
  | free stands =>
      rw [stands, RefreshState.move_points_self]
      refine ⟨RefreshState.move_points_other _ task _, ?_, rfl⟩
      cases task with
      | MainTask => exact Or.inr (Or.inl rfl)
      | LcdTouchTask => exact Or.inl rfl

theorem call_moves {before after : RefreshState} {task : RefreshTask} {rows : Nat}
    (bands : task = .MainTask → rows = LT_LCD_BIT_PER_PIXEL)
    (moved : refreshNext before (.call task rows) = some after) :
    before.points task = .idle ∧ after = before.move task (.create rows) := by
  unfold refreshNext at moved
  cases point : before.points task with
  | idle =>
      cases task with
      | MainTask =>
          simp only [point] at moved
          cases moved
          rw [bands rfl]
          exact ⟨rfl, rfl⟩
      | LcdTouchTask =>
          simp only [point] at moved
          cases moved
          exact ⟨rfl, rfl⟩
  | _ => simp only [point, reduceCtorEq] at moved

/-- The transfers of a call past its allocations that have not been started. -/
def unsent (point : RefreshPoint) (todo : List DrawBitmap) : List DrawBitmap :=
  match point with
  | .start _ | .take _ _ | .wait _ _ _ => todo
  | _ => []

/-- A point of a call and the transfers that belong there. -/
def Matches (font : UInt32 → Option FontImage) (s_backgroud_color : UInt16)
    (current : Option PanelUse) (todo : List DrawBitmap) : RefreshPoint → Prop
  | .create rows | .allocate rows =>
      todo.length = rows ∧ ∃ use, current = some use ∧ use.Able font ∧
        useTransfers font s_backgroud_color use = some todo
  | .start rows | .take rows _ | .wait rows _ _ => todo.length = rows
  | _ => True

theorem unsent_outside {task : RefreshTask} {point : RefreshPoint} (outside : Outside task point)
    (todo : List DrawBitmap) : unsent point todo = [] := by
  rcases outside_cases outside with shape | ⟨rows, shape⟩ | ⟨shape, _⟩
  · rw [shape]
    rfl
  · rw [shape]
    rfl
  · rw [shape]
    rfl

namespace SharedPanel

variable {lcd : LcdController}

/-- What a task has still to start. -/
def left (state : SharedPanel lcd) (task : RefreshTask) : List DrawBitmap :=
  unsent (state.refresh.points task) (state.todo task)

/-- Where one of the tasks has nothing to start, the rest is that of the other. -/
theorem left_both {state : SharedPanel lcd} {task : RefreshTask}
    (none : state.left task.other = []) :
    state.left .MainTask ++ state.left .LcdTouchTask = state.left task := by
  cases task with
  | MainTask =>
      rw [show state.left .LcdTouchTask = [] from none]
      exact List.append_nil _
  | LcdTouchTask =>
      rw [show state.left .MainTask = [] from none]
      rfl

end SharedPanel

/-! ## The order of the transfers -/

section Run

variable {lcd : LcdController} {font : UInt32 → Option FontImage} {s_backgroud_color : UInt16}
  {sent : Nat → Sent} {start : Panel lcd}

/-- The transfers started so far are the first ones of the granted calls made one
after the other.  The rest is still to be started by the task that is inside. -/
structure SharedInvariant (font : UInt32 → Option FontImage) (s_backgroud_color : UInt16)
    (sent : Nat → Sent) (start : Panel lcd) (state : SharedPanel lcd) : Prop where
  refresh : RefreshInvariant state.refresh
  matching : ∀ task, Matches font s_backgroud_color (state.current task) (state.todo task)
    (state.refresh.points task)
  able : ∀ use ∈ state.granted, use.Able font
  order : ∃ begun, begun.length = state.refresh.started ∧
    transferAll start sent begun = some state.panel ∧
    serial font s_backgroud_color state.granted =
      begun ++ (state.left .MainTask ++ state.left .LcdTouchTask)

namespace SharedInvariant

variable {before after : SharedPanel lcd} {refresh : RefreshState} {task : RefreshTask}

/-- A step that starts no transfer and lets no call through. -/
theorem same (invariant : SharedInvariant font s_backgroud_color sent start before)
    (kept : RefreshInvariant refresh) (started : refresh.started = before.refresh.started)
    (other : refresh.points task.other = before.refresh.points task.other)
    (here : Matches font s_backgroud_color (before.current task) (before.todo task)
      (refresh.points task))
    (left : unsent (refresh.points task) (before.todo task) = before.left task) :
    SharedInvariant font s_backgroud_color sent start { before with refresh := refresh } := by
  have lefts (task' : RefreshTask) :
      ({ before with refresh := refresh } : SharedPanel lcd).left task' = before.left task' := by
    rcases task.eq_or_other task' with equal | equal
    · rw [equal]
      exact left
    · rw [equal]
      exact congrArg (fun point => unsent point (before.todo task.other)) other
  refine ⟨kept, ?_, invariant.able, ?_⟩
  · intro task'
    rcases task.eq_or_other task' with equal | equal
    · rw [equal]
      exact here
    · have matching := invariant.matching task.other
      rw [← other] at matching
      rw [equal]
      exact matching
  · rcases invariant.order with ⟨begun, length, painted, whole⟩
    refine ⟨begun, length.trans started.symm, painted, ?_⟩
    rw [lefts, lefts]
    exact whole

/-- While a task is inside, the other one has nothing to start. -/
theorem alone (invariant : SharedInvariant font s_backgroud_color sent start before)
    (inside : ¬ Outside task (before.refresh.points task)) : before.left task.other = [] := by
  rcases invariant.refresh.owned.inside_of_not_outside inside with ⟨handle, _, outside⟩
  exact unsent_outside outside _

/-- A call gets past its allocations. -/
theorem grant (invariant : SharedInvariant font s_backgroud_color sent start before)
    (kept : RefreshInvariant refresh) (started : refresh.started = before.refresh.started)
    (other : refresh.points task.other = before.refresh.points task.other)
    (none : before.left task.other = []) {rows : Nat}
    (ready : Matches font s_backgroud_color (before.current task) (before.todo task)
      (.create rows))
    (nothing : before.left task = []) (behind : refresh.points task = .start rows) :
    SharedInvariant font s_backgroud_color sent start { before with
      refresh := refresh
      granted := before.granted ++ (before.current task).toList } := by
  rcases ready with ⟨length, use, current, able, transfers⟩
  refine ⟨kept, ?_, ?_, ?_⟩
  · intro task'
    rcases task.eq_or_other task' with equal | equal
    · rw [equal, behind]
      exact length
    · have matching := invariant.matching task.other
      rw [← other] at matching
      rw [equal]
      exact matching
  · intro use' member
    rw [current, Option.toList_some, List.mem_append, List.mem_singleton] at member
    rcases member with earlier | new
    · exact invariant.able use' earlier
    · rw [new]
      exact able
  · rcases invariant.order with ⟨begun, size, painted, whole⟩
    refine ⟨begun, size.trans started.symm, painted, ?_⟩
    have none' : ({ before with
        refresh := refresh
        granted := before.granted ++ (before.current task).toList } : SharedPanel lcd).left
          task.other = [] := by
      refine Eq.trans ?_ none
      exact congrArg (fun point => unsent point (before.todo task.other)) other
    have here : ({ before with
        refresh := refresh
        granted := before.granted ++ (before.current task).toList } : SharedPanel lcd).left task =
          before.todo task := by
      simp only [SharedPanel.left, behind, unsent]
    rw [SharedPanel.left_both none', here, current, Option.toList_some, serial_append,
      transfers, Option.getD_some, whole, SharedPanel.left_both none, nothing, List.append_nil]

/-- A task inside starts its next transfer. -/
theorem transfers (invariant : SharedInvariant font s_backgroud_color sent start before)
    (kept : RefreshInvariant refresh) (started : refresh.started = before.refresh.started + 1)
    (other : refresh.points task.other = before.refresh.points task.other)
    (none : before.left task.other = []) {rows : Nat} {call : DrawBitmap}
    {rest : List DrawBitmap} (point : before.refresh.points task = .start (rows + 1))
    (todo : before.todo task = call :: rest)
    (behind : refresh.points task = .take rows before.refresh.started) {panel : Panel lcd}
    (drawn : transfer before.panel (sent before.refresh.started) call = some panel) :
    SharedInvariant font s_backgroud_color sent start { before with
      refresh := refresh
      panel := panel
      todo := Function.update before.todo task rest } := by
  have otherTodo : Function.update before.todo task rest task.other = before.todo task.other :=
    Function.update_of_ne task.other_ne rest before.todo
  refine ⟨kept, ?_, invariant.able, ?_⟩
  · intro task'
    rcases task.eq_or_other task' with equal | equal
    · have length := invariant.matching task
      rw [point, todo] at length
      rw [equal, behind]
      show (Function.update before.todo task rest task).length = rows
      rw [Function.update_self]
      exact Nat.succ.inj length
    · have matching := invariant.matching task.other
      rw [← other, ← otherTodo] at matching
      rw [equal]
      exact matching
  · rcases invariant.order with ⟨begun, size, painted, whole⟩
    refine ⟨begun ++ [call], ?_, ?_, ?_⟩
    · rw [List.length_append, size, started]
      rfl
    · rw [transferAll_append, painted, Option.bind_some, size, transferAll, Nat.zero_add, drawn]
      rfl
    · have none' : ({ before with
          refresh := refresh
          panel := panel
          todo := Function.update before.todo task rest } : SharedPanel lcd).left task.other = [] := by
        simp only [SharedPanel.left, other, otherTodo]
        exact none
      have here : ({ before with
          refresh := refresh
          panel := panel
          todo := Function.update before.todo task rest } : SharedPanel lcd).left task = rest := by
        simp only [SharedPanel.left, behind, unsent, Function.update_self]
      have was : before.left task = call :: rest := by
        simp only [SharedPanel.left, point, unsent, todo]
      rw [SharedPanel.left_both none', here, whole, SharedPanel.left_both none, was,
        List.append_assoc]
      rfl

theorem proceed (invariant : SharedInvariant font s_backgroud_color sent start before)
    (exclusive : Exclusive before.refresh (.proceed task))
    (moved : sharedProceed sent task before = some after) :
    SharedInvariant font s_backgroud_color sent start after := by
  rcases Option.bind_eq_some_iff.mp moved with ⟨refresh, proceeded, moved⟩
  have kept : RefreshInvariant refresh :=
    invariant_proceed invariant.refresh exclusive proceeded
  rcases proceed_leadsTo proceeded with ⟨other, leads⟩
  have matching := invariant.matching task
  have ended {point : RefreshPoint} (behind : point = .idle ∨ point = .delete ∨ point = .free)
      (todo : List DrawBitmap) : unsent point todo = [] ∧
        Matches font s_backgroud_color (before.current task) todo point := by
    rcases behind with shape | shape | shape
    · rw [shape]
      exact ⟨rfl, True.intro⟩
    · rw [shape]
      exact ⟨rfl, True.intro⟩
    · rw [shape]
      exact ⟨rfl, True.intro⟩
  cases point : before.refresh.points task with
  | idle =>
      unfold refreshProceed at proceeded
      simp only [point, reduceCtorEq] at proceeded
  | create rows =>
      have nothing : before.left task = [] := by
        rw [SharedPanel.left, point]
        rfl
      rw [point] at leads matching
      cases task with
      | MainTask =>
          have behind : refresh.points .MainTask = .allocate rows := leads.1
          simp only [point, behind] at moved
          cases moved
          apply invariant.same kept leads.2 other
          · rw [behind]
            exact matching
          · rw [behind]
            exact nothing.symm
      | LcdTouchTask =>
          have behind : refresh.points .LcdTouchTask = .start rows := leads.1
          simp only [point, behind] at moved
          cases moved
          have none := unsent_outside (exclusive ⟨rows, point⟩)
            (before.todo (RefreshTask.other .LcdTouchTask))
          exact invariant.grant kept leads.2 other none matching nothing behind
  | allocate rows =>
      have nothing : before.left task = [] := by
        rw [SharedPanel.left, point]
        rfl
      have none : before.left task.other = [] := by
        apply invariant.alone
        rw [point]
        exact id
      rw [point] at leads matching
      simp only [point, leads.1] at moved
      cases moved
      exact invariant.grant kept leads.2 other none matching nothing leads.1
  | start rows =>
      cases rows with
      | zero =>
          rw [point] at leads matching
          have rests := ended leads.1 (before.todo task)
          have empty : before.todo task = [] := List.length_eq_zero_iff.mp matching
          have left : before.left task = [] := by
            rw [SharedPanel.left, point, empty]
            rfl
          have quiet : after = { before with refresh := refresh } := by
            rcases leads.1 with behind | behind | behind
            · simp only [point, behind] at moved
              cases moved
              rfl
            · simp only [point, behind] at moved
              cases moved
              rfl
            · simp only [point, behind] at moved
              cases moved
              rfl
          rw [quiet]
          exact invariant.same kept leads.2 other rests.2 (rests.1.trans left.symm)
      | succ rows =>
          have none : before.left task.other = [] := by
            apply invariant.alone
            rw [point]
            exact id
          rw [point] at leads
          simp only [point, leads.1] at moved
          cases todo : before.todo task with
          | nil =>
              simp only [todo] at moved
              cases moved
          | cons call rest =>
              simp only [todo, Option.map_eq_some_iff] at moved
              rcases moved with ⟨panel, drawn, same⟩
              rw [← same]
              exact invariant.transfers kept leads.2 other none point todo leads.1 drawn
  | take rows number =>
      rw [point] at leads matching
      rcases leads with ⟨⟨handle, behind⟩, started⟩
      simp only [point, behind] at moved
      cases moved
      apply invariant.same kept started other
      · rw [behind]
        exact matching
      · rw [SharedPanel.left, point, behind]
        rfl
  | wait rows number handle =>
      rw [point] at leads matching
      simp only [point, leads.1] at moved
      cases moved
      apply invariant.same kept leads.2 other
      · rw [leads.1]
        exact matching
      · rw [SharedPanel.left, point, leads.1]
        rfl
  | _ =>
      rw [point] at leads
      have rests := ended leads.1 (before.todo task)
      simp only [point] at moved
      cases moved
      apply invariant.same kept leads.2 other rests.2
      rw [SharedPanel.left, point, rests.1]
      rfl

theorem call (invariant : SharedInvariant font s_backgroud_color sent start before)
    {use : PanelUse} (able : use.Able font)
    (moved : sharedNext font s_backgroud_color sent before (.call use) = some after) :
    SharedInvariant font s_backgroud_color sent start after := by
  rcases Option.bind_eq_some_iff.mp moved with ⟨transfers, called, moved⟩
  rcases Option.map_eq_some_iff.mp moved with ⟨refresh, moved, same⟩
  have kept := invariant_call invariant.refresh moved
  have bands : use.task = .MainTask → transfers.length = LT_LCD_BIT_PER_PIXEL := by
    intro main
    cases use with
    | LcdTouch_ResetBackground =>
        cases called
        exact length_bandLoop _ _ _ _
    | LcdTouch_DrawText buffer draw => cases main
  rcases call_moves bands moved with ⟨idle, shape⟩
  subst same
  have point : refresh.points use.task = .create transfers.length := by
    rw [shape, RefreshState.move_points_self]
  have other : refresh.points use.task.other = before.refresh.points use.task.other := by
    rw [shape, RefreshState.move_points_other]
  have otherTodo : Function.update before.todo use.task transfers use.task.other =
      before.todo use.task.other :=
    Function.update_of_ne use.task.other_ne transfers before.todo
  have otherCurrent : Function.update before.current use.task (some use) use.task.other =
      before.current use.task.other :=
    Function.update_of_ne use.task.other_ne (some use) before.current
  have lefts (task : RefreshTask) :
      unsent (refresh.points task) (Function.update before.todo use.task transfers task) =
        before.left task := by
    rcases use.task.eq_or_other task with equal | equal
    · rw [equal, point, SharedPanel.left, idle]
      rfl
    · rw [equal, other, otherTodo]
      rfl
  refine ⟨kept, ?_, invariant.able, ?_⟩
  · intro task
    rcases use.task.eq_or_other task with equal | equal
    · simp only [equal, point, Function.update_self]
      exact ⟨rfl, use, rfl, able, called⟩
    · simp only [equal, other, otherTodo, otherCurrent]
      exact invariant.matching use.task.other
  · rcases invariant.order with ⟨begun, size, painted, whole⟩
    refine ⟨begun, ?_, painted, ?_⟩
    · rw [size, shape]
      rfl
    · simp only [SharedPanel.left, lefts]
      exact whole

theorem fail (invariant : SharedInvariant font s_backgroud_color sent start before)
    (exclusive : Exclusive before.refresh (.fail task))
    (moved : sharedNext font s_backgroud_color sent before (.fail task) = some after) :
    SharedInvariant font s_backgroud_color sent start after := by
  rcases Option.map_eq_some_iff.mp moved with ⟨refresh, failed, same⟩
  subst same
  have kept := invariant_fail invariant.refresh exclusive failed
  unfold refreshNext at failed
  cases point : before.refresh.points task with
  | create rows =>
      simp only [point] at failed
      cases failed
      apply invariant.same kept rfl (RefreshState.move_points_other _ task _)
      · rw [RefreshState.move_points_self]
        cases task <;> exact True.intro
      · rw [RefreshState.move_points_self, SharedPanel.left, point]
        cases task <;> rfl
  | allocate rows =>
      simp only [point] at failed
      cases failed
      apply invariant.same kept rfl (RefreshState.move_points_other _ task _)
      · rw [RefreshState.move_points_self]
        exact True.intro
      · rw [RefreshState.move_points_self, SharedPanel.left, point]
        rfl
  | _ => simp only [point, reduceCtorEq] at failed

theorem complete (invariant : SharedInvariant font s_backgroud_color sent start before)
    (moved : sharedNext font s_backgroud_color sent before .complete = some after) :
    SharedInvariant font s_backgroud_color sent start after := by
  rcases Option.map_eq_some_iff.mp moved with ⟨refresh, completed, same⟩
  subst same
  have kept := invariant_complete invariant.refresh completed
  have still : refresh.points = before.refresh.points ∧
      refresh.started = before.refresh.started := by
    unfold refreshNext at completed
    cases flight : before.refresh.inFlight with
    | nil => simp only [flight, reduceCtorEq] at completed
    | cons transfer later =>
        simp only [flight] at completed
        cases completed
        exact ⟨rfl, rfl⟩
  apply @same _ _ _ _ _ _ _ .MainTask invariant kept still.2
  · rw [still.1]
  · rw [still.1]
    exact invariant.matching .MainTask
  · rw [still.1]
    rfl

theorem initial (start : Panel lcd) :
    SharedInvariant font s_backgroud_color sent start (SharedPanel.initial start) where
  refresh := ⟨Or.inl ⟨rfl, fun _ => True.intro⟩, rfl⟩
  matching := fun _ => True.intro
  able := by
    intro use member
    cases member
  order := ⟨[], rfl, rfl, rfl⟩

theorem run {state : SharedPanel lcd}
    (reachable : Transition.Reachable (sharedNext font s_backgroud_color sent)
      (SharedAllowed font) (SharedPanel.initial start) state) :
    SharedInvariant font s_backgroud_color sent start state := by
  apply reachable.invariant (SharedInvariant font s_backgroud_color sent start) (initial start)
  intro before action after invariant allowed moved
  cases action with
  | call use => exact invariant.call allowed moved
  | proceed task => exact invariant.proceed allowed moved
  | fail task => exact invariant.fail allowed moved
  | complete => exact invariant.complete moved

end SharedInvariant

/-- In every run in which a task creates its semaphore only while the other one is
outside, the transfers started so far are the first ones of the granted calls
made one after the other.  Whenever both tasks are outside, the screen shows
what these calls leave in this order: the glyphs since the last reset. -/
theorem shared_shows (documented : lcd.Documented) {screen : ScreenPanel lcd}
    {stamps : List (Raster.Stamp UInt16)} (shows : ShowsStamps screen stamps)
    {state : SharedPanel lcd}
    (reachable : Transition.Reachable (sharedNext font screen.s_backgroud_color sent)
      (SharedAllowed font) (SharedPanel.initial screen.panel) state) :
    (∃ begun, begun.length = state.refresh.started ∧
        begun <+: serial font screen.s_backgroud_color state.granted ∧
        transferAll screen.panel sent begun = some state.panel) ∧
      ((∀ task, Outside task (state.refresh.points task)) →
        ShowsStamps { screen with panel := state.panel }
          (state.granted.foldl (useStamps font screen.s_backgroud_color) stamps)) := by
  have invariant := SharedInvariant.run reachable
  rcases invariant.order with ⟨begun, length, painted, whole⟩
  refine ⟨⟨begun, length, ⟨_, whole.symm⟩, painted⟩, ?_⟩
  intro outside
  have none (task : RefreshTask) : state.left task = [] := unsent_outside (outside task) _
  rw [none, none, List.append_nil, List.append_nil] at whole
  rw [← whole] at painted
  exact serial_shows documented shows invariant.able painted

end Run

/-- A font with a bar of one row everywhere. -/
def lineFont : UInt32 → Option FontImage :=
  fun _ => some ⟨⟨3, 1⟩, fun _ => 0x40⟩

def lineDraw : GlyphDraw := ⟨0, 108, 1, 76, 10, 60, 3, 1⟩

theorem lineDraw_able (buffer : Bool) :
    (PanelUse.LcdTouch_DrawText buffer lineDraw).Able lineFont := by
  intro image found
  cases found
  exact ⟨by decide, by decide, by decide, by decide⟩

/-- A glyph of one row on a panel that is blank. -/
theorem shared_shows_line :
    ∃ state : SharedPanel ILI9341, state.refresh.started = 1 ∧
      ShowsStamps { blankPanel 0 with panel := state.panel }
        (textStamps lineFont 0 (fun _ => ⟨true, true⟩) 0 [lineDraw]) := by
  have start := Relation.ReflTransGen.refl
    (r := Transition.Step (sharedNext lineFont 0 fun _ _ => true) (SharedAllowed lineFont))
    (a := SharedPanel.initial (blankPanel 0).panel)
  have called := start.tail ⟨.call (.LcdTouch_DrawText true lineDraw), lineDraw_able true, rfl⟩
  have created := called.tail ⟨.proceed .LcdTouchTask, fun _ => True.intro, rfl⟩
  have begun := created.tail ⟨.proceed .LcdTouchTask, fun _ => True.intro, rfl⟩
  have taken := begun.tail ⟨.proceed .LcdTouchTask, fun _ => True.intro, rfl⟩
  have completed := taken.tail ⟨.complete, True.intro, rfl⟩
  have waited := completed.tail ⟨.proceed .LcdTouchTask, fun _ => True.intro, rfl⟩
  have looped := waited.tail ⟨.proceed .LcdTouchTask, fun _ => True.intro, rfl⟩
  have deleted := looped.tail ⟨.proceed .LcdTouchTask, fun _ => True.intro, rfl⟩
  refine ⟨_, rfl, (shared_shows ILI9341_documented (blankPanel_shows 0) deleted).2 ?_⟩
  intro task
  cases task with
  | MainTask => exact True.intro
  | LcdTouchTask => exact rfl

end Display
end ToothVoca
