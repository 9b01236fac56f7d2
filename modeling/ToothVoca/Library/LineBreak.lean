import Mathlib.Data.List.Chain

namespace Library

/-!
# Greedy line breaking over boxes of different widths

Boxes are placed from left to right with a gap behind each of them.  When the
position behind a box reaches the limit, the next box starts a new line at the
margin.  The first line may start elsewhere.

`layout` is the placement with its two running counters.  `breakLines` only
says which boxes share a line, and `rows` places a given division into lines;
`layout_eq_rows` connects them.  What can be asked of a layout is then asked
of one line: its boxes stay between its start and its end, and they leave only
gaps, so an interval wider than a gap meets one of them.
-/

namespace LineBreak

structure Box where
  x : Nat
  line : Nat
  width : Nat
deriving DecidableEq, Repr

section Setting

variable (margin limit gap : Nat)

/-- Place boxes of the given widths, starting at a position of a line. -/
def layout : Nat → Nat → List Nat → List Box
  | _, _, [] => []
  | x, line, width :: rest =>
      ⟨x, line, width⟩ ::
        if limit ≤ x + (width + gap) then layout margin (line + 1) rest
        else layout (x + (width + gap)) line rest

/-- Divide widths into lines, the first of them starting at a position. -/
def breakLines : Nat → List Nat → List (List Nat)
  | _, [] => []
  | x, width :: rest =>
      if limit ≤ x + (width + gap) then [width] :: breakLines margin rest
      else
        match breakLines (x + (width + gap)) rest with
        | [] => [[width]]
        | line :: lines => (width :: line) :: lines

/-- The distance from the start of a line to the position behind it. -/
def advance : List Nat → Nat
  | [] => 0
  | width :: rest => width + gap + advance rest

/-- Place one line. -/
def row : Nat → Nat → List Nat → List Box
  | _, _, [] => []
  | x, line, width :: rest => ⟨x, line, width⟩ :: row (x + (width + gap)) line rest

/-- Place lines below each other. -/
def rows : Nat → Nat → List (List Nat) → List Box
  | _, _, [] => []
  | x, line, first :: more => row gap x line first ++ rows margin (line + 1) more

/-- Where a line starts. -/
def lineStart (x index : Nat) : Nat :=
  if index = 0 then x else margin

end Setting

variable {margin limit gap : Nat}

theorem advance_cons (width : Nat) (rest : List Nat) :
    advance gap (width :: rest) = width + gap + advance gap rest :=
  rfl

/-! ## Boxes one after the other -/

/-- The second box stands behind the first and a gap, or at the margin of the next
line. -/
def Follows (margin gap : Nat) (first second : Box) : Prop :=
  (second.line = first.line ∧ second.x = first.x + (first.width + gap)) ∨
    (second.line = first.line + 1 ∧ second.x = margin)

/-- The first box is on an earlier line, or a gap to the left. -/
def Before (gap : Nat) (first second : Box) : Prop :=
  first.line < second.line ∨
    (first.line = second.line ∧ first.x + first.width + gap ≤ second.x)

theorem layout_head {x line : Nat} {widths : List Nat} {box : Box}
    (head : box ∈ (layout margin limit gap x line widths).head?) :
    box.x = x ∧ box.line = line := by
  cases widths with
  | nil => cases head
  | cons width rest =>
      rw [layout, List.head?_cons] at head
      cases head
      exact ⟨rfl, rfl⟩

theorem isChain_layout (x line : Nat) (widths : List Nat) :
    (layout margin limit gap x line widths).IsChain (Follows margin gap) := by
  induction widths generalizing x line with
  | nil => exact List.IsChain.nil
  | cons width rest ih =>
      rw [layout, List.isChain_cons]
      by_cases full : limit ≤ x + (width + gap)
      · rw [if_pos full]
        refine ⟨?_, ih margin (line + 1)⟩
        intro next head
        have start := layout_head head
        exact Or.inr ⟨start.2, start.1⟩
      · rw [if_neg full]
        refine ⟨?_, ih (x + (width + gap)) line⟩
        intro next head
        have start := layout_head head
        exact Or.inl ⟨start.2, start.1⟩

theorem Follows.before {first second : Box} (follows : Follows margin gap first second) :
    Before gap first second := by
  unfold Before
  rcases follows with ⟨sameLine, behind⟩ | ⟨nextLine, _⟩
  · exact Or.inr ⟨sameLine.symm, by omega⟩
  · exact Or.inl (by omega)

theorem Before.trans {first second third : Box} (before : Before gap first second)
    (before' : Before gap second third) : Before gap first third := by
  unfold Before at *
  omega

/-- Not only neighbours: every box is in front of every later one. -/
theorem pairwise_layout (x line : Nat) (widths : List Nat) :
    (layout margin limit gap x line widths).Pairwise (Before gap) := by
  have : Trans (Before gap) (Before gap) (Before gap) := ⟨Before.trans⟩
  have chain : (layout margin limit gap x line widths).IsChain (Before gap) :=
    (isChain_layout x line widths).imp fun _ _ follows => follows.before
  exact chain.pairwise

/-- A box starts in front of the limit, and takes one of the widths. -/
theorem mem_layout {x line : Nat} {widths : List Nat} {box : Box} (start : x < limit)
    (margins : margin < limit) (member : box ∈ layout margin limit gap x line widths) :
    box.x < limit ∧ box.width ∈ widths ∧ box.line < line + widths.length := by
  induction widths generalizing x line with
  | nil => cases member
  | cons width rest ih =>
      rw [layout] at member
      rw [List.length_cons]
      rcases List.mem_cons.mp member with here | later
      · rw [here]
        exact ⟨start, List.mem_cons_self, by simp only; omega⟩
      · by_cases full : limit ≤ x + (width + gap)
        · rw [if_pos full] at later
          rcases ih margins later with ⟨inFront, width', lines⟩
          exact ⟨inFront, List.mem_cons_of_mem _ width', by omega⟩
        · rw [if_neg full] at later
          rcases ih (Nat.lt_of_not_le full) later with ⟨inFront, width', lines⟩
          exact ⟨inFront, List.mem_cons_of_mem _ width', by omega⟩

/-! ## One line -/

theorem mem_row {x line : Nat} {widths : List Nat} {box : Box}
    (member : box ∈ row gap x line widths) :
    box.line = line ∧ x ≤ box.x ∧ box.x + box.width + gap ≤ x + advance gap widths := by
  induction widths generalizing x with
  | nil => cases member
  | cons width rest ih =>
      rw [advance_cons]
      rcases List.mem_cons.mp member with first | later
      · rw [first]
        exact ⟨rfl, Nat.le_refl x, by simp only; omega⟩
      · rcases ih later with ⟨sameLine, right, inside⟩
        exact ⟨sameLine, by omega, by omega⟩

/-- An interval wider than a gap that starts inside of a line meets a box. -/
theorem row_meets (gap x line low high : Nat) {widths : List Nat} (wide : low + gap < high)
    (behindStart : x ≤ low + gap) (beforeEnd : low + gap < x + advance gap widths) :
    ∃ box ∈ row gap x line widths, box.x < high ∧ low < box.x + box.width := by
  induction widths generalizing x with
  | nil =>
      rw [advance] at beforeEnd
      omega
  | cons width rest ih =>
      rw [advance_cons] at beforeEnd
      by_cases first : low < x + width
      · exact ⟨⟨x, line, width⟩, List.mem_cons_self, by simp only; omega, first⟩
      · rcases ih (x + (width + gap)) (by omega) (by omega) with ⟨box, member, meets⟩
        exact ⟨box, List.mem_cons_of_mem _ member, meets⟩

/-! ## Lines below each other -/

theorem mem_rows_iff {x line : Nat} {lines : List (List Nat)} {box : Box} :
    box ∈ rows margin gap x line lines ↔
      ∃ index widths, lines[index]? = some widths ∧
        box ∈ row gap (lineStart margin x index) (line + index) widths := by
  induction lines generalizing x line with
  | nil => simp [rows]
  | cons first more ih =>
      rw [rows, List.mem_append, ih]
      constructor
      · rintro (inFirst | ⟨index, widths, found, member⟩)
        · exact ⟨0, first, rfl, inFirst⟩
        · refine ⟨index + 1, widths, found, ?_⟩
          have start : lineStart margin margin index = margin := ite_self margin
          rw [start, Nat.add_assoc, Nat.add_comm 1] at member
          exact member
      · rintro ⟨index, widths, found, member⟩
        cases index with
        | zero =>
            cases found
            exact Or.inl member
        | succ index =>
            refine Or.inr ⟨index, widths, found, ?_⟩
            have start : lineStart margin margin index = margin := ite_self margin
            rw [start, Nat.add_assoc, Nat.add_comm 1]
            exact member

theorem layout_eq_rows (x line : Nat) (widths : List Nat) :
    layout margin limit gap x line widths =
      rows margin gap x line (breakLines margin limit gap x widths) := by
  induction widths generalizing x line with
  | nil => rfl
  | cons width rest ih =>
      rw [layout, breakLines]
      by_cases full : limit ≤ x + (width + gap)
      · rw [if_pos full, if_pos full, ih, rows, row, row, List.singleton_append]
      · rw [if_neg full, if_neg full, ih]
        cases breakLines margin limit gap (x + (width + gap)) rest with
        | nil => rfl
        | cons first more => rfl

/-- Every line but the last is full. -/
theorem full_of_breakLines {x index : Nat} {widths line : List Nat}
    (found : (breakLines margin limit gap x widths)[index]? = some line)
    (more : index + 1 < (breakLines margin limit gap x widths).length) :
    limit ≤ lineStart margin x index + advance gap line := by
  induction widths generalizing x index line with
  | nil => cases found
  | cons width rest ih =>
      rw [breakLines] at found more
      by_cases full : limit ≤ x + (width + gap)
      · rw [if_pos full] at found more
        cases index with
        | zero =>
            cases found
            rw [advance_cons]
            exact Nat.le_trans full (Nat.add_le_add_left (Nat.le_add_right _ _) x)
        | succ index =>
            have later := ih (x := margin) found (Nat.lt_of_succ_lt_succ more)
            have start : lineStart margin margin index = margin := ite_self margin
            rwa [start] at later
      · rw [if_neg full] at found more
        have later (index : Nat) (line : List Nat) (found : (breakLines margin limit gap
            (x + (width + gap)) rest)[index]? = some line) := ih found
        cases shape : breakLines margin limit gap (x + (width + gap)) rest with
        | nil =>
            rw [shape] at found more
            exact absurd more (by simp)
        | cons first others =>
            rw [shape] at found more later
            cases index with
            | zero =>
                cases found
                have filled := later 0 first rfl more
                simp only [lineStart, if_pos] at filled ⊢
                rw [advance_cons]
                omega
            | succ index =>
                have filled := later (index + 1) line found more
                exact filled

/-- Widths that end in front of the limit share one line. -/
theorem breakLines_of_short {x : Nat} {widths : List Nat} (nonempty : widths ≠ [])
    (short : x + advance gap widths < limit) :
    breakLines margin limit gap x widths = [widths] := by
  induction widths generalizing x with
  | nil => exact absurd rfl nonempty
  | cons width rest ih =>
      rw [advance_cons] at short
      rw [breakLines, if_neg (by omega)]
      cases rest with
      | nil => rfl
      | cons second others =>
          rw [ih (x := x + (width + gap)) (List.cons_ne_nil _ _) (by omega)]

theorem breakLines_nonempty {x : Nat} {widths line : List Nat}
    (member : line ∈ breakLines margin limit gap x widths) : line ≠ [] := by
  induction widths generalizing x line with
  | nil => cases member
  | cons width rest ih =>
      rw [breakLines] at member
      by_cases full : limit ≤ x + (width + gap)
      · rw [if_pos full] at member
        rcases List.mem_cons.mp member with first | later
        · rw [first]
          exact List.cons_ne_nil _ _
        · exact ih later
      · rw [if_neg full] at member
        cases shape : breakLines margin limit gap (x + (width + gap)) rest with
        | nil =>
            rw [shape] at member
            rw [List.mem_singleton.mp member]
            exact List.cons_ne_nil _ _
        | cons first others =>
            rw [shape] at member
            rcases List.mem_cons.mp member with here | later
            · rw [here]
              exact List.cons_ne_nil _ _
            · exact ih (x := x + (width + gap)) (by rw [shape]; exact List.mem_cons_of_mem _ later)

/-- The lines are the widths, divided. -/
theorem flatten_breakLines (x : Nat) (widths : List Nat) :
    (breakLines margin limit gap x widths).flatten = widths := by
  induction widths generalizing x with
  | nil => rfl
  | cons width rest ih =>
      rw [breakLines]
      by_cases full : limit ≤ x + (width + gap)
      · rw [if_pos full, List.flatten_cons, ih, List.singleton_append]
      · have later := ih (x + (width + gap))
        rw [if_neg full]
        cases shape : breakLines margin limit gap (x + (width + gap)) rest with
        | nil =>
            rw [shape] at later
            rw [← later]
            rfl
        | cons first others =>
            rw [shape] at later
            rw [← later]
            rfl

end LineBreak

end Library
