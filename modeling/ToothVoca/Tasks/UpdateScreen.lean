import ToothVoca.Display.ParserChar
import ToothVoca.Library.Mailbox
import ToothVoca.Tasks.TimerTask

namespace ToothVoca
namespace Tasks

open Library Display

/-!
# Publishing texts to the screen task (`task.c`)

The main task writes word and sentence into `ScreenData` and the timer task
writes the time; each sets the flag of a field behind its last byte.
`Task_UpdateScreen` looks at the three flags in turn.  Where one is set it
draws the field, which takes its time, and clears the flag afterwards.

Each field is a mailbox of the library.  Its reader is `LcdTouch_DrawString`:
`strlen` first, byte by byte, then one glyph after the other, every one from
the bytes that stand in the buffer at that moment.  What the library proves
about undisturbed mailboxes holds of the three fields together, as a step of
the system is a step of one mailbox.
-/

/-! ## Drawing as reading -/

/-- The loops of `LcdTouch_DrawString`: `strlen`, and the glyphs with the bytes
drawn so far. -/
inductive DrawProgress where
  | scanning (index : Nat)
  | drawing (str_index str_len : Nat) (drawn : List UInt8)
deriving DecidableEq, Repr

/-- The bytes that the decoder can look at. -/
def window (buffer : Nat → UInt8) (str_index : Nat) : List UInt8 :=
  [buffer str_index, buffer (str_index + 1), buffer (str_index + 2)]

def drawStep (buffer : Nat → UInt8) : DrawProgress → DrawProgress
  | .scanning index => if buffer index = 0 then .drawing 0 index [] else .scanning (index + 1)
  | .drawing str_index str_len drawn =>
      match ParserChar_GetUnicode (window buffer str_index) with
      | none => .drawing str_index str_len drawn
      | some (_, out_len) =>
          .drawing (str_index + out_len.toNat) str_len
            (drawn ++ (window buffer str_index).take out_len.toNat)

def drawResult : DrawProgress → Option (List UInt8)
  | .scanning _ => none
  | .drawing str_index str_len drawn => if str_index < str_len then none else some drawn

/-- How far the drawing of a text has got. -/
def DrawFollows (text : List UInt8) : DrawProgress → Prop
  | .scanning index => index ≤ text.length
  | .drawing str_index str_len drawn =>
      str_len = text.length ∧ str_index ≤ text.length ∧ drawn = text.take str_index

/-- The byte of a terminated text in the buffer. -/
theorem buffer_eq {buffer : Nat → UInt8} {text : List UInt8} {index : Nat} {byte : UInt8}
    (rest : List UInt8) (holds : Mailbox.Holds 0 buffer text)
    (left : text.drop index ++ [0] = byte :: rest)
    (inside : index ≤ text.length) : buffer index = byte := by
  have found := holds index inside
  have shape : (text ++ [0]).drop index = byte :: rest := by
    rw [List.drop_append_of_le_length inside, left]
  have head := List.head?_drop (l := text ++ [0]) (i := index)
  rw [shape, found] at head
  exact (Option.some.inj head).symm

/-- Over a text in the buffer the decoder takes the next unit of the text. -/
theorem window_decode {buffer : Nat → UInt8} {text rest : List UInt8} {index : Nat} {first : UInt8}
    (holds : Mailbox.Holds 0 buffer text) (left : text.drop index = first :: rest) :
    ParserChar_GetUnicode (window buffer index) =
        some ((nextUnit first rest).code, (nextUnit first rest).outLen) ∧
      (window buffer index).take (nextUnit first rest).outLen.toNat =
        (first :: rest).take (nextUnit first rest).outLen.toNat := by
  have inside : index < text.length := by
    by_contra outside
    rw [List.drop_of_length_le (Nat.le_of_not_lt outside)] at left
    cases left
  have next (count : Nat) : text.drop (index + count) = (first :: rest).drop count := by
    rw [← left, List.drop_drop]
  have count : (first :: rest).length = text.length - index := by
    rw [← left, List.length_drop]
  have byte0 : buffer index = first :=
    buffer_eq (rest ++ [0]) holds (by rw [left]; rfl) (Nat.le_of_lt inside)
  match rest with
  | [] =>
      rw [List.length_singleton] at count
      have byte1 : buffer (index + 1) = 0 :=
        buffer_eq [] holds (by rw [next]; rfl) (by omega)
      rw [window, byte0, byte1]
      exact ⟨ParserChar_GetUnicode_terminated first [] [_], rfl⟩
  | [second] =>
      rw [List.length_cons, List.length_singleton] at count
      have byte1 : buffer (index + 1) = second :=
        buffer_eq [0] holds (by rw [next]; rfl) (by omega)
      have byte2 : buffer (index + 2) = 0 :=
        buffer_eq [] holds (by rw [next]; rfl) (by omega)
      rw [window, byte0, byte1, byte2]
      exact ⟨ParserChar_GetUnicode_terminated first [second] [], rfl⟩
  | second :: third :: more =>
      rw [List.length_cons, List.length_cons, List.length_cons] at count
      have byte1 : buffer (index + 1) = second :=
        buffer_eq (third :: more ++ [0]) holds (by rw [next]; rfl) (by omega)
      have byte2 : buffer (index + 2) = third :=
        buffer_eq (more ++ [0]) holds (by rw [next]; rfl) (by omega)
      rw [window, byte0, byte1, byte2, ParserChar_GetUnicode_three]
      by_cases accepted : Accepted first second third
      · simp only [nextUnit, if_pos accepted]
        exact ⟨rfl, rfl⟩
      · simp only [nextUnit, if_neg accepted]
        exact ⟨rfl, rfl⟩

theorem drawFollows_step {buffer : Nat → UInt8} {text : List UInt8} {progress : DrawProgress}
    (free : 0 ∉ text) (holds : Mailbox.Holds 0 buffer text) (follows : DrawFollows text progress)
    (more : drawResult progress = none) : DrawFollows text (drawStep buffer progress) := by
  cases progress with
  | scanning index =>
      have found := holds index follows
      rcases Nat.lt_or_eq_of_le follows with inside | ends
      · rw [List.getElem?_append_left inside, List.getElem?_eq_getElem inside] at found
        have nonzero : buffer index ≠ 0 := fun zero => free (by
          rw [← zero, ← Option.some.inj found]
          exact List.getElem_mem inside)
        rw [drawStep, if_neg nonzero]
        exact inside
      · have zero : buffer index = 0 :=
          buffer_eq [] holds (by rw [ends, List.drop_length]; rfl) follows
        rw [drawStep, if_pos zero]
        exact ⟨ends, Nat.zero_le _, rfl⟩
  | drawing str_index str_len drawn =>
      rcases follows with ⟨length, inside, shape⟩
      have before : str_index < text.length := by
        by_contra ends
        rw [drawResult, if_neg (by omega)] at more
        cases more
      rcases List.exists_cons_of_length_pos (l := text.drop str_index)
        (by rw [List.length_drop]; omega) with ⟨first, rest, left⟩
      rcases window_decode holds left with ⟨decoded, taken⟩
      have bound := nextUnit_le first rest
      rw [← left, List.length_drop] at bound
      simp only [drawStep, decoded]
      refine ⟨length, by omega, ?_⟩
      rw [taken, shape, ← left, ← List.take_add]

/-- `LcdTouch_DrawString` as a reader of a mailbox. -/
def drawReader : Mailbox.Reader UInt8 0 where
  Progress := DrawProgress
  start := .scanning 0
  step := drawStep
  result := drawResult
  Follows := DrawFollows
  follows_start := fun _ => Nat.zero_le _
  follows_step := drawFollows_step
  follows_result := by
    intro text progress read follows result
    cases progress with
    | scanning index => cases result
    | drawing str_index str_len drawn =>
        rcases follows with ⟨length, inside, shape⟩
        by_cases more : str_index < str_len
        · rw [drawResult, if_pos more] at result
          cases result
        · rw [drawResult, if_neg more] at result
          cases result
          rw [shape, List.take_of_length_le (by omega)]

/-! ## The three fields -/

inductive Field where
  | word
  | sentence
  | time
deriving DecidableEq, Repr

/-- The size of the array of a field. -/
def Field.size : Field → Nat
  | .word => 100
  | .sentence => 256
  | .time => 20

/-- The order in which `Task_UpdateScreen` looks at the fields. -/
def Field.next : Field → Field
  | .word => .sentence
  | .sentence => .time
  | .time => .word

/-- The fields as mailboxes, the field that the main task publishes next, and
the field that the screen task is at. -/
structure ScreenState where
  mailbox : Field → Mailbox.State drawReader
  mainNext : Field
  polled : Field

def ScreenState.initial : ScreenState where
  mailbox := fun _ => Mailbox.State.initial drawReader
  mainNext := .word
  polled := .word

/-- A step of the publisher of a field, or of the screen task on a field. -/
structure ScreenAction where
  field : Field
  step : Mailbox.Action UInt8
deriving DecidableEq

/-- The main task publishes a sentence behind every word, the timer task the
time at any moment, and all texts fit their arrays.  The screen task stays
with a field until it has seen or cleared its flag. -/
def ScreenState.Enabled (state : ScreenState) (action : ScreenAction) : Prop :=
  match action.step with
  | .publish text =>
      text.length < action.field.size ∧ (action.field = .time ∨ action.field = state.mainNext)
  | .write | .set => True
  | .test | .start | .read | .finish | .clear => action.field = state.polled

instance (state : ScreenState) (action : ScreenAction) : Decidable (state.Enabled action) := by
  unfold ScreenState.Enabled
  cases action.step <;> infer_instance

def screenNext (before : ScreenState) (action : ScreenAction) : Option ScreenState :=
  if before.Enabled action then
    match Mailbox.next (before.mailbox action.field) action.step with
    | none => none
    | some after =>
        some {
          mailbox := Function.update before.mailbox action.field after
          mainNext :=
            match action.step, action.field with
            | .set, .word => .sentence
            | .set, .sentence => .word
            | _, _ => before.mainNext
          polled :=
            match action.step, (before.mailbox action.field).flag with
            | .test, false => before.polled.next
            | .clear, _ => before.polled.next
            | _, _ => before.polled }
  else none

/-- No step disturbs the other side of its field. -/
def UndisturbedStep (before : ScreenState) (action : ScreenAction) : Prop :=
  Mailbox.Undisturbed (before.mailbox action.field) action.step

instance (before : ScreenState) (action : ScreenAction) :
    Decidable (UndisturbedStep before action) :=
  inferInstanceAs (Decidable (Mailbox.Undisturbed _ _))

/-- A step of the system is a step of one mailbox and leaves the others. -/
theorem screenNext_mailbox {before after : ScreenState} {action : ScreenAction}
    (moved : screenNext before action = some after) :
    ∃ mailbox, Mailbox.next (before.mailbox action.field) action.step = some mailbox ∧
      after.mailbox = Function.update before.mailbox action.field mailbox := by
  unfold screenNext at moved
  by_cases enabled : before.Enabled action
  · rw [if_pos enabled] at moved
    cases step : Mailbox.next (before.mailbox action.field) action.step with
    | none => simp only [step, reduceCtorEq] at moved
    | some mailbox =>
        simp only [step] at moved
        cases moved
        exact ⟨mailbox, rfl, rfl⟩
  · rw [if_neg enabled] at moved
    cases moved

theorem mailbox_reachable {state : ScreenState} (field : Field)
    (reachable : Transition.Reachable screenNext UndisturbedStep ScreenState.initial state) :
    Transition.Reachable Mailbox.next Mailbox.Undisturbed (Mailbox.State.initial drawReader)
      (state.mailbox field) := by
  refine Transition.Reachable.simulate (fun state => state.mailbox field) reachable ?_
  intro before action after undisturbed moved
  rcases screenNext_mailbox moved with ⟨mailbox, step, shape⟩
  rw [shape]
  by_cases here : field = action.field
  · rw [here, Function.update_self]
    exact Or.inr ⟨action.step, undisturbed, step⟩
  · rw [Function.update_of_ne here]
    exact Or.inl rfl

/-- Every text drawn is one published text, and the flag is set as long as the
last publication is complete and no draw has started since. -/
def TextsKept (state : ScreenState) : Prop :=
  ∀ field, (∀ text ∈ (state.mailbox field).results, text ∈ (state.mailbox field).published) ∧
    ((state.mailbox field).fresh = true → (state.mailbox field).flag = true)

/-- In every run without disturbing steps, no text is mixed and none is lost. -/
theorem screen_texts_kept (state : ScreenState)
    (reachable : Transition.Reachable screenNext UndisturbedStep ScreenState.initial state) :
    TextsKept state := by
  intro field
  have invariant := Mailbox.undisturbed_invariant (mailbox_reachable field reachable)
  exact ⟨invariant.results, invariant.kept⟩

/-- A word of one letter, published and then drawn. -/
theorem screen_texts_kept_word :
    ∃ state, Transition.Reachable screenNext UndisturbedStep ScreenState.initial state ∧
      (state.mailbox .word).results = [[97]] ∧ TextsKept state := by
  have executed : (Transition.runWithin screenNext UndisturbedStep ScreenState.initial
      [⟨.word, .publish [97]⟩, ⟨.word, .write⟩, ⟨.word, .write⟩, ⟨.word, .set⟩, ⟨.word, .test⟩,
        ⟨.word, .start⟩, ⟨.word, .read⟩, ⟨.word, .read⟩, ⟨.word, .read⟩, ⟨.word, .finish⟩]).map
      (fun state => (state.mailbox .word).results) = some [[97]] := by
    decide +kernel
  rcases Option.map_eq_some_iff.mp executed with ⟨state, run, results⟩
  have reachable := Transition.reachable_of_runWithin _ Relation.ReflTransGen.refl run
  exact ⟨state, reachable, results, screen_texts_kept state reachable⟩

/-- The first time is drawn; before its flag is cleared, the second one is
published. -/
def timeLost : List ScreenAction :=
  [⟨.time, .publish (timeText 2 0)⟩] ++ List.replicate 8 ⟨.time, .write⟩ ++
    [⟨.time, .set⟩, ⟨.word, .test⟩, ⟨.sentence, .test⟩, ⟨.time, .test⟩, ⟨.time, .start⟩] ++
    List.replicate 15 ⟨.time, .read⟩ ++ [⟨.time, .finish⟩, ⟨.time, .publish (timeText 1 59)⟩] ++
    List.replicate 8 ⟨.time, .write⟩ ++ [⟨.time, .set⟩, ⟨.time, .clear⟩]

/-- The clear behind the draw takes the flag of the second time, which is not
drawn any more. -/
theorem screen_texts_not_kept :
    ¬ ∀ state, Transition.Reachable screenNext Transition.anyStep ScreenState.initial state →
      TextsKept state := by
  intro kept
  have executed : (Transition.run screenNext ScreenState.initial timeLost).map
      (fun state => ((state.mailbox .time).fresh, (state.mailbox .time).flag)) =
        some (true, false) := by
    decide +kernel
  rcases Option.map_eq_some_iff.mp executed with ⟨state, run, flags⟩
  have reachable := Transition.reachable_of_run _ Relation.ReflTransGen.refl run
  have flag := (kept state reachable .time).2 (congrArg Prod.fst flags)
  exact absurd (flag.symm.trans (congrArg Prod.snd flags)) (by decide)

end Tasks
end ToothVoca
