import Mathlib.Logic.Function.Basic
import ToothVoca.Library.Transition

namespace Library

/-!
# One buffer and one flag without a lock

A writer fills a buffer element by element, terminator included, and then sets
a flag.  A reader tests the flag, reads the buffer in steps of its own, and
clears the flag behind that.  Both move at any time.

How the reader reads is a parameter: a `Reader` comes with a relation that
says how far it has got in a text, and with the proof that its steps keep the
relation as long as the buffer holds that text.

`Undisturbed` leaves out the steps that can go wrong: a write during a reading, a
start of a reading between the first write of a text and the set behind it, and a set
between the start of a reading and its clear.  Without them a reading returns one
published text, and a text that no reading has started on keeps the flag set.
-/

namespace Mailbox

/-- The buffer begins with a text and its terminator. -/
def Holds {Element : Type} (terminator : Element) (buffer : Nat → Element)
    (text : List Element) : Prop :=
  ∀ index ≤ text.length, (text ++ [terminator])[index]? = some (buffer index)

/-- A way of reading a terminated text in steps. -/
structure Reader (Element : Type) (terminator : Element) where
  Progress : Type
  start : Progress
  step : (Nat → Element) → Progress → Progress
  result : Progress → Option (List Element)
  Follows : List Element → Progress → Prop
  follows_start : ∀ text, Follows text start
  follows_step : ∀ {buffer text progress}, terminator ∉ text → Holds terminator buffer text →
    Follows text progress → result progress = none → Follows text (step buffer progress)
  follows_result : ∀ {text progress read}, Follows text progress →
    result progress = some read → read = text

/-- Where the reader is between two tests of the flag. -/
inductive Phase (Progress : Type) where
  | waiting
  | tested
  | reading (progress : Progress)
  | done

inductive Action (Element : Type) where
  | publish (text : List Element)
  | write
  | set
  | test
  | start
  | read
  | finish
  | clear
deriving DecidableEq

variable {Element : Type} {terminator : Element}

/-- The buffer, the flag, the publication in progress with the number of
elements written, and the reader.  The texts published so far, the texts read
so far, and whether the last publication is complete and no reading has
started since, are kept for the statements only. -/
structure State (reader : Reader Element terminator) where
  buffer : Nat → Element
  flag : Bool
  writing : Option (List Element × Nat)
  phase : Phase reader.Progress
  published : List (List Element)
  results : List (List Element)
  fresh : Bool

variable {reader : Reader Element terminator}

def State.initial (reader : Reader Element terminator) : State reader where
  buffer := fun _ => terminator
  flag := false
  writing := none
  phase := .waiting
  published := []
  results := []
  fresh := false

def next [DecidableEq Element] (before : State reader) : Action Element → Option (State reader)
  | .publish text =>
      match before.writing with
      | none => if terminator ∈ text then none else some { before with writing := some (text, 0) }
      | some _ => none
  | .write =>
      match before.writing with
      | none => none
      | some (text, count) =>
          match (text ++ [terminator])[count]? with
          | none => none
          | some element =>
              some { before with
                buffer := Function.update before.buffer count element
                writing := some (text, count + 1) }
  | .set =>
      match before.writing with
      | none => none
      | some (text, count) =>
          if count = text.length + 1 then
            some { before with
              flag := true
              writing := none
              published := before.published ++ [text]
              fresh := true }
          else none
  | .test =>
      match before.phase with
      | .waiting => some { before with phase := if before.flag then .tested else .waiting }
      | _ => none
  | .start =>
      match before.phase with
      | .tested => some { before with phase := .reading reader.start, fresh := false }
      | _ => none
  | .read =>
      match before.phase with
      | .reading progress =>
          match reader.result progress with
          | none => some { before with phase := .reading (reader.step before.buffer progress) }
          | some _ => none
      | _ => none
  | .finish =>
      match before.phase with
      | .reading progress =>
          match reader.result progress with
          | none => none
          | some text => some { before with phase := .done, results := before.results ++ [text] }
      | _ => none
  | .clear =>
      match before.phase with
      | .done => some { before with flag := false, phase := .waiting }
      | _ => none

def Phase.isReading {Progress : Type} : Phase Progress → Bool
  | .reading _ => true
  | _ => false

def Phase.isDone {Progress : Type} : Phase Progress → Bool
  | .done => true
  | _ => false

/-- Nothing of the publication in progress has been written. -/
def Untouched (state : State reader) : Prop :=
  match state.writing with
  | none => True
  | some (_, count) => count = 0

instance (state : State reader) : Decidable (Untouched state) := by
  unfold Untouched
  split <;> infer_instance

/-- The steps that do not disturb the other side. -/
def Undisturbed (before : State reader) : Action Element → Prop
  | .write => before.phase.isReading = false
  | .set => before.phase.isReading = false ∧ before.phase.isDone = false
  | .start => Untouched before
  | _ => True

instance (before : State reader) (action : Action Element) :
    Decidable (Undisturbed before action) := by
  cases action <;> unfold Undisturbed <;> infer_instance

/-- What holds in the undisturbed runs. -/
structure Invariant (state : State reader) : Prop where
  writing : ∀ text count, state.writing = some (text, count) →
    terminator ∉ text ∧
      ∀ index < count, (text ++ [terminator])[index]? = some (state.buffer index)
  settled : Untouched state → state.published = [] ∨
    ∃ text ∈ state.published, terminator ∉ text ∧ Holds terminator state.buffer text
  announced : state.flag = true ∨ state.phase = .tested → state.published ≠ []
  reading : ∀ progress, state.phase = .reading progress → state.fresh = false ∧
    ∃ text ∈ state.published, terminator ∉ text ∧ Holds terminator state.buffer text ∧
      reader.Follows text progress
  done : state.phase = .done → state.fresh = false
  kept : state.fresh = true → state.flag = true
  results : ∀ text ∈ state.results, text ∈ state.published

theorem invariant_initial (reader : Reader Element terminator) :
    Invariant (State.initial reader) where
  writing := fun _ _ none => by cases none
  settled := fun _ => Or.inl rfl
  announced := fun either => by rcases either with flag | phase <;> contradiction
  reading := fun _ phase => by cases phase
  done := fun phase => by cases phase
  kept := fun fresh => by cases fresh
  results := fun _ member => by cases member

section Step

variable [DecidableEq Element] {before after : State reader}

theorem invariant_publish {text : List Element} (invariant : Invariant before)
    (moved : next before (.publish text) = some after) : Invariant after := by
  unfold next at moved
  cases inProgress : before.writing with
  | some publication => simp only [inProgress, reduceCtorEq] at moved
  | none =>
      simp only [inProgress] at moved
      by_cases terminated : terminator ∈ text
      · rw [if_pos terminated] at moved
        cases moved
      · rw [if_neg terminated] at moved
        cases moved
        have untouched : Untouched before := by
          unfold Untouched
          rw [inProgress]
          exact True.intro
        exact { invariant with
          writing := by
            rintro _ _ ⟨⟩
            exact ⟨terminated, fun index below => absurd below (Nat.not_lt_zero index)⟩
          settled := fun _ => invariant.settled untouched }

theorem invariant_write (invariant : Invariant before) (undisturbed : Undisturbed before .write)
    (moved : next before .write = some after) : Invariant after := by
  unfold next at moved
  cases inProgress : before.writing with
  | none => simp only [inProgress, reduceCtorEq] at moved
  | some publication =>
      rcases publication with ⟨text, count⟩
      cases found : (text ++ [terminator])[count]? with
      | none => simp only [inProgress, found, reduceCtorEq] at moved
      | some element =>
          simp only [inProgress, found] at moved
          cases moved
          rcases invariant.writing text count inProgress with ⟨terminated, written⟩
          exact { invariant with
            writing := by
              rintro _ _ ⟨⟩
              refine ⟨terminated, fun index below => ?_⟩
              show _ = some (Function.update before.buffer count element index)
              by_cases here : index = count
              · rw [here, Function.update_self, found]
              · rw [Function.update_of_ne here]
                exact written index (by omega)
            settled := fun untouched => absurd untouched (Nat.succ_ne_zero count)
            reading := fun progress phase => by
              rw [Undisturbed, phase] at undisturbed
              cases undisturbed }

theorem invariant_set (invariant : Invariant before) (undisturbed : Undisturbed before .set)
    (moved : next before .set = some after) : Invariant after := by
  unfold next at moved
  cases inProgress : before.writing with
  | none => simp only [inProgress, reduceCtorEq] at moved
  | some publication =>
      rcases publication with ⟨text, count⟩
      simp only [inProgress] at moved
      by_cases complete : count = text.length + 1
      · rw [if_pos complete] at moved
        cases moved
        rcases invariant.writing text count inProgress with ⟨terminated, written⟩
        have newest : text ∈ before.published ++ [text] :=
          List.mem_append_right _ List.mem_cons_self
        exact {
          writing := fun _ _ none => by cases none
          settled := fun _ => Or.inr ⟨text, newest, terminated, fun index inside =>
            written index (by omega)⟩
          announced := fun _ => List.ne_nil_of_mem newest
          reading := fun progress phase => by
            rw [Undisturbed, phase] at undisturbed
            cases undisturbed.1
          done := fun phase => by
            rw [Undisturbed, phase] at undisturbed
            cases undisturbed.2
          kept := fun _ => rfl
          results := fun text member => List.mem_append_left _ (invariant.results text member) }
      · rw [if_neg complete] at moved
        cases moved

theorem invariant_test (invariant : Invariant before) (moved : next before .test = some after) :
    Invariant after := by
  unfold next at moved
  cases phase : before.phase with
  | waiting =>
      simp only [phase] at moved
      cases moved
      by_cases flag : before.flag = true
      · rw [if_pos flag]
        exact { invariant with
          announced := fun _ => invariant.announced (Or.inl flag)
          reading := fun _ reading => by cases reading
          done := fun done => by cases done }
      · rw [if_neg flag]
        exact { invariant with
          announced := fun either => by
            rcases either with raised | tested
            · exact invariant.announced (Or.inl raised)
            · cases tested
          reading := fun _ reading => by cases reading
          done := fun done => by cases done }
  | tested => simp only [phase, reduceCtorEq] at moved
  | reading progress => simp only [phase, reduceCtorEq] at moved
  | done => simp only [phase, reduceCtorEq] at moved

theorem invariant_start (invariant : Invariant before) (undisturbed : Undisturbed before .start)
    (moved : next before .start = some after) : Invariant after := by
  unfold next at moved
  cases phase : before.phase with
  | tested =>
      simp only [phase] at moved
      cases moved
      have published := invariant.announced (Or.inr phase)
      rcases invariant.settled undisturbed with none | ⟨text, member, terminated, holds⟩
      · exact absurd none published
      · exact { invariant with
          announced := fun either => published
          reading := by
            rintro _ ⟨⟩
            exact ⟨rfl, text, member, terminated, holds, reader.follows_start text⟩
          done := fun done => by cases done
          kept := fun fresh => by cases fresh }
  | waiting => simp only [phase, reduceCtorEq] at moved
  | reading progress => simp only [phase, reduceCtorEq] at moved
  | done => simp only [phase, reduceCtorEq] at moved

theorem invariant_read (invariant : Invariant before) (moved : next before .read = some after) :
    Invariant after := by
  unfold next at moved
  cases phase : before.phase with
  | reading progress =>
      cases result : reader.result progress with
      | some read => simp only [phase, result, reduceCtorEq] at moved
      | none =>
          simp only [phase, result] at moved
          cases moved
          rcases invariant.reading progress phase with
            ⟨stale, text, member, terminated, holds, follows⟩
          exact { invariant with
            announced := fun either => List.ne_nil_of_mem member
            reading := by
              rintro _ ⟨⟩
              exact ⟨stale, text, member, terminated, holds,
                reader.follows_step terminated holds follows result⟩
            done := fun done => by cases done }
  | waiting => simp only [phase, reduceCtorEq] at moved
  | tested => simp only [phase, reduceCtorEq] at moved
  | done => simp only [phase, reduceCtorEq] at moved

theorem invariant_finish (invariant : Invariant before) (moved : next before .finish = some after) :
    Invariant after := by
  unfold next at moved
  cases phase : before.phase with
  | reading progress =>
      cases result : reader.result progress with
      | none => simp only [phase, result, reduceCtorEq] at moved
      | some read =>
          simp only [phase, result] at moved
          cases moved
          rcases invariant.reading progress phase with ⟨stale, text, member, _, _, follows⟩
          have whole : read = text := reader.follows_result follows result
          exact { invariant with
            announced := fun either => List.ne_nil_of_mem member
            reading := fun _ reading => by cases reading
            done := fun _ => stale
            results := by
              intro text' inResults
              rcases List.mem_append.mp inResults with earlier | last
              · exact invariant.results text' earlier
              · rw [List.mem_singleton.mp last, whole]
                exact member }
  | waiting => simp only [phase, reduceCtorEq] at moved
  | tested => simp only [phase, reduceCtorEq] at moved
  | done => simp only [phase, reduceCtorEq] at moved

theorem invariant_clear (invariant : Invariant before) (moved : next before .clear = some after) :
    Invariant after := by
  unfold next at moved
  cases phase : before.phase with
  | done =>
      simp only [phase] at moved
      cases moved
      have stale := invariant.done phase
      exact { invariant with
        announced := fun either => by
          rcases either with raised | tested
          · cases raised
          · cases tested
        reading := fun _ reading => by cases reading
        done := fun done => by cases done
        kept := fun fresh => absurd (stale.symm.trans fresh) (by decide) }
  | waiting => simp only [phase, reduceCtorEq] at moved
  | tested => simp only [phase, reduceCtorEq] at moved
  | reading progress => simp only [phase, reduceCtorEq] at moved

theorem invariant_step {action : Action Element} (invariant : Invariant before)
    (undisturbed : Undisturbed before action) (moved : next before action = some after) :
    Invariant after := by
  cases action with
  | publish text => exact invariant_publish invariant moved
  | write => exact invariant_write invariant undisturbed moved
  | set => exact invariant_set invariant undisturbed moved
  | test => exact invariant_test invariant moved
  | start => exact invariant_start invariant undisturbed moved
  | read => exact invariant_read invariant moved
  | finish => exact invariant_finish invariant moved
  | clear => exact invariant_clear invariant moved

end Step

/-- Undisturbed readings return published texts, and no text is lost. -/
theorem undisturbed_invariant [DecidableEq Element] {state : State reader}
    (reachable : Transition.Reachable next Undisturbed (State.initial reader) state) :
    Invariant state :=
  Transition.Reachable.invariant Invariant reachable (invariant_initial reader)
    fun _ _ _ invariant undisturbed moved => invariant_step invariant undisturbed moved

end Mailbox

end Library
