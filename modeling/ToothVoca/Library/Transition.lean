import Mathlib.Logic.Relation

namespace Library

/-!
# Runs of a system that takes one enabled action at a time

A system is given by a partial step function: `next before action` is the
state after the action, or `none` where the action is not enabled.  Several
tasks and interrupts are one such system whose actions say which of them
moves, so that a run is an interleaving.

Reachability is relative to a condition on the steps.  An unconditional
property of every interleaving uses the condition that always holds; a
property that only some interleavings have names the steps those take.
-/

namespace Transition

universe u v

variable {State : Type u} {Action : Type v}

/-- One step by an action that the condition allows in the state before. -/
def Step (next : State → Action → Option State) (allowed : State → Action → Prop)
    (before after : State) : Prop :=
  ∃ action, allowed before action ∧ next before action = some after

/-- The states of all runs whose steps all meet the condition. -/
def Reachable (next : State → Action → Option State) (allowed : State → Action → Prop)
    (start : State) : State → Prop :=
  Relation.ReflTransGen (Step next allowed) start

/-- The condition that holds of every step. -/
def anyStep (_before : State) (_action : Action) : Prop :=
  True

/-- Execute a list of actions, stopping at the first one not enabled. -/
def run (next : State → Action → Option State) : State → List Action → Option State
  | state, [] => some state
  | state, action :: rest => (next state action).bind fun after => run next after rest

/-- Execute a list of actions, stopping also at the first one not allowed. -/
def runWithin (next : State → Action → Option State) (allowed : State → Action → Prop)
    [∀ state action, Decidable (allowed state action)] : State → List Action → Option State
  | state, [] => some state
  | state, action :: rest =>
      if allowed state action then
        (next state action).bind fun after => runWithin next allowed after rest
      else none

variable {next : State → Action → Option State} {allowed : State → Action → Prop}
  {start : State}

/-- The step rule and the run rule in one: what holds initially and is kept
by every allowed step holds in every state of every allowed run. -/
theorem Reachable.invariant (property : State → Prop) {state : State}
    (reachable : Reachable next allowed start state) (initial : property start)
    (kept : ∀ before action after, property before → allowed before action →
      next before action = some after → property after) : property state := by
  induction reachable with
  | refl => exact initial
  | tail _ step ih =>
      rcases step with ⟨action, permitted, moved⟩
      exact kept _ action _ ih permitted moved

/-- An executed list of actions is a run, when nothing is asked of its steps. -/
theorem reachable_of_run {state after : State} (actions : List Action)
    (reachable : Reachable next anyStep start state)
    (executed : run next state actions = some after) :
    Reachable next anyStep start after := by
  induction actions generalizing state with
  | nil =>
      cases executed
      exact reachable
  | cons action rest ih =>
      simp only [run, Option.bind_eq_some_iff] at executed
      rcases executed with ⟨middle, moved, executed⟩
      exact ih (Relation.ReflTransGen.tail reachable ⟨action, True.intro, moved⟩) executed

theorem reachable_of_runWithin [∀ state action, Decidable (allowed state action)]
    {state after : State} (actions : List Action)
    (reachable : Reachable next allowed start state)
    (executed : runWithin next allowed state actions = some after) :
    Reachable next allowed start after := by
  induction actions generalizing state with
  | nil =>
      cases executed
      exact reachable
  | cons action rest ih =>
      rw [runWithin] at executed
      by_cases permitted : allowed state action
      · rw [if_pos permitted, Option.bind_eq_some_iff] at executed
        rcases executed with ⟨middle, moved, executed⟩
        exact ih (Relation.ReflTransGen.tail reachable ⟨action, permitted, moved⟩) executed
      · rw [if_neg permitted] at executed
        cases executed

/-- What is observed at the end of an executed list is observed in a run. -/
theorem exists_reachable_of_run {Value : Type} {observe : State → Value} {value : Value}
    (actions : List Action) (executed : (run next start actions).map observe = some value) :
    ∃ state, Reachable next anyStep start state ∧ observe state = value := by
  rcases Option.map_eq_some_iff.mp executed with ⟨state, executed, observed⟩
  exact ⟨state, reachable_of_run actions Relation.ReflTransGen.refl executed, observed⟩

theorem exists_reachable_of_runWithin [∀ state action, Decidable (allowed state action)]
    {Value : Type} {observe : State → Value} {value : Value} (actions : List Action)
    (executed : (runWithin next allowed start actions).map observe = some value) :
    ∃ state, Reachable next allowed start state ∧ observe state = value := by
  rcases Option.map_eq_some_iff.mp executed with ⟨state, executed, observed⟩
  exact ⟨state, reachable_of_runWithin actions Relation.ReflTransGen.refl executed, observed⟩

/-- A map of states that follows every step, or stands still, carries runs of
one system to runs of another. -/
theorem Reachable.simulate {State' : Type u} {Action' : Type v}
    {next' : State' → Action' → Option State'} {allowed' : State' → Action' → Prop}
    (image : State → State') {state : State}
    (reachable : Reachable next allowed start state)
    (follows : ∀ before action after, allowed before action → next before action = some after →
      image after = image before ∨ Step next' allowed' (image before) (image after)) :
    Reachable next' allowed' (image start) (image state) := by
  induction reachable with
  | refl => exact Relation.ReflTransGen.refl
  | tail _ step ih =>
      rcases step with ⟨action, permitted, moved⟩
      rcases follows _ action _ permitted moved with still | moves
      · rw [still]
        exact ih
      · exact Relation.ReflTransGen.tail ih moves

/-- Where a map of states commutes with every step from the states of an invariant, it
commutes with whole runs, those included that end without a result. -/
theorem runWithin_map {State' : Type u} {next' : State' → Action → Option State'}
    {allowed' : State' → Action → Prop} [∀ state action, Decidable (allowed state action)]
    [∀ state action, Decidable (allowed' state action)] (image : State → State')
    (holds : State → Prop)
    (permits : ∀ before action, allowed before action ↔ allowed' (image before) action)
    (commutes : ∀ before action, holds before → allowed before action →
      (next before action).map image = next' (image before) action ∧
        ∀ after, next before action = some after → holds after)
    {state : State} (begins : holds state) (actions : List Action) :
    (runWithin next allowed state actions).map image =
      runWithin next' allowed' (image state) actions := by
  induction actions generalizing state with
  | nil => rfl
  | cons action rest ih =>
      rw [runWithin, runWithin]
      by_cases permitted : allowed state action
      · rw [if_pos permitted, if_pos ((permits state action).mp permitted)]
        rcases commutes state action begins permitted with ⟨same, kept⟩
        rw [← same]
        cases moved : next state action with
        | none => rfl
        | some middle => exact ih (kept middle moved)
      · rw [if_neg permitted, if_neg fun permitted' =>
          permitted ((permits state action).mpr permitted')]
        rfl

/-- An allowed run with the actions it takes. -/
inductive Path (next : State → Action → Option State) (allowed : State → Action → Prop) :
    State → List Action → State → Prop where
  | done (state : State) : Path next allowed state [] state
  | step {before middle after : State} {action : Action} {rest : List Action}
      (permitted : allowed before action) (moved : next before action = some middle)
      (path : Path next allowed middle rest after) :
      Path next allowed before (action :: rest) after

/-- A path is a run of every system that allows its steps. -/
theorem Path.reachable {allowed' : State → Action → Prop} {state after : State}
    {actions : List Action} (path : Path next allowed' state actions after)
    (permits : ∀ before action, allowed' before action → allowed before action)
    (reachable : Reachable next allowed start state) : Reachable next allowed start after := by
  induction path with
  | done state => exact reachable
  | step permitted moved path ih =>
      exact ih (Relation.ReflTransGen.tail reachable ⟨_, permits _ _ permitted, moved⟩)

/-- The measure rule: where every allowed step makes a measure smaller, the
measure bounds how long a run can still be. -/
theorem Path.length_le (measure : State → Nat) {state after : State} {actions : List Action}
    (path : Path next allowed state actions after)
    (smaller : ∀ before action after, allowed before action → next before action = some after →
      measure after < measure before) :
    actions.length + measure after ≤ measure state := by
  induction path with
  | done state => exact Nat.le_of_eq (Nat.zero_add _)
  | step permitted moved path ih =>
      have less := smaller _ _ _ permitted moved
      rw [List.length_cons]
      omega

/-! ## What runs cost -/

/-- How many of the executed steps are of a kind. -/
def occurrences (next : State → Action → Option State) (kind : State → Action → Bool) :
    State → List Action → Nat
  | _, [] => 0
  | state, action :: rest =>
      match next state action with
      | some after => (kind state action).toNat + occurrences next kind after rest
      | none => 0

/-- The credit rule: where every step of a kind is paid from a credit of the
state, to which only some actions add, there are no more of these steps than the
credit at the start and what the actions add pay for. -/
theorem occurrences_le {kind : State → Action → Bool} (credit : State → Nat)
    (gains : Action → Bool) (rate : Nat)
    (paid : ∀ before action after, Reachable next anyStep start before →
      next before action = some after →
      (kind before action).toNat + credit after ≤
        credit before + if gains action then rate else 0)
    {state : State} (reachable : Reachable next anyStep start state) (actions : List Action) :
    occurrences next kind state actions ≤ credit state + rate * actions.countP gains := by
  induction actions generalizing state with
  | nil => exact Nat.zero_le _
  | cons action rest ih =>
      rw [occurrences]
      cases moved : next state action with
      | none => exact Nat.zero_le _
      | some after =>
          have step := paid state action after reachable moved
          have later := ih (reachable.tail ⟨action, True.intro, moved⟩)
          have income : rate * (action :: rest).countP gains =
              (if gains action then rate else 0) + rate * rest.countP gains := by
            rw [List.countP_cons, Nat.mul_add, Nat.add_comm]
            cases gains action with
            | true => exact congrArg (· + _) (Nat.mul_one rate)
            | false => exact congrArg (· + _) (Nat.mul_zero rate)
          simp only
          omega

end Transition

end Library
