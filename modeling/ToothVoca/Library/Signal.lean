import ToothVoca.Library.Transition

namespace Library

/-!
# A flag that one side raises and the other side serves

The serving side finds the flag raised, starts its service, and takes the flag
back behind the service.  Nothing stops the raising side in the meantime.  A
raise is pending until a service starts behind it.

The flag is one bit, so it cannot tell a raise during the service from the one
that is served, and clearing it loses both.  Where no raise falls between the
start of a service and the clearing, a pending raise always shows in the flag.
-/

structure Signal where
  raised : Bool
  pending : Bool
  serving : Bool
deriving DecidableEq, Repr

inductive SignalAction where
  | raise
  | start
  | clear
deriving DecidableEq, Repr

namespace Signal

def initial : Signal :=
  ⟨false, false, false⟩

/-- One action of either side.  The flag is cleared behind a service only. -/
def next (before : Signal) : SignalAction → Option Signal
  | .raise => some { before with raised := true, pending := true }
  | .start => some { before with pending := false, serving := true }
  | .clear => if before.serving then some { before with raised := false, serving := false } else none

/-- No raise falls between the start of a service and the clearing. -/
def Undisturbed (before : Signal) (action : SignalAction) : Prop :=
  action = .raise → before.serving = false

/-- A pending raise shows in the flag, and its service has not begun. -/
def Shows (signal : Signal) : Prop :=
  signal.pending = true → signal.raised = true ∧ signal.serving = false

theorem Shows.step {before after : Signal} {action : SignalAction} (shows : Shows before)
    (undisturbed : Undisturbed before action) (moved : next before action = some after) :
    Shows after := by
  cases action with
  | raise =>
      cases moved
      intro _
      exact ⟨rfl, undisturbed rfl⟩
  | start =>
      cases moved
      intro pending
      cases pending
  | clear =>
      rw [next] at moved
      split at moved
      · next serving =>
          cases moved
          intro pending
          have idle := (shows pending).2
          rw [serving] at idle
          cases idle
      · cases moved

/-- In every run without a disturbed service a pending raise shows in the
flag. -/
theorem raised_of_pending {signal : Signal}
    (reachable : Transition.Reachable next Undisturbed initial signal)
    (pending : signal.pending = true) : signal.raised = true := by
  have shows := reachable.invariant Shows (fun none => by cases none)
    fun _ _ _ shows undisturbed moved => shows.step undisturbed moved
  exact (shows pending).1

end Signal

end Library
