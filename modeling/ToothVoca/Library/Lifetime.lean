import Mathlib.Logic.Function.Basic

namespace Library

/-!
# Objects behind global handles

A program keeps its objects in handles, which are variables that are assigned
when an object is created and stay as they are when it is destroyed.  A store
holds the handles and every object that was ever created; a use or a release of
an object that is not alive is recorded.

What a program sees of this is only which of its handles are alive.  As two
handles never share an object, an access changes that for its own handle alone,
and the record of a whole list of accesses follows from it.
-/

namespace Lifetime

universe u

variable {Handle : Type u}

inductive Access (Handle : Type u) where
  | create (handle : Handle)
  | use (handle : Handle)
  | release (handle : Handle)
deriving DecidableEq, Repr

/-- An object is its position among all objects; `objects` says which are alive. -/
structure Store (Handle : Type u) where
  handles : Handle → Option Nat
  objects : List Bool
  misuses : List (Access Handle)

namespace Store

variable {store : Store Handle}

def initial : Store Handle where
  handles := fun _ => none
  objects := []
  misuses := []

/-- The object of a handle exists and has not been released. -/
def alive (store : Store Handle) (handle : Handle) : Bool :=
  match (store.handles handle).bind (store.objects[·]?) with
  | some alive => alive
  | none => false

/-- Handles hold objects that exist, and no two of them the same. -/
structure Distinct (store : Store Handle) : Prop where
  existing : ∀ handle object, store.handles handle = some object → object < store.objects.length
  apart : ∀ handle handle' object, store.handles handle = some object →
    store.handles handle' = some object → handle = handle'

theorem distinct_initial : (initial : Store Handle).Distinct where
  existing := fun _ _ held => by cases held
  apart := fun _ _ _ held => by cases held

theorem alive_of_held {handle : Handle} {object : Nat}
    (held : store.handles handle = some object) :
    store.alive handle = store.objects[object]?.getD false := by
  rw [alive, held, Option.bind_some]
  cases store.objects[object]? <;> rfl

theorem alive_of_none {handle : Handle} (held : store.handles handle = none) :
    store.alive handle = false := by
  rw [alive, held]
  rfl

/-- Every object that is alive is held by a handle. -/
def Owned (store : Store Handle) : Prop :=
  ∀ object, store.objects[object]? = some true → ∃ handle, store.handles handle = some object

theorem owned_initial : (initial : Store Handle).Owned :=
  fun _ lives => by cases lives

/-- Where no handle is alive, every object was released. -/
theorem Owned.released (owned : store.Owned) (none : ∀ handle, store.alive handle = false)
    (object : Nat) : store.objects[object]? ≠ some true := by
  intro lives
  rcases owned object lives with ⟨handle, held⟩
  have alive := none handle
  rw [alive_of_held held, lives] at alive
  cases alive

/-- The end of an object's life. -/
def destroy (store : Store Handle) (object : Nat) : Store Handle :=
  { store with objects := store.objects.set object false }

variable [DecidableEq Handle]

def access (store : Store Handle) : Access Handle → Store Handle
  | .create handle =>
      { store with
        handles := Function.update store.handles handle (some store.objects.length)
        objects := store.objects ++ [true] }
  | .use handle =>
      if store.alive handle then store
      else { store with misuses := store.misuses ++ [.use handle] }
  | .release handle =>
      if store.alive handle then
        match store.handles handle with
        | some object => store.destroy object
        | none => store
      else { store with misuses := store.misuses ++ [.release handle] }

def accessAll (store : Store Handle) (accesses : List (Access Handle)) : Store Handle :=
  accesses.foldl access store

end Store

variable [DecidableEq Handle]

/-! ## The accesses seen from the handles that are alive -/

/-- Which handles are alive behind an access. -/
def Access.after (alive : Handle → Bool) : Access Handle → Handle → Bool
  | .create handle => Function.update alive handle true
  | .use _ => alive
  | .release handle => Function.update alive handle false

/-- What an access adds to the record. -/
def Access.misuse (alive : Handle → Bool) : Access Handle → List (Access Handle)
  | .create _ => []
  | .use handle => if alive handle then [] else [.use handle]
  | .release handle => if alive handle then [] else [.release handle]

def aliveAfter (alive : Handle → Bool) (accesses : List (Access Handle)) : Handle → Bool :=
  accesses.foldl Access.after alive

def misused : (Handle → Bool) → List (Access Handle) → List (Access Handle)
  | _, [] => []
  | alive, access :: rest => access.misuse alive ++ misused (access.after alive) rest

/-- Where nothing of a handle is released, it is alive once it has been created. -/
theorem aliveAfter_created (alive : Handle → Bool) {accesses : List (Access Handle)}
    {handle : Handle} (kept : .release handle ∉ accesses) :
    aliveAfter alive accesses handle = (alive handle || decide (.create handle ∈ accesses)) := by
  induction accesses generalizing alive with
  | nil => exact (Bool.or_false _).symm
  | cons access rest ih =>
      rw [List.mem_cons, not_or] at kept
      refine (ih (access.after alive) kept.2).trans ?_
      cases access with
      | create other =>
          by_cases same : handle = other
          · subst same
            simp [Access.after]
          · simp [Access.after, same]
      | use other => simp [Access.after]
      | release other =>
          have differs : handle ≠ other := by
            rintro rfl
            exact kept.1 rfl
          simp [Access.after, Function.update_of_ne differs]

/-! Uses alone change nothing, and are recorded where an object is not alive. -/

theorem aliveAfter_uses (alive : Handle → Bool) (handles : List Handle) :
    aliveAfter alive (handles.map .use) = alive := by
  induction handles with
  | nil => rfl
  | cons handle rest ih => exact ih

theorem misused_uses {alive : Handle → Bool} {handles : List Handle}
    (lives : ∀ handle ∈ handles, alive handle = true) :
    misused alive (handles.map .use) = [] := by
  induction handles with
  | nil => rfl
  | cons handle rest ih =>
      rw [List.forall_mem_cons] at lives
      rw [List.map_cons, misused, Access.misuse, if_pos lives.1, List.nil_append]
      exact ih lives.2

theorem misused_uses_ended {alive : Handle → Bool} {handle : Handle} {handles : List Handle}
    (member : handle ∈ handles) (ended : alive handle = false) :
    misused alive (handles.map .use) ≠ [] := by
  induction handles with
  | nil => cases member
  | cons first rest ih =>
      rw [List.map_cons, misused]
      rcases List.mem_cons.mp member with here | later
      · subst here
        rw [Access.misuse, if_neg (by rw [ended]; decide)]
        exact List.cons_ne_nil _ _
      · exact List.append_ne_nil_of_right_ne_nil _ (ih later)

namespace Store

variable {store : Store Handle}

theorem Distinct.access (distinct : store.Distinct) (access : Access Handle) :
    (store.access access).Distinct := by
  cases access with
  | create handle =>
      constructor
      · intro handle' object held
        simp only [Store.access, List.length_append, List.length_singleton] at held ⊢
        by_cases same : handle' = handle
        · rw [same, Function.update_self, Option.some.injEq] at held
          omega
        · rw [Function.update_of_ne same] at held
          exact Nat.lt_succ_of_lt (distinct.existing handle' object held)
      · -- The new object is not among those that another handle can hold.
        have new {other : Handle} : store.handles other ≠ some store.objects.length :=
          fun held => Nat.lt_irrefl _ (distinct.existing other _ held)
        intro handle' handle'' object held held'
        simp only [Store.access] at held held'
        by_cases same : handle' = handle
        · by_cases same' : handle'' = handle
          · rw [same, same']
          · rw [same, Function.update_self] at held
            rw [Function.update_of_ne same', ← held] at held'
            exact absurd held' new
        · rw [Function.update_of_ne same] at held
          by_cases same' : handle'' = handle
          · rw [same', Function.update_self] at held'
            rw [← held'] at held
            exact absurd held new
          · rw [Function.update_of_ne same'] at held'
            exact distinct.apart handle' handle'' object held held'
  | use handle =>
      rw [Store.access]
      split
      · exact distinct
      · exact ⟨distinct.existing, distinct.apart⟩
  | release handle =>
      rw [Store.access]
      split
      · split
        · refine ⟨?_, distinct.apart⟩
          intro handle' object held
          rw [destroy, List.length_set]
          exact distinct.existing handle' object held
        · exact distinct
      · exact ⟨distinct.existing, distinct.apart⟩

theorem alive_create (distinct : store.Distinct) (handle : Handle) :
    (store.access (.create handle)).alive = Function.update store.alive handle true := by
  funext other
  by_cases same : other = handle
  · subst same
    have held : (store.access (.create other)).handles other = some store.objects.length :=
      Function.update_self _ _ _
    rw [alive_of_held held, Function.update_self]
    simp only [Store.access, List.getElem?_concat_length, Option.getD_some]
  · rw [Function.update_of_ne same]
    have kept : (store.access (.create handle)).handles other = store.handles other :=
      Function.update_of_ne same _ _
    cases held : store.handles other with
    | none => rw [alive_of_none (kept.trans held), alive_of_none held]
    | some object =>
        rw [alive_of_held (kept.trans held), alive_of_held held]
        simp only [Store.access]
        rw [List.getElem?_append_left (distinct.existing other object held)]

theorem alive_release (distinct : store.Distinct) (handle : Handle) :
    (store.access (.release handle)).alive = Function.update store.alive handle false := by
  funext other
  rw [Store.access]
  by_cases lives : store.alive handle
  · rw [if_pos lives]
    cases held : store.handles handle with
    | none =>
        rw [alive_of_none held] at lives
        cases lives
    | some object =>
        have inside := distinct.existing handle object held
        by_cases same : other = handle
        · subst same
          have ended : (store.destroy object).alive other =
              (store.objects.set object false)[object]?.getD false := alive_of_held held
          rw [Function.update_self]
          exact ended.trans (by rw [List.getElem?_set_self inside]; rfl)
        · rw [Function.update_of_ne same]
          cases held' : store.handles other with
          | none => rw [alive_of_none held']; exact alive_of_none held'
          | some object' =>
              have differs : object ≠ object' := by
                intro sameObject
                subst sameObject
                exact same (distinct.apart other handle object held' held)
              have kept : (store.destroy object).alive other =
                  (store.objects.set object false)[object']?.getD false := alive_of_held held'
              rw [alive_of_held held', ← List.getElem?_set_ne differs]
              exact kept
  · rw [if_neg lives]
    by_cases same : other = handle
    · rw [same, Function.update_self]
      exact Bool.eq_false_iff.mpr lives
    · rw [Function.update_of_ne same]
      rfl

/-- An access changes what is alive as seen from the handles alone. -/
theorem alive_access (distinct : store.Distinct) (access : Access Handle) :
    (store.access access).alive = access.after store.alive := by
  cases access with
  | create handle => exact alive_create distinct handle
  | use handle =>
      rw [Store.access]
      split <;> rfl
  | release handle => exact alive_release distinct handle

theorem misuses_access (access : Access Handle) :
    (store.access access).misuses = store.misuses ++ access.misuse store.alive := by
  cases access with
  | create handle => exact (List.append_nil _).symm
  | use handle =>
      rw [Store.access, Access.misuse]
      split
      · exact (List.append_nil _).symm
      · rfl
  | release handle =>
      rw [Store.access, Access.misuse]
      split
      · cases store.handles handle <;> exact (List.append_nil _).symm
      · rfl

/-- A list of accesses, from what is alive at its start. -/
theorem accessAll_spec (distinct : store.Distinct) (accesses : List (Access Handle)) :
    (store.accessAll accesses).Distinct ∧
      (store.accessAll accesses).alive = aliveAfter store.alive accesses ∧
      (store.accessAll accesses).misuses = store.misuses ++ misused store.alive accesses := by
  induction accesses generalizing store with
  | nil => exact ⟨distinct, rfl, (List.append_nil _).symm⟩
  | cons access rest ih =>
      have step := ih (distinct.access access)
      rw [alive_access distinct, misuses_access, List.append_assoc] at step
      exact step

end Store

/-! ## Objects that are lost

An object that is alive while its handle is assigned another one can not be released any
more. -/

def Access.leak (alive : Handle → Bool) : Access Handle → List Handle
  | .create handle => if alive handle then [handle] else []
  | .use _ | .release _ => []

def leaked : (Handle → Bool) → List (Access Handle) → List Handle
  | _, [] => []
  | alive, access :: rest => access.leak alive ++ leaked (access.after alive) rest

/-- Accesses that meet only objects that are alive and lose none of them. -/
structure Tidy (before : Handle → Bool) (accesses : List (Access Handle))
    (after : Handle → Bool) : Prop where
  ends : aliveAfter before accesses = after
  misused : misused before accesses = []
  leaked : leaked before accesses = []

theorem aliveAfter_append (alive : Handle → Bool) (first second : List (Access Handle)) :
    aliveAfter alive (first ++ second) = aliveAfter (aliveAfter alive first) second :=
  List.foldl_append

theorem misused_append (alive : Handle → Bool) (first second : List (Access Handle)) :
    misused alive (first ++ second) =
      misused alive first ++ misused (aliveAfter alive first) second := by
  induction first generalizing alive with
  | nil => rfl
  | cons access rest ih =>
      rw [List.cons_append, misused, misused, ih, List.append_assoc]
      rfl

theorem leaked_append (alive : Handle → Bool) (first second : List (Access Handle)) :
    leaked alive (first ++ second) =
      leaked alive first ++ leaked (aliveAfter alive first) second := by
  induction first generalizing alive with
  | nil => rfl
  | cons access rest ih =>
      rw [List.cons_append, leaked, leaked, ih, List.append_assoc]
      rfl

namespace Tidy

variable {before middle after : Handle → Bool} {first second : List (Access Handle)}

theorem append (tidy : Tidy before first middle) (tidy' : Tidy middle second after) :
    Tidy before (first ++ second) after where
  ends := by rw [aliveAfter_append, tidy.ends, tidy'.ends]
  misused := by rw [misused_append, tidy.misused, tidy.ends, tidy'.misused, List.append_nil]
  leaked := by rw [leaked_append, tidy.leaked, tidy.ends, tidy'.leaked, List.append_nil]

/-- What is tidy is so up to any moment. -/
theorem front (tidy : Tidy before (first ++ second) after) :
    Tidy before first (aliveAfter before first) where
  ends := rfl
  misused := (List.append_eq_nil_iff.mp ((misused_append _ _ _).symm.trans tidy.misused)).1
  leaked := (List.append_eq_nil_iff.mp ((leaked_append _ _ _).symm.trans tidy.leaked)).1

theorem uses {handles : List Handle} (lives : ∀ handle ∈ handles, before handle = true) :
    Tidy before (handles.map .use) before where
  ends := aliveAfter_uses before handles
  misused := misused_uses lives
  leaked := by
    clear lives
    induction handles with
    | nil => rfl
    | cons handle rest ih => exact ih

end Tidy

namespace Store

variable {store : Store Handle}

theorem Owned.access (owned : store.Owned) {access : Access Handle}
    (kept : access.leak store.alive = []) : (store.access access).Owned := by
  cases access with
  | create handle =>
      intro object lives
      simp only [Store.access] at lives ⊢
      by_cases new : object = store.objects.length
      · exact ⟨handle, by rw [new, Function.update_self]⟩
      · have inside : object < store.objects.length := by
          have bound := (List.getElem?_eq_some_iff.mp lives).1
          rw [List.length_append, List.length_singleton] at bound
          omega
        rw [List.getElem?_append_left inside] at lives
        rcases owned object lives with ⟨other, held⟩
        have differs : other ≠ handle := by
          intro same
          subst same
          have alive : store.alive other = true := by
            rw [alive_of_held held, lives]
            rfl
          rw [Access.leak, if_pos alive] at kept
          cases kept
        exact ⟨other, by rw [Function.update_of_ne differs, held]⟩
  | use handle =>
      rw [Store.access]
      split
      · exact owned
      · exact owned
  | release handle =>
      rw [Store.access]
      split
      · split
        · intro object' lives
          simp only [destroy, List.getElem?_set] at lives
          split at lives
          · split at lives <;> cases lives
          · exact owned object' lives
        · exact owned
      · exact owned

theorem Owned.accessAll (owned : store.Owned) (distinct : store.Distinct)
    {accesses : List (Access Handle)} (kept : leaked store.alive accesses = []) :
    (store.accessAll accesses).Owned := by
  induction accesses generalizing store with
  | nil => exact owned
  | cons access rest ih =>
      rw [leaked, ← alive_access distinct, List.append_eq_nil_iff] at kept
      exact ih (owned.access kept.1) (distinct.access access) kept.2

/-- Tidy accesses record nothing and lose nothing. -/
theorem accessAll_tidy {accesses : List (Access Handle)} {after : Handle → Bool}
    (tidy : Tidy store.alive accesses after) (distinct : store.Distinct) (owned : store.Owned) :
    (store.accessAll accesses).Distinct ∧ (store.accessAll accesses).Owned ∧
      (store.accessAll accesses).alive = after ∧
      (store.accessAll accesses).misuses = store.misuses := by
  rcases accessAll_spec distinct accesses with ⟨distinct', alive, misuses⟩
  rw [tidy.misused, List.append_nil] at misuses
  exact ⟨distinct', owned.accessAll distinct tidy.leaked, alive.trans tidy.ends, misuses⟩

end Store

end Lifetime

end Library
