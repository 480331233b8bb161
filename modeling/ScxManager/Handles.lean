import ScxManager.Library.Runs
import Mathlib.Logic.Function.Basic

/-!
# Handles of the window

The window that embedders see is a handle to an implementation. A constructor makes the
implementation and the destructor deletes it, so a handle owns what it points to. The moves are the
defaulted ones: they copy the pointer, and leave the handle that is moved from as it was. A parent that
a handle is given is taken never to delete the implementation itself.
-/

namespace ScxManager

/-- A handle, by the implementation that it points to. -/
structure WindowHandle where
  impl : Option ℕ
  deriving DecidableEq

/-- The handles that are alive, how many implementations were created (they are numbered in that
order), and how often each of them was deleted. -/
structure Handles (ι : Type) where
  handles : ι → Option WindowHandle
  created : ℕ
  deletions : ℕ → ℕ

/-- What can happen to a handle. -/
inductive HandleEvent (ι : Type) where
  | construct (handle : ι)
  | moveConstruct (handle source : ι)
  | moveAssign (handle source : ι)
  | destroy (handle : ι)

namespace Handles

variable {ι : Type}

/-- Before the first handle. -/
def start : Handles ι := ⟨fun _ => none, 0, fun _ => 0⟩

/-- A handle is alive and points to an implementation. -/
def Holds (handles : ι → Option WindowHandle) (handle : ι) (impl : ℕ) : Prop :=
  handles handle = some ⟨some impl⟩

/-- Every implementation has one owner: none is held by two handles, none that is held was deleted,
and once no handle is left all of them were deleted exactly once. -/
structure OneOwner (st : Handles ι) : Prop where
  distinct : ∀ handle handle' impl, Holds st.handles handle impl → Holds st.handles handle' impl →
    handle = handle'
  notDeleted : ∀ handle impl, Holds st.handles handle impl → st.deletions impl = 0
  allDeleted : (∀ handle, st.handles handle = none) →
    ∀ impl < st.created, st.deletions impl = 1

variable [DecidableEq ι]

/-- Delete what a handle points to; a null pointer is not deleted. -/
def delete (deletions : ℕ → ℕ) : Option ℕ → ℕ → ℕ
  | none => deletions
  | some impl => Function.update deletions impl (deletions impl + 1)

/-- A handle is only constructed where none is alive, and only live handles are assigned to, moved
from or destroyed. -/
def step (st : Handles ι) : HandleEvent ι → Option (Handles ι)
  | .construct handle =>
    match st.handles handle with
    | some _ => none
    | none =>
      some
        { st with
          handles := Function.update st.handles handle (some ⟨some st.created⟩)
          created := st.created + 1 }
  | .moveConstruct handle source =>
    match st.handles handle, st.handles source with
    | none, some moved =>
      some { st with handles := Function.update st.handles handle (some ⟨moved.impl⟩) }
    | _, _ => none
  | .moveAssign handle source =>
    match st.handles handle, st.handles source with
    | some _, some moved =>
      some { st with handles := Function.update st.handles handle (some ⟨moved.impl⟩) }
    | _, _ => none
  | .destroy handle =>
    match st.handles handle with
    | none => none
    | some destroyed =>
      some
        { st with
          handles := Function.update st.handles handle none
          deletions := delete st.deletions destroyed.impl }

end Handles

/-- An event takes what one handle points to into another one. -/
def HandleEvent.Moves {ι : Type} : HandleEvent ι → Prop
  | construct _ => False
  | moveConstruct _ _ => True
  | moveAssign handle source => handle ≠ source
  | destroy _ => False

namespace Handles

variable {ι : Type}

/-- Every handle holds an implementation of its own, and every implementation that no handle holds was
deleted once. -/
structure Owned (st : Handles ι) : Prop where
  holds : ∀ handle value, st.handles handle = some value → ∃ impl, Holds st.handles handle impl
  distinct : ∀ handle handle' impl, Holds st.handles handle impl → Holds st.handles handle' impl →
    handle = handle'
  created : ∀ handle impl, Holds st.handles handle impl → impl < st.created
  notDeleted : ∀ handle impl, Holds st.handles handle impl → st.deletions impl = 0
  settled : ∀ impl < st.created, (∃ handle, Holds st.handles handle impl) ∨ st.deletions impl = 1
  unused : ∀ impl, st.created ≤ impl → st.deletions impl = 0

theorem owned_start : Owned (start : Handles ι) where
  holds := fun _ _ h => by cases h
  distinct := fun _ _ _ h => by cases h
  created := fun _ _ h => by cases h
  notDeleted := fun _ _ h => by cases h
  settled := fun _ h => absurd h (Nat.not_lt_zero _)
  unused := fun _ _ => rfl

theorem Owned.oneOwner {st : Handles ι} (h : st.Owned) : st.OneOwner where
  distinct := h.distinct
  notDeleted := h.notDeleted
  allDeleted := by
    intro hnone impl hcreated
    obtain ⟨handle, hholds⟩ | hdeleted := h.settled impl hcreated
    · exact absurd (hholds.symm.trans (hnone handle)) (Option.some_ne_none _)
    · exact hdeleted

/-- What a live handle points to, if every implementation is owned. -/
theorem Owned.holds_of_eq {st : Handles ι} (h : st.Owned) {handle : ι} {value : WindowHandle}
    (hvalue : st.handles handle = some value) :
    ∃ impl, value = ⟨some impl⟩ ∧ Holds st.handles handle impl := by
  obtain ⟨impl, hholds⟩ := h.holds handle value hvalue
  exact ⟨impl, Option.some.inj (hvalue.symm.trans hholds), hholds⟩

variable [DecidableEq ι]

/-- What handles hold once one of them was set. -/
theorem holds_update {handles : ι → Option WindowHandle} {handle handle' : ι}
    {value : Option WindowHandle} {impl : ℕ} :
    Holds (Function.update handles handle value) handle' impl ↔
      handle' = handle ∧ value = some ⟨some impl⟩ ∨ handle' ≠ handle ∧ Holds handles handle' impl := by
  unfold Holds
  by_cases h : handle' = handle
  · rw [h, Function.update_self]
    simp
  · rw [Function.update_of_ne h]
    simp [h]

/-- What handles hold once one of them points to an implementation. -/
theorem holds_set {handles : ι → Option WindowHandle} {handle handle' : ι} {target impl : ℕ} :
    Holds (Function.update handles handle (some ⟨some target⟩)) handle' impl ↔
      handle' = handle ∧ target = impl ∨ handle' ≠ handle ∧ Holds handles handle' impl := by
  rw [holds_update, Option.some.injEq, WindowHandle.mk.injEq, Option.some.injEq]

/-- What handles hold once one of them is gone. -/
theorem holds_drop {handles : ι → Option WindowHandle} {handle handle' : ι} {impl : ℕ} :
    Holds (Function.update handles handle none) handle' impl ↔
      handle' ≠ handle ∧ Holds handles handle' impl := by
  rw [holds_update]
  simp

/-- Every way an event can go. -/
inductive Takes (st : Handles ι) : HandleEvent ι → Handles ι → Prop
  | constructed (handle : ι) (hnone : st.handles handle = none) :
      st.Takes (.construct handle)
        { st with
          handles := Function.update st.handles handle (some ⟨some st.created⟩)
          created := st.created + 1 }
  | moveConstructed (handle source : ι) (moved : WindowHandle) (hnone : st.handles handle = none)
      (hmoved : st.handles source = some moved) :
      st.Takes (.moveConstruct handle source)
        { st with handles := Function.update st.handles handle (some ⟨moved.impl⟩) }
  | moveAssigned (handle source : ι) (value moved : WindowHandle)
      (hvalue : st.handles handle = some value) (hmoved : st.handles source = some moved) :
      st.Takes (.moveAssign handle source)
        { st with handles := Function.update st.handles handle (some ⟨moved.impl⟩) }
  | destroyed (handle : ι) (value : WindowHandle) (hvalue : st.handles handle = some value) :
      st.Takes (.destroy handle)
        { st with
          handles := Function.update st.handles handle none
          deletions := delete st.deletions value.impl }

/-- An event that goes through goes in one of these ways. -/
theorem step_takes {st st' : Handles ι} {event : HandleEvent ι} (h : st.step event = some st') :
    st.Takes event st' := by
  unfold step at h
  cases event with
  | construct handle =>
    dsimp only at h
    split at h
    next => cases h
    next hnone =>
      obtain rfl := Option.some.inj h
      exact .constructed handle hnone
  | moveConstruct handle source =>
    dsimp only at h
    split at h
    next moved hnone hmoved =>
      obtain rfl := Option.some.inj h
      exact .moveConstructed handle source moved hnone hmoved
    next => cases h
  | moveAssign handle source =>
    dsimp only at h
    split at h
    next value moved hvalue hmoved =>
      obtain rfl := Option.some.inj h
      exact .moveAssigned handle source value moved hvalue hmoved
    next => cases h
  | destroy handle =>
    dsimp only at h
    split at h
    next => cases h
    next value hvalue =>
      obtain rfl := Option.some.inj h
      exact .destroyed handle value hvalue

/-- A new handle owns a new implementation. -/
theorem Owned.construct {st : Handles ι} (h : st.Owned) {handle : ι}
    (hnone : st.handles handle = none) :
    Owned
      { st with
        handles := Function.update st.handles handle (some ⟨some st.created⟩)
        created := st.created + 1 } := by
  constructor
  case holds =>
    intro handle' value hvalue
    by_cases hhandle : handle' = handle
    · exact ⟨st.created, holds_set.mpr (Or.inl ⟨hhandle, rfl⟩)⟩
    · dsimp only at hvalue
      rw [Function.update_of_ne hhandle] at hvalue
      obtain ⟨impl, hholds⟩ := h.holds handle' value hvalue
      exact ⟨impl, holds_set.mpr (Or.inr ⟨hhandle, hholds⟩)⟩
  case distinct =>
    intro handle₁ handle₂ impl h₁ h₂
    obtain ⟨rfl, rfl⟩ | ⟨-, hholds₁⟩ := holds_set.mp h₁
    · obtain ⟨rfl, -⟩ | ⟨-, hholds₂⟩ := holds_set.mp h₂
      · rfl
      · exact absurd (h.created _ _ hholds₂) (Nat.lt_irrefl _)
    · obtain ⟨-, rfl⟩ | ⟨-, hholds₂⟩ := holds_set.mp h₂
      · exact absurd (h.created _ _ hholds₁) (Nat.lt_irrefl _)
      · exact h.distinct _ _ _ hholds₁ hholds₂
  case created =>
    intro handle' impl hholds
    obtain ⟨-, rfl⟩ | ⟨-, hholds⟩ := holds_set.mp hholds
    · exact Nat.lt_succ_self _
    · exact Nat.lt_succ_of_lt (h.created _ _ hholds)
  case notDeleted =>
    intro handle' impl hholds
    obtain ⟨-, rfl⟩ | ⟨-, hholds⟩ := holds_set.mp hholds
    · exact h.unused _ (Nat.le_refl _)
    · exact h.notDeleted _ _ hholds
  case settled =>
    intro impl hcreated
    obtain hlt | rfl := Nat.lt_succ_iff_lt_or_eq.mp hcreated
    · obtain ⟨handle', hholds⟩ | hdeleted := h.settled impl hlt
      · have hhandle : handle' ≠ handle := by
          intro heq
          rw [heq] at hholds
          cases hnone.symm.trans hholds
        exact Or.inl ⟨handle', holds_set.mpr (Or.inr ⟨hhandle, hholds⟩)⟩
      · exact Or.inr hdeleted
    · exact Or.inl ⟨handle, holds_set.mpr (Or.inl ⟨rfl, rfl⟩)⟩
  case unused =>
    intro impl hcreated
    exact h.unused impl (Nat.le_of_succ_le hcreated)

/-- What a handle that is destroyed owned is deleted once. -/
theorem Owned.destroy {st : Handles ι} (h : st.Owned) {handle : ι} {gone : ℕ}
    (hgone : Holds st.handles handle gone) :
    Owned
      { st with
        handles := Function.update st.handles handle none
        deletions := Function.update st.deletions gone (st.deletions gone + 1) } := by
  constructor
  case holds =>
    intro handle' value hvalue
    dsimp only at hvalue
    by_cases hhandle : handle' = handle
    · rw [hhandle, Function.update_self] at hvalue
      cases hvalue
    · rw [Function.update_of_ne hhandle] at hvalue
      obtain ⟨impl, hholds⟩ := h.holds handle' value hvalue
      exact ⟨impl, holds_drop.mpr ⟨hhandle, hholds⟩⟩
  case distinct =>
    intro handle₁ handle₂ impl h₁ h₂
    exact h.distinct _ _ _ (holds_drop.mp h₁).2 (holds_drop.mp h₂).2
  case created =>
    intro handle' impl hholds
    exact h.created _ _ (holds_drop.mp hholds).2
  case notDeleted =>
    intro handle' impl hholds
    obtain ⟨hhandle, hholds⟩ := holds_drop.mp hholds
    have hne : impl ≠ gone := by
      intro heq
      rw [heq] at hholds
      exact hhandle (h.distinct _ _ _ hholds hgone)
    dsimp only
    rw [Function.update_of_ne hne]
    exact h.notDeleted _ _ hholds
  case settled =>
    intro impl hcreated
    dsimp only
    by_cases hne : impl = gone
    · rw [hne, Function.update_self, h.notDeleted _ _ hgone]
      exact Or.inr rfl
    · rw [Function.update_of_ne hne]
      obtain ⟨handle', hholds⟩ | hdeleted := h.settled impl hcreated
      · have hhandle : handle' ≠ handle := by
          intro heq
          rw [heq] at hholds
          cases hholds.symm.trans hgone
          exact hne rfl
        exact Or.inl ⟨handle', holds_drop.mpr ⟨hhandle, hholds⟩⟩
      · exact Or.inr hdeleted
  case unused =>
    intro impl hcreated
    have hne : impl ≠ gone := by
      intro heq
      rw [heq] at hcreated
      exact absurd (h.created _ _ hgone) (Nat.not_lt_of_le hcreated)
    dsimp only
    rw [Function.update_of_ne hne]
    exact h.unused impl hcreated

/-- What does not move keeps every implementation owned. -/
theorem owned_step {st st' : Handles ι} {event : HandleEvent ι} (h : st.Owned)
    (hmoves : ¬ event.Moves) (hstep : st.step event = some st') : st'.Owned := by
  cases step_takes hstep with
  | constructed handle hnone => exact h.construct hnone
  | moveConstructed handle source moved hnone hmoved => exact absurd trivial hmoves
  | moveAssigned handle source value moved hvalue hmoved =>
    -- a handle that is assigned to itself stays what it was
    obtain rfl : handle = source := not_not.mp hmoves
    have hself : Function.update st.handles handle (some ⟨moved.impl⟩) = st.handles := by
      rw [Function.update_eq_self_iff]
      exact hmoved.symm
    rw [hself]
    exact h
  | destroyed handle value hvalue =>
    obtain ⟨gone, rfl, hgone⟩ := h.holds_of_eq hvalue
    exact h.destroy hgone

/-- After a handle took over what another one points to, both hold one implementation. -/
theorem not_oneOwner_of_update {st st' : Handles ι} (h : st.Owned) {handle source : ι}
    {moved : WindowHandle} (hne : handle ≠ source) (hmoved : st.handles source = some moved)
    (hst' : st'.handles = Function.update st.handles handle (some ⟨moved.impl⟩)) :
    ¬ st'.OneOwner := by
  obtain ⟨impl, rfl, hholds⟩ := h.holds_of_eq hmoved
  have hhandle : Holds st'.handles handle impl := by
    rw [hst']
    exact holds_set.mpr (Or.inl ⟨rfl, rfl⟩)
  have hsource : Holds st'.handles source impl := by
    rw [hst']
    exact holds_set.mpr (Or.inr ⟨hne.symm, hholds⟩)
  intro howner
  exact hne (howner.distinct _ _ _ hhandle hsource)

/-- After a move two handles hold one implementation. -/
theorem not_oneOwner_of_moves {st st' : Handles ι} {event : HandleEvent ι} (h : st.Owned)
    (hstep : st.step event = some st') (hmoves : event.Moves) : ¬ st'.OneOwner := by
  cases step_takes hstep with
  | constructed handle hnone => exact absurd hmoves not_false
  | moveConstructed handle source moved hnone hmoved =>
    have hne : handle ≠ source := by
      intro heq
      rw [heq] at hnone
      cases hnone.symm.trans hmoved
    exact not_oneOwner_of_update h hne hmoved rfl
  | moveAssigned handle source value moved hvalue hmoved =>
    exact not_oneOwner_of_update h hmoves hmoved rfl
  | destroyed handle value hvalue => exact absurd hmoves not_false

/-- All along a run every implementation has one owner exactly if no event of the run moves what one
handle points to into another one. -/
theorem oneOwner_run_iff {events : List (HandleEvent ι)} {st : Handles ι}
    (hrun : Runs.run step start events = some st) :
    Runs.AllStates step OneOwner start events ↔ ∀ event ∈ events, ¬ event.Moves := by
  rw [← Runs.allSteps_iff_forall_mem hrun]
  refine Runs.allStates_iff_allSteps_of_invariant (fun _ h => h.oneOwner) ?_ ?_ owned_start events
  · intro st event st' h hmoves hstep
    exact owned_step h (hmoves st' hstep) hstep
  · intro st event h howner st' hstep hmoves
    exact not_oneOwner_of_moves h hstep hmoves (howner st' hstep)

/-- Two handles in turn, the second one assigned to itself. -/
theorem oneOwner_without_moves :
    ∃ st : Handles ℕ, Runs.run step start
        [.construct 0, .destroy 0, .construct 1, .moveAssign 1 1, .destroy 1] = some st ∧
      Runs.AllStates step (@OneOwner ℕ) start
        [.construct 0, .destroy 0, .construct 1, .moveAssign 1 1, .destroy 1] :=
  ⟨_, rfl, (oneOwner_run_iff rfl).mpr (by simp [HandleEvent.Moves])⟩

/-- A handle that is moved into a new one: both of them hold the same implementation. -/
theorem moved_handle_shared :
    ¬ ∀ (events : List (HandleEvent ℕ)) (st : Handles ℕ), Runs.run step start events = some st →
      Runs.AllStates step OneOwner start events := by
  intro h
  have hshared := h [.construct 0, .moveConstruct 1 0] _ rfl
  have hlast := (hshared.2 _ rfl).2 _ rfl
  exact absurd (hlast.distinct 0 1 0 rfl rfl) (by decide)

end Handles

end ScxManager
