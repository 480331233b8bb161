import Mathlib.Algebra.BigOperators.Group.Finset.Piecewise
import Mathlib.Data.Fintype.Basic
import ScxManager.Handles

/-!
# What moves of handles cost

A defaulted move copies a pointer and deletes nothing. So every move adds a handle that will delete the
implementation once more, and every assignment to another handle drops one that would have deleted what
it pointed to. This is a conservation law, for every implementation and every run, moves included: its
deletions, its handles and the handles that were overwritten make up for its creation and its copies. Only
handles delete here, as in `Handles`, and no parent does.
-/

namespace ScxManager.Handles

variable {ι : Type}

/-- One if this points to the implementation. -/
def pointsTo (value : Option WindowHandle) (impl : ℕ) : ℕ := if value = some ⟨some impl⟩ then 1 else 0

/-- The number of handles that hold an implementation. -/
def holders [Fintype ι] (handles : ι → Option WindowHandle) (impl : ℕ) : ℕ :=
  ∑ handle, pointsTo (handles handle) impl

/-- How often a pointer to each implementation was copied by a move, and overwritten by one. -/
structure Moved where
  copied : ℕ → ℕ
  overwritten : ℕ → ℕ

/-- Keep account of the moves. -/
def recordMoves (st : Handles ι) (moved : Moved) : HandleEvent ι → Moved
  | .construct _ => moved
  | .moveConstruct _ source =>
    { moved with copied := fun impl => moved.copied impl + pointsTo (st.handles source) impl }
  | .moveAssign handle source =>
    { copied := fun impl => moved.copied impl + pointsTo (st.handles source) impl
      overwritten := fun impl => moved.overwritten impl + pointsTo (st.handles handle) impl }
  | .destroy _ => moved

/-- Every implementation is accounted for. -/
def Balanced [Fintype ι] (st : Handles ι × Moved) : Prop :=
  ∀ impl, st.1.deletions impl + holders st.1.handles impl + st.2.overwritten impl =
    (if impl < st.1.created then 1 else 0) + st.2.copied impl

/-- Deleting what a handle points to counts for that implementation. -/
theorem delete_apply (deletions : ℕ → ℕ) (value : WindowHandle) (impl : ℕ) :
    delete deletions value.impl impl = deletions impl + pointsTo (some value) impl := by
  obtain ⟨target⟩ := value
  cases target with
  | none => rfl
  | some gone =>
    change Function.update deletions gone (deletions gone + 1) impl = _
    unfold pointsTo
    by_cases himpl : impl = gone
    · subst himpl
      rw [Function.update_self, if_pos rfl]
    · have hother : some (WindowHandle.mk (some gone)) ≠ some ⟨some impl⟩ := by
        simpa using Ne.symm himpl
      rw [Function.update_of_ne himpl, if_neg hother, Nat.add_zero]

/-- A null handle, or none at all, points to nothing. -/
theorem pointsTo_none (impl : ℕ) : pointsTo none impl = 0 := rfl

variable [Fintype ι] [DecidableEq ι]

/-- One handle is changed: it counts for what it points to then, and no longer for what it pointed to. -/
theorem holders_update (handles : ι → Option WindowHandle) (handle : ι) (value : Option WindowHandle)
    (impl : ℕ) :
    holders (Function.update handles handle value) impl + pointsTo (handles handle) impl =
      holders handles impl + pointsTo value impl := by
  have hother : ∑ h ∈ Finset.univ.erase handle, pointsTo (Function.update handles handle value h) impl =
      ∑ h ∈ Finset.univ.erase handle, pointsTo (handles h) impl := by
    refine Finset.sum_congr rfl fun h hh => ?_
    rw [Function.update_of_ne (Finset.ne_of_mem_erase hh)]
  have hafter := Finset.add_sum_erase Finset.univ
    (fun h => pointsTo (Function.update handles handle value h) impl) (Finset.mem_univ handle)
  have hbefore := Finset.add_sum_erase Finset.univ (fun h => pointsTo (handles h) impl)
    (Finset.mem_univ handle)
  rw [hother, Function.update_self] at hafter
  unfold holders
  omega

/-- Every event, a move or not, keeps the account balanced. -/
theorem balanced_step (st : Handles ι × Moved) (event : HandleEvent ι) (st' : Handles ι × Moved)
    (h : Balanced st) (hstep : Runs.recorded step recordMoves st event = some st') : Balanced st' := by
  obtain ⟨st, moved⟩ := st
  obtain ⟨st', hst', rfl⟩ := Option.map_eq_some_iff.mp hstep
  intro impl
  have hbalance := h impl
  cases step_takes hst' with
  | constructed handle hnone =>
    have hholders := holders_update st.handles handle (some ⟨some st.created⟩) impl
    rw [hnone, pointsTo_none] at hholders
    have hnew : pointsTo (some ⟨some st.created⟩) impl + (if impl < st.created then 1 else 0) =
        if impl < st.created + 1 then 1 else 0 := by
      unfold pointsTo
      simp only [Option.some.injEq, WindowHandle.mk.injEq]
      split_ifs <;> omega
    simp only [recordMoves]
    dsimp only at hbalance
    omega
  | moveConstructed handle source value hnone hvalue =>
    have hholders := holders_update st.handles handle (some ⟨value.impl⟩) impl
    rw [hnone, pointsTo_none] at hholders
    have hsource : pointsTo (st.handles source) impl = pointsTo (some ⟨value.impl⟩) impl :=
      congrArg (pointsTo · impl) hvalue
    simp only [recordMoves]
    dsimp only at hbalance
    omega
  | moveAssigned handle source before value hbefore hvalue =>
    have hholders := holders_update st.handles handle (some ⟨value.impl⟩) impl
    have hsource : pointsTo (st.handles source) impl = pointsTo (some ⟨value.impl⟩) impl :=
      congrArg (pointsTo · impl) hvalue
    simp only [recordMoves]
    dsimp only at hbalance
    omega
  | destroyed handle value hvalue =>
    have hholders := holders_update st.handles handle none impl
    rw [pointsTo_none, hvalue] at hholders
    simp only [recordMoves, delete_apply]
    dsimp only at hbalance
    omega

/-- In every run, moves included, every implementation is accounted for. When no handle is left, one that
was created has been deleted exactly once if as many of its handles were overwritten as it was copied,
never if one more was overwritten, and more than once if it was copied more often. -/
theorem handles_ledger {events : List (HandleEvent ι)} {st : Handles ι} {moved : Moved}
    (hrun : Runs.run (Runs.recorded step recordMoves) (start, ⟨fun _ => 0, fun _ => 0⟩) events =
      some (st, moved)) :
    Balanced (st, moved) ∧
      ((∀ handle, st.handles handle = none) → ∀ impl < st.created,
        (st.deletions impl = 1 ↔ moved.copied impl = moved.overwritten impl) ∧
          (st.deletions impl = 0 ↔ moved.overwritten impl = moved.copied impl + 1) ∧
            (1 < st.deletions impl ↔ moved.overwritten impl < moved.copied impl)) := by
  have hstart : Balanced ((start, ⟨fun _ => 0, fun _ => 0⟩) : Handles ι × Moved) := by
    intro impl
    have hholders : holders (start : Handles ι).handles impl = 0 := Finset.sum_const_zero
    change 0 + holders (start : Handles ι).handles impl + 0 = (if impl < 0 then 1 else 0) + 0
    rw [hholders, if_neg (Nat.not_lt_zero impl)]
  have hbalanced := Runs.run_invariant balanced_step hstart hrun
  refine ⟨hbalanced, fun hnone impl himpl => ?_⟩
  have hbalance := hbalanced impl
  have hholders : holders st.handles impl = 0 := by
    refine Finset.sum_eq_zero fun handle _ => ?_
    rw [hnone handle, pointsTo_none]
  dsimp only at hbalance
  rw [hholders, if_pos himpl] at hbalance
  omega

/-- A handle is moved into another one that holds an implementation of its own, and both are destroyed:
the first implementation is deleted twice, the second one never. -/
theorem handles_ledger_moved :
    ∃ (st : Handles Bool) (moved : Moved),
      Runs.run (Runs.recorded step recordMoves) (start, ⟨fun _ => 0, fun _ => 0⟩)
        [.construct false, .construct true, .moveAssign true false, .destroy false, .destroy true] =
          some (st, moved) ∧ 1 < st.deletions 0 ∧ st.deletions 1 = 0 := by
  have hrun : Runs.run (Runs.recorded step recordMoves)
      ((start : Handles Bool), ⟨fun _ => 0, fun _ => 0⟩)
      [.construct false, .construct true, .moveAssign true false, .destroy false, .destroy true] =
        some (_, _) := rfl
  have hledger := (handles_ledger hrun).2 (by decide)
  exact ⟨_, _, hrun, (hledger 0 (by decide)).2.2.mpr (by decide),
    (hledger 1 (by decide)).2.1.mpr (by decide)⟩

end ScxManager.Handles
