import ScxManager.Handles

/-!
# Calls through handles

The methods of a handle forward to the implementation it points to, whatever state that is in. As long
as no handle is moved into another one, a handle behaves like a window of its own: a call comes to a
live implementation, and no other handle sees anything of it. As in `Handles`, no parent deletes an
implementation.
-/

namespace ScxManager

variable {ι W M : Type}

/-- The handles, and the state of every implementation that was created. -/
structure Facade (ι W : Type) where
  owners : Handles ι
  impls : ℕ → W

/-- Something happens to a handle, or one of its methods is called. -/
inductive FacadeEvent (ι M : Type) where
  | life (event : HandleEvent ι)
  | call (handle : ι) (method : M)

/-- An event takes what one handle points to into another one. -/
def FacadeEvent.Moves : FacadeEvent ι M → Prop
  | .life event => event.Moves
  | .call _ _ => False

variable [DecidableEq ι]

/-- A constructor makes an implementation in its first state. A method that is forwarded through a null
pointer, or to an implementation that was deleted, leaves no defined state. -/
def Facade.step (init : W) (act : W → M → W) (st : Facade ι W) :
    FacadeEvent ι M → Option (Facade ι W)
  | .life event =>
    (st.owners.step event).map fun owners =>
      { owners
        impls := match event with
          | .construct _ => Function.update st.impls st.owners.created init
          | _ => st.impls }
  | .call handle method =>
    match st.owners.handles handle with
    | some ⟨some impl⟩ =>
      if st.owners.deletions impl = 0 then
        some { st with impls := Function.update st.impls impl (act (st.impls impl) method) }
      else none
    | _ => none

/-- Windows that are used directly, each by its own name. -/
def directStep (init : W) (act : W → M → W) (windows : ι → Option W) :
    FacadeEvent ι M → Option (ι → Option W)
  | .life (.construct name) =>
    match windows name with
    | some _ => none
    | none => some (Function.update windows name (some init))
  | .life (.moveConstruct _ _) => none
  | .life (.moveAssign name source) =>
    if name = source then (windows name).map fun _ => windows else none
  | .life (.destroy name) => (windows name).map fun _ => Function.update windows name none
  | .call name method =>
    (windows name).map fun window => Function.update windows name (some (act window method))

namespace Facade

/-- The window behind each handle. -/
def view (st : Facade ι W) (handle : ι) : Option W :=
  (st.owners.handles handle).bind fun value => value.impl.map st.impls

omit [DecidableEq ι] in
/-- Where no handle is alive, there is no window. -/
theorem view_of_none {st : Facade ι W} {handle : ι} (h : st.owners.handles handle = none) :
    st.view handle = none := by
  unfold view
  rw [h]
  rfl

omit [DecidableEq ι] in
/-- The window behind a handle is the implementation it holds. -/
theorem view_of_holds {st : Facade ι W} {handle : ι} {impl : ℕ}
    (h : Handles.Holds st.owners.handles handle impl) : st.view handle = some (st.impls impl) := by
  unfold view
  rw [h]
  rfl

/-- A new handle has a window in its first state, and the others keep theirs. -/
theorem view_construct {st : Facade ι W} (h : st.owners.Owned) (init : W) (handle : ι) :
    view
      { owners :=
          { st.owners with
            handles := Function.update st.owners.handles handle (some ⟨some st.owners.created⟩)
            created := st.owners.created + 1 }
        impls := Function.update st.impls st.owners.created init } =
      Function.update st.view handle (some init) := by
  funext other
  by_cases hother : other = handle
  · subst hother
    rw [Function.update_self]
    unfold view
    dsimp only
    rw [Function.update_self]
    exact congrArg some (Function.update_self _ _ _)
  · rw [Function.update_of_ne hother]
    unfold view
    dsimp only
    rw [Function.update_of_ne hother]
    cases hvalue : st.owners.handles other with
    | none => rfl
    | some value =>
      obtain ⟨impl, rfl, hholds⟩ := h.holds_of_eq hvalue
      have hne : impl ≠ st.owners.created := Nat.ne_of_lt (h.created other impl hholds)
      exact congrArg some (Function.update_of_ne hne _ _)

/-- Without its handle a window is gone, and the others stay. -/
theorem view_destroy (st : Facade ι W) (handle : ι) (deletions : ℕ → ℕ) :
    view
      { owners :=
          { st.owners with
            handles := Function.update st.owners.handles handle none
            deletions := deletions }
        impls := st.impls } =
      Function.update st.view handle none := by
  funext other
  by_cases hother : other = handle
  · subst hother
    rw [Function.update_self]
    exact view_of_none (Function.update_self _ _ _)
  · rw [Function.update_of_ne hother]
    unfold view
    dsimp only
    rw [Function.update_of_ne hother]

/-- A call changes the window behind its handle only. -/
theorem view_call {st : Facade ι W} (h : st.owners.Owned) {handle : ι} {impl : ℕ}
    (hholds : Handles.Holds st.owners.handles handle impl) (window : W) :
    view { st with impls := Function.update st.impls impl window } =
      Function.update st.view handle (some window) := by
  funext other
  by_cases hother : other = handle
  · subst hother
    have hvalue : st.owners.handles other = some ⟨some impl⟩ := hholds
    rw [Function.update_self]
    unfold view
    dsimp only
    rw [hvalue]
    exact congrArg some (Function.update_self _ _ _)
  · rw [Function.update_of_ne hother]
    unfold view
    dsimp only
    cases hvalue : st.owners.handles other with
    | none => rfl
    | some value =>
      obtain ⟨impl', rfl, hholds'⟩ := h.holds_of_eq hvalue
      have hne : impl' ≠ impl := by
        intro heq
        rw [heq] at hholds'
        exact hother (h.distinct _ _ _ hholds' hholds)
      exact congrArg some (Function.update_of_ne hne _ _)

/-- What does not move does to the windows behind the handles what it does to windows used directly. -/
theorem step_view (init : W) (act : W → M → W) {st : Facade ι W} {event : FacadeEvent ι M}
    (h : st.owners.Owned) (hmoves : ¬ event.Moves) :
    (st.step init act event).map view = directStep init act st.view event := by
  cases event with
  | call handle method =>
    unfold step directStep
    dsimp only
    cases hvalue : st.owners.handles handle with
    | none =>
      rw [view_of_none hvalue]
      rfl
    | some value =>
      obtain ⟨impl, rfl, hholds⟩ := h.holds_of_eq hvalue
      rw [view_of_holds hholds]
      dsimp only
      rw [if_pos (h.notDeleted handle impl hholds)]
      exact congrArg some (view_call h hholds _)
  | life event =>
    unfold step directStep
    cases event with
    | construct handle =>
      simp only [Handles.step]
      cases hvalue : st.owners.handles handle with
      | none =>
        rw [view_of_none hvalue]
        exact congrArg some (view_construct h init handle)
      | some value =>
        obtain ⟨impl, rfl, hholds⟩ := h.holds_of_eq hvalue
        rw [view_of_holds hholds]
        rfl
    | moveConstruct handle source => exact absurd trivial hmoves
    | moveAssign handle source =>
      obtain rfl : handle = source := not_not.mp hmoves
      simp only [Handles.step]
      cases hvalue : st.owners.handles handle with
      | none =>
        rw [view_of_none hvalue]
        rfl
      | some value =>
        obtain ⟨impl, rfl, hholds⟩ := h.holds_of_eq hvalue
        have hself : Function.update st.owners.handles handle (some ⟨some impl⟩) =
            st.owners.handles := by
          rw [← hvalue, Function.update_eq_self]
        rw [view_of_holds hholds]
        dsimp only
        rw [hself]
        rfl
    | destroy handle =>
      simp only [Handles.step]
      cases hvalue : st.owners.handles handle with
      | none =>
        rw [view_of_none hvalue]
        rfl
      | some value =>
        obtain ⟨impl, rfl, hholds⟩ := h.holds_of_eq hvalue
        rw [view_of_holds hholds]
        exact congrArg some (view_destroy st handle _)

/-- What does not move keeps every implementation owned. -/
theorem owned_step {init : W} {act : W → M → W} {st st' : Facade ι W} {event : FacadeEvent ι M}
    (h : st.owners.Owned) (hmoves : ¬ event.Moves) (hstep : st.step init act event = some st') :
    st'.owners.Owned := by
  cases event with
  | life event =>
    obtain ⟨owners, howners, rfl⟩ := Option.map_eq_some_iff.mp hstep
    exact Handles.owned_step h hmoves howners
  | call handle method =>
    unfold step at hstep
    dsimp only at hstep
    split at hstep
    next impl hvalue =>
      by_cases hlive : st.owners.deletions impl = 0
      · rw [if_pos hlive] at hstep
        obtain rfl := Option.some.inj hstep
        exact h
      · rw [if_neg hlive] at hstep
        cases hstep
    next => cases hstep

/-- In every run without a move from one handle into another, the windows behind the handles are what
windows used directly would be, and the run of one goes through exactly if that of the other does. -/
theorem facade_run_eq (init : W) (act : W → M → W) (impls : ℕ → W)
    {events : List (FacadeEvent ι M)} (hmoves : ∀ event ∈ events, ¬ event.Moves) :
    (Runs.run (step init act) ⟨Handles.start, impls⟩ events).map view =
      Runs.run (directStep init act) (fun _ => none) events :=
  Runs.run_map_of_invariant (I := fun st : Facade ι W => st.owners.Owned)
    (fun _ _ _ h hmoves hstep => owned_step h hmoves hstep)
    (fun _ _ h hmoves => step_view init act h hmoves) Handles.owned_start hmoves

/-- Of two windows one is shown and the other one destroyed. -/
theorem facade_run_eq_two :
    ∃ st : Facade ℕ Bool, Runs.run (step false fun _ (shown : Bool) => shown)
        ⟨Handles.start, fun _ => false⟩
        [.life (.construct 0), .life (.construct 1), .call 1 true, .life (.destroy 0)] = some st ∧
      st.view 0 = none ∧ st.view 1 = some true := by
  have hdirect : Runs.run (directStep false fun _ (shown : Bool) => shown) (fun _ : ℕ => none)
      [.life (.construct 0), .life (.construct 1), .call 1 true, .life (.destroy 0)] =
        some _ := rfl
  have hmoves : ∀ event ∈ ([.life (.construct 0), .life (.construct 1), .call 1 true,
      .life (.destroy 0)] : List (FacadeEvent ℕ Bool)), ¬ event.Moves := by
    simp [FacadeEvent.Moves, HandleEvent.Moves]
  have hrun := (facade_run_eq false (fun _ shown => shown) (fun _ => false) hmoves).trans hdirect
  obtain ⟨st, hst, hview⟩ := Option.map_eq_some_iff.mp hrun
  exact ⟨st, hst, congrFun hview 0, congrFun hview 1⟩

/-- A handle is moved into a new one and destroyed: a call through the new one comes to an
implementation that was deleted. -/
example : (Runs.run (step false fun _ (shown : Bool) => shown) ⟨Handles.start, fun _ => false⟩
    [.life (.construct 0), .life (.moveConstruct 1 0), .life (.destroy 0), .call 1 true]).isNone := by
  decide

end Facade

end ScxManager
