import Mathlib.Tactic.Common

/-!
# Runs of a deterministic system driven by events

A system reads one event at a time. A step that yields no state ends the run: what was to
follow does not happen. Invariants, simulations and conditions on every step of a run are
reduced here to statements about one step.
-/

namespace Runs

universe u v w x

variable {S : Type u} {E : Type v} {A : Type w}

/-- The state after all the events, if every step yields one. -/
def run (step : S → E → Option S) : S → List E → Option S
  | s, [] => some s
  | s, e :: rest => (step s e).bind fun s' => run step s' rest

/-- The predicate holds at every state the run passes, the first one included. -/
def AllStates (step : S → E → Option S) (Q : S → Prop) : S → List E → Prop
  | s, [] => Q s
  | s, e :: rest => Q s ∧ ∀ s', step s e = some s' → AllStates step Q s' rest

/-- The predicate holds of every event of the run and the state in which it arrives. -/
def AllSteps (step : S → E → Option S) (P : S → E → Prop) : S → List E → Prop
  | _, [] => True
  | s, e :: rest => P s e ∧ ∀ s', step s e = some s' → AllSteps step P s' rest

variable {step : S → E → Option S}

/-- A nonempty run goes through the state after its first event. -/
theorem run_cons_eq_some {s t : S} {e : E} {rest : List E} :
    run step s (e :: rest) = some t ↔ ∃ s', step s e = some s' ∧ run step s' rest = some t :=
  Option.bind_eq_some_iff

/-- A run of steps that always yield a state is a fold. -/
theorem run_eq_foldl (f : S → E → S) (s : S) (events : List E) :
    run (fun s e => some (f s e)) s events = some (events.foldl f s) := by
  induction events generalizing s with
  | nil => rfl
  | cons e rest ih => exact ih (f s e)

/-- What every step preserves holds at the end of every run. -/
theorem run_invariant {I : S → Prop} (hstep : ∀ s e s', I s → step s e = some s' → I s')
    {s t : S} {events : List E} (hs : I s) (hrun : run step s events = some t) : I t := by
  induction events generalizing s with
  | nil => exact Option.some.inj hrun ▸ hs
  | cons e rest ih =>
    obtain ⟨s', hs', hrest⟩ := run_cons_eq_some.mp hrun
    exact ih (hstep s e s' hs hs') hrest

/-- What every step that meets a condition preserves holds at the end of a run of such steps. -/
theorem run_invariant_under {I : S → Prop} {P : S → E → Prop}
    (hstep : ∀ s e s', I s → P s e → step s e = some s' → I s') {s t : S} {events : List E}
    (hs : I s) (hP : AllSteps step P s events) (hrun : run step s events = some t) : I t := by
  induction events generalizing s with
  | nil => exact Option.some.inj hrun ▸ hs
  | cons e rest ih =>
    obtain ⟨s', hs', hrest⟩ := run_cons_eq_some.mp hrun
    exact ih (hstep s e s' hs hP.1 hs') (hP.2 s' hs') hrest

/-- A run of two pieces is a run of the first one and from its end one of the second one. -/
theorem run_append (s : S) (first rest : List E) :
    run step s (first ++ rest) = (run step s first).bind fun t => run step t rest := by
  induction first generalizing s with
  | nil => rfl
  | cons e first ih =>
    change (step s e).bind (fun s' => run step s' (first ++ rest)) = _
    simp only [ih]
    exact (Option.bind_assoc _ _ _).symm

/-- A run of two pieces goes through the state between them. -/
theorem run_append_eq_some {s t : S} {first rest : List E} :
    run step s (first ++ rest) = some t ↔
      ∃ s', run step s first = some s' ∧ run step s' rest = some t := by
  rw [run_append]
  exact Option.bind_eq_some_iff

/-- A latch: where under an invariant a step leaves a property true if it was before or if its event is
of some kind, a run leaves it true if it was at first or if any of its events is of that kind. -/
theorem run_latch {I K : S → Prop} {P : E → Prop}
    (hinv : ∀ s e s', I s → step s e = some s' → I s')
    (hstep : ∀ s e s', I s → step s e = some s' → (K s' ↔ K s ∨ P e)) {s t : S}
    {events : List E} (hs : I s) (hrun : run step s events = some t) :
    K t ↔ K s ∨ ∃ e ∈ events, P e := by
  induction events generalizing s with
  | nil =>
    obtain rfl : s = t := Option.some.inj hrun
    simp
  | cons e rest ih =>
    obtain ⟨s', hs', hrest⟩ := run_cons_eq_some.mp hrun
    rw [ih (hinv s e s' hs hs') hrest, hstep s e s' hs hs', or_assoc]
    simp

/-- A total abstract system that every step follows is followed by every run. -/
theorem run_simulates {R : S → A → Prop} {abstractStep : A → E → A}
    (hstep : ∀ s a e s', R s a → step s e = some s' → R s' (abstractStep a e))
    {s t : S} {a : A} {events : List E} (hs : R s a) (hrun : run step s events = some t) :
    R t (events.foldl abstractStep a) := by
  induction events generalizing s a with
  | nil => exact Option.some.inj hrun ▸ hs
  | cons e rest ih =>
    obtain ⟨s', hs', hrest⟩ := run_cons_eq_some.mp hrun
    exact ih (hstep s a e s' hs hs') hrest

/-- If a map of the states takes every step of a system to one of another system, or to none where there
is none, under an invariant and for events of some kind, then it does so with runs of such events. -/
theorem run_map_of_invariant {S' : Type x} {step' : S' → E → Option S'} {f : S → S'} {I : S → Prop}
    {P : E → Prop} (hinv : ∀ s e s', I s → P e → step s e = some s' → I s')
    (hstep : ∀ s e, I s → P e → (step s e).map f = step' (f s) e) {s : S} {events : List E} (hs : I s)
    (hP : ∀ e ∈ events, P e) : (run step s events).map f = run step' (f s) events := by
  induction events generalizing s with
  | nil => rfl
  | cons e rest ih =>
    rw [List.forall_mem_cons] at hP
    change ((step s e).bind fun s' => run step s' rest).map f =
      (step' (f s) e).bind fun s' => run step' s' rest
    rw [← hstep s e hs hP.1]
    cases hs' : step s e with
    | none => rfl
    | some s' => exact ih (hinv s e s' hs hP.1 hs') hP.2

/-- The last write wins: where every step leaves a register at what its event writes, if it
writes at all, a run leaves it at the last value written, if any was. -/
theorem run_last_write {V : Type x} {f : S → V} {write : E → Option V}
    (hstep : ∀ s e s', step s e = some s' → f s' = (write e).getD (f s))
    {s t : S} {events : List E} (hrun : run step s events = some t) :
    f t = (events.filterMap write).getLast?.getD (f s) := by
  induction events generalizing s with
  | nil =>
    obtain rfl : s = t := Option.some.inj hrun
    rfl
  | cons e rest ih =>
    obtain ⟨s', hs', hrest⟩ := run_cons_eq_some.mp hrun
    rw [ih hrest, hstep s e s' hs', List.filterMap_cons]
    cases hwrite : write e with
    | none => rfl
    | some value =>
      cases hlater : rest.filterMap write with
      | nil => rfl
      | cons later laters => simp [List.getLast?_cons]

/-- The last write wins in a fold too, also where what is written is made from the arguments of an
event. -/
theorem foldl_last_write {V : Type x} {W : Type u} {f : S → V} {args : E → Option W} {write : W → V}
    {apply : S → E → S} (hstep : ∀ s e, f (apply s e) = ((args e).map write).getD (f s)) (s : S)
    (events : List E) :
    f (events.foldl apply s) = ((events.filterMap args).getLast?.map write).getD (f s) := by
  have hsome : ∀ s e s', some (apply s e) = some s' → f s' = ((args e).map write).getD (f s) := by
    intro s e s' h
    rw [← Option.some.inj h]
    exact hstep s e
  rw [run_last_write hsome (run_eq_foldl apply s events), ← List.getLast?_map, List.map_filterMap]

/-- Conditions that agree at every state satisfying an invariant agree along every run. -/
theorem allSteps_congr {I : S → Prop} {P P' : S → E → Prop}
    (hstep : ∀ s e s', I s → step s e = some s' → I s')
    (h : ∀ s e, I s → (P s e ↔ P' s e)) {s : S} (hs : I s) (events : List E) :
    AllSteps step P s events ↔ AllSteps step P' s events := by
  induction events generalizing s with
  | nil => exact Iff.rfl
  | cons e rest ih =>
    refine and_congr (h s e hs) (forall_congr' fun s' => ?_)
    exact forall_congr' fun hs' => ih (hstep s e s' hs hs')

/-- A property of all states holds of the first one. -/
theorem AllStates.head {Q : S → Prop} {s : S} {events : List E} (h : AllStates step Q s events) :
    Q s := by
  cases events with
  | nil => exact h
  | cons e rest => exact h.1

/-- If a stronger invariant is kept by the steps that meet a condition, and a property that follows
from it is lost by the others, then the property holds all along a run exactly when every step of the
run meets the condition. -/
theorem allStates_iff_allSteps_of_invariant {I Q : S → Prop} {P : S → E → Prop}
    (hI : ∀ s, I s → Q s) (hkept : ∀ s e s', I s → P s e → step s e = some s' → I s')
    (hlost : ∀ s e, I s → (∀ s', step s e = some s' → Q s') → P s e) {s : S} (hs : I s)
    (events : List E) : AllStates step Q s events ↔ AllSteps step P s events := by
  induction events generalizing s with
  | nil => exact iff_of_true (hI s hs) trivial
  | cons e rest ih =>
    constructor
    · intro h
      have hP : P s e := hlost s e hs fun s' hs' => (h.2 s' hs').head
      exact ⟨hP, fun s' hs' => (ih (hkept s e s' hs hP hs')).mp (h.2 s' hs')⟩
    · intro h
      exact ⟨hI s hs, fun s' hs' => (ih (hkept s e s' hs h.1 hs')).mpr (h.2 s' hs')⟩

/-- If at every state satisfying an invariant a step keeps the property exactly under a condition,
then the property holds all along a run exactly when it holds at the start and every step of the
run meets the condition. -/
theorem allStates_iff_allSteps {I Q : S → Prop} {P : S → E → Prop}
    (hinv : ∀ s e s', I s → step s e = some s' → I s')
    (hstep : ∀ s e, I s → Q s → ((∀ s', step s e = some s' → Q s') ↔ P s e)) {s : S} (hs : I s)
    (events : List E) : AllStates step Q s events ↔ Q s ∧ AllSteps step P s events := by
  have hkept : ∀ s e s', I s ∧ Q s → P s e → step s e = some s' → I s' ∧ Q s' := by
    intro s e s' h hP hs'
    exact ⟨hinv s e s' h.1 hs', (hstep s e h.1 h.2).mpr hP s' hs'⟩
  have hlost : ∀ s e, I s ∧ Q s → (∀ s', step s e = some s' → Q s') → P s e := by
    intro s e h hnext
    exact (hstep s e h.1 h.2).mp hnext
  have hfrom (hQ : Q s) : AllStates step Q s events ↔ AllSteps step P s events :=
    allStates_iff_allSteps_of_invariant (fun _ => And.right) hkept hlost ⟨hs, hQ⟩ events
  constructor
  · intro h
    exact ⟨h.head, (hfrom h.head).mp h⟩
  · intro h
    exact (hfrom h.1).mpr h.2

/-- In a run that goes through, a condition on the events alone is met by every step exactly if it is
met by every event. -/
theorem allSteps_iff_forall_mem {P : E → Prop} {s t : S} {events : List E}
    (hrun : run step s events = some t) :
    AllSteps step (fun s e => ∀ s', step s e = some s' → P e) s events ↔ ∀ e ∈ events, P e := by
  induction events generalizing s with
  | nil => exact iff_of_true trivial (List.forall_mem_nil _)
  | cons e rest ih =>
    obtain ⟨s', hs', hrest⟩ := run_cons_eq_some.mp hrun
    rw [List.forall_mem_cons, ← ih hrest]
    constructor
    · intro h
      exact ⟨h.1 s' hs', h.2 s' hs'⟩
    · intro h
      refine ⟨fun _ _ => h.1, fun s'' hs'' => ?_⟩
      obtain rfl := Option.some.inj (hs'.symm.trans hs'')
      exact h.2

section Record

variable {T : Type x} (step : S → E → Option S) (record : S → T → E → T)

/-- The system with a record of what has happened. The record has no influence on the steps. -/
def recorded (st : S × T) (e : E) : Option (S × T) :=
  (step st.1 e).map fun s' => (s', record st.1 st.2 e)

/-- A property of the states alone holds all along a run whether a record is kept or not. -/
theorem allStates_recorded (Q : S → Prop) (s : S) (t : T) (events : List E) :
    AllStates (recorded step record) (fun st => Q st.1) (s, t) events ↔
      AllStates step Q s events := by
  induction events generalizing s t with
  | nil => exact Iff.rfl
  | cons e rest ih =>
    refine and_congr Iff.rfl ?_
    constructor
    · intro h s' hs'
      have hrecorded : recorded step record (s, t) e = some (s', record s t e) := by
        simp [recorded, hs']
      exact (ih s' _).mp (h _ hrecorded)
    · intro h st' hst'
      obtain ⟨s', hs', rfl⟩ := Option.map_eq_some_iff.mp hst'
      exact (ih s' _).mpr (h s' hs')

/-- A run with a record is a run, and the other way round. -/
theorem run_recorded (s : S) (t : T) (events : List E) :
    (run (recorded step record) (s, t) events).map Prod.fst = run step s events := by
  induction events generalizing s t with
  | nil => rfl
  | cons e rest ih =>
    change (((step s e).map fun s' => (s', record s t e)).bind
      fun st => run (recorded step record) st rest).map Prod.fst = (step s e).bind _
    cases step s e with
    | none => rfl
    | some s' => exact ih s' (record s t e)

end Record

/-- If each step of a system takes another one, seen through a map of the states, through some events
of its own, then a run takes it through all of these. -/
theorem run_projects {S' : Type x} {E' : Type u} {step' : S' → E' → Option S'} {f : S → S'}
    {events' : S → E → List E'}
    (hstep : ∀ s e s', step s e = some s' → run step' (f s) (events' s e) = some (f s')) {s t : S}
    {events : List E} {trace : List E'}
    (hrun : run (recorded step fun s trace e => trace ++ events' s e) (s, []) events =
      some (t, trace)) : run step' (f s) trace = some (f t) := by
  refine run_invariant (I := fun st : S × List E' => run step' (f s) st.2 = some (f st.1)) ?_ rfl hrun
  intro st e st' hst hst'
  obtain ⟨s', hs', rfl⟩ := Option.map_eq_some_iff.mp hst'
  exact run_append_eq_some.mpr ⟨f st.1, hst, hstep st.1 e s' hs'⟩

end Runs
