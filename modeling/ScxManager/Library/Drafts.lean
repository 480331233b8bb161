import ScxManager.Library.Runs

/-!
# A stored value and a draft of it

One process at a time loads a stored value, works on its draft of it, and now and then saves the draft
whole. A save that fails may spoil what is stored. The process may end at any time, and its draft with
it. Work that is not saved is lost then, and work that is saved later is as good as saved at once; so is
what was spoilt and saved later by the same process. If nothing stays spoilt, the events alone tell what
is stored: it is what was stored at first, changed in order by the operations after which the same
process saved.
-/

namespace Drafts

universe u v

variable {V : Type u} {Op : Type v}

/-- What is stored, if it can be read, and the draft of the process, if there is one. -/
structure Draft (V : Type u) where
  stored : Option V
  draft : Option V

/-- A process begins, works on its draft, works on it and saves it, works on it and spoils what is stored,
or ends. -/
inductive Event (V : Type u) (Op : Type v) where
  | load
  | work (op : Op)
  | save (op : Op)
  | spoil (op : Op) (left : Option V)
  | drop

/-- Without a draft there is nothing to work on, and none is made of what cannot be read. -/
def step (act : V → Op → V) (st : Draft V) : Event V Op → Option (Draft V)
  | .load => some { st with draft := st.stored }
  | .work op => st.draft.map fun value => { st with draft := some (act value op) }
  | .save op => st.draft.map fun value => ⟨some (act value op), some (act value op)⟩
  | .spoil op left => st.draft.map fun value => ⟨left, some (act value op)⟩
  | .drop => some { st with draft := none }

/-- The process saves before it ends. -/
def saves : List (Event V Op) → Bool
  | [] => false
  | .load :: _ => false
  | .work _ :: rest => saves rest
  | .save _ :: _ => true
  | .spoil _ _ :: rest => saves rest
  | .drop :: _ => false

/-- The operations that are saved, at once or later by the same process. -/
def durable : List (Event V Op) → List Op
  | [] => []
  | .load :: rest => durable rest
  | .work op :: rest => if saves rest then op :: durable rest else durable rest
  | .save op :: rest => op :: durable rest
  | .spoil op _ :: rest => if saves rest then op :: durable rest else durable rest
  | .drop :: rest => durable rest

/-- One more event after the operations that the process has not saved so far. -/
def stillUnsaved (ops : List Op) : Event V Op → List Op
  | .load => []
  | .work op => ops ++ [op]
  | .save _ => []
  | .spoil op _ => ops ++ [op]
  | .drop => []

/-- The operations that the process at the end has not saved. -/
def unsaved (events : List (Event V Op)) : List Op := events.foldl stillUnsaved []

/-- Whether an event spoils what is stored. -/
def Event.spoils : Event V Op → Bool
  | .spoil _ _ => true
  | _ => false

/-- Whether an event is work on the draft that it does not save. -/
def Event.leavesUnsaved : Event V Op → Bool
  | .work _ => true
  | .spoil _ _ => true
  | _ => false

/-- The same process saves after each event of some kind. -/
def SavedAfter (kind : Event V Op → Bool) (events : List (Event V Op)) : Prop :=
  ∀ before event rest, events = before ++ event :: rest → kind event = true → saves rest = true

/-- What a process spoils it saves later. -/
def EachRepaired (events : List (Event V Op)) : Prop := SavedAfter Event.spoils events

/-- What a process does not save at once it saves later. -/
def EachSaved (events : List (Event V Op)) : Prop := SavedAfter Event.leavesUnsaved events

/-- Nothing is to be saved after no events. -/
theorem savedAfter_nil (kind : Event V Op → Bool) : SavedAfter kind [] :=
  fun before event rest h => by simp at h

/-- The first event is followed by a save, if it is of the kind, and so are the later ones. -/
theorem savedAfter_cons {kind : Event V Op → Bool} {event : Event V Op} {rest : List (Event V Op)} :
    SavedAfter kind (event :: rest) ↔
      (kind event = true → saves rest = true) ∧ SavedAfter kind rest := by
  constructor
  · intro h
    refine ⟨h [] event rest rfl, ?_⟩
    rintro before event' later rfl
    exact h (event :: before) event' later rfl
  · rintro ⟨hfirst, hrest⟩ before event' later hsplit
    cases before with
    | nil =>
      obtain ⟨rfl, rfl⟩ := List.cons.inj hsplit
      exact hfirst
    | cons first before => exact hrest before event' later (List.cons.inj hsplit).2

/-- Where nothing stays spoilt, what is stored after a run is what was stored at first, or the draft at
first if its process still saves it, changed by the operations that are saved. -/
theorem stored_of_run {act : V → Op → V} {st st' : Draft V} {events : List (Event V Op)}
    (hrepaired : EachRepaired events) (hrun : Runs.run (step act) st events = some st') :
    st'.stored = (if saves events then st.draft.or st.stored else st.stored).map fun value =>
      (durable events).foldl act value := by
  induction events generalizing st with
  | nil =>
    obtain rfl : st = st' := Option.some.inj hrun
    simp [saves, durable]
  | cons event rest ih =>
    obtain ⟨hfirst, hlater⟩ := savedAfter_cons.mp hrepaired
    obtain ⟨s, hs, hrest⟩ := Runs.run_cons_eq_some.mp hrun
    have hstored := ih hlater hrest
    cases event with
    | load =>
      obtain rfl : { st with draft := st.stored } = s := Option.some.inj hs
      simpa [durable, saves] using hstored
    | drop =>
      obtain rfl : { st with draft := none } = s := Option.some.inj hs
      simpa [durable, saves] using hstored
    | work op =>
      obtain ⟨value, hvalue, rfl⟩ := Option.map_eq_some_iff.mp hs
      rw [hstored, hvalue]
      by_cases hsaves : saves rest = true
      · simp [durable, saves, hsaves]
      · simp [durable, saves, hsaves]
    | save op =>
      obtain ⟨value, hvalue, rfl⟩ := Option.map_eq_some_iff.mp hs
      rw [hstored, hvalue]
      simp [durable, saves]
    | spoil op left =>
      obtain ⟨value, hvalue, rfl⟩ := Option.map_eq_some_iff.mp hs
      have hsaves : saves rest = true := hfirst rfl
      rw [hstored, hvalue]
      simp [durable, saves, hsaves]

/-- One more event after the process has spoilt what is stored or not. -/
def stillSpoilt (spoilt : Bool) : Event V Op → Bool
  | .work _ => spoilt
  | .spoil _ _ => true
  | _ => false

/-- A process that has not spoilt what is stored holds that, changed by operations that it has not
saved. -/
def Holds (act : V → Op → V) (st : Draft V) (a : List Op × Bool) : Prop :=
  a.2 = false → ∀ value, st.draft = some value →
    ∃ base, st.stored = some base ∧ value = a.1.foldl act base

/-- One more event after what the process has not saved and whether it has spoilt what is stored. -/
def stillHeld (a : List Op × Bool) (event : Event V Op) : List Op × Bool :=
  (stillUnsaved a.1 event, stillSpoilt a.2 event)

/-- Every event keeps what the process holds so. -/
theorem holds_step {act : V → Op → V} {st st' : Draft V} {event : Event V Op} {a : List Op × Bool}
    (hst : Holds act st a) (hstep : step act st event = some st') :
    Holds act st' (stillHeld a event) := by
  intro hspoilt value hvalue
  cases event with
  | load =>
    obtain rfl : { st with draft := st.stored } = st' := Option.some.inj hstep
    exact ⟨value, hvalue, rfl⟩
  | work op =>
    obtain ⟨held, hheld, rfl⟩ := Option.map_eq_some_iff.mp hstep
    obtain rfl := Option.some.inj hvalue
    obtain ⟨base, hbase, rfl⟩ := hst hspoilt held hheld
    refine ⟨base, hbase, ?_⟩
    rw [stillHeld, stillUnsaved, List.foldl_append]
    rfl
  | save op =>
    obtain ⟨held, -, rfl⟩ := Option.map_eq_some_iff.mp hstep
    exact ⟨value, hvalue, rfl⟩
  | spoil op left => cases hspoilt
  | drop =>
    obtain rfl : { st with draft := none } = st' := Option.some.inj hstep
    cases hvalue

/-- The two parts of what is recorded go their own ways. -/
theorem foldl_stillHeld (events : List (Event V Op)) (a : List Op × Bool) :
    events.foldl stillHeld a = (events.foldl stillUnsaved a.1, events.foldl stillSpoilt a.2) := by
  induction events generalizing a with
  | nil => rfl
  | cons event rest ih => exact ih (stillHeld a event)

/-- Where nothing stays spoilt, the process at the end has not left it so either. -/
theorem foldl_stillSpoilt {events : List (Event V Op)} (hrepaired : EachRepaired events) {spoilt : Bool}
    (h : spoilt = true → saves events = true) : events.foldl stillSpoilt spoilt = false := by
  induction events generalizing spoilt with
  | nil =>
    cases spoilt with
    | false => rfl
    | true => cases h rfl
  | cons event rest ih =>
    obtain ⟨hfirst, hlater⟩ := savedAfter_cons.mp hrepaired
    cases event with
    | work op => exact ih hlater h
    | spoil op left => exact ih hlater fun _ => hfirst rfl
    | _ => exact ih hlater fun hspoilt => by cases hspoilt

/-- Where nothing stays spoilt, a process holds what is stored, changed by the operations that it has not
saved. -/
theorem draft_of_run {act : V → Op → V} {st st' : Draft V} {events : List (Event V Op)}
    (hrepaired : EachRepaired events) (hdraft : st.draft = none)
    (hrun : Runs.run (step act) st events = some st') {value : V} (hvalue : st'.draft = some value) :
    ∃ base, st'.stored = some base ∧ value = (unsaved events).foldl act base := by
  have hstart : Holds act st ([], false) := by
    intro _ value hvalue
    rw [hdraft] at hvalue
    cases hvalue
  have hend := Runs.run_simulates (fun _ _ _ _ hs hs' => holds_step hs hs') hstart hrun
  rw [foldl_stillHeld] at hend
  exact hend (foldl_stillSpoilt hrepaired fun h => by cases h) value hvalue

/-- The operations of some events. -/
def ops : List (Event V Op) → List Op :=
  List.filterMap fun
    | .work op => some op
    | .save op => some op
    | .spoil op _ => some op
    | _ => none

/-- What is saved are some of the operations, in order. -/
theorem durable_sublist (events : List (Event V Op)) : (durable events).Sublist (ops events) := by
  induction events with
  | nil => exact List.Sublist.slnil
  | cons event rest ih =>
    cases event with
    | load => exact ih
    | drop => exact ih
    | save op => exact ih.cons_cons op
    | work op =>
      unfold durable
      split
      · exact ih.cons_cons op
      · exact ih.cons op
    | spoil op left =>
      unfold durable
      split
      · exact ih.cons_cons op
      · exact ih.cons op

/-- An operation is missing at the end if it is left out of what is saved. -/
theorem durable_ne_ops_cons {events rest : List (Event V Op)} {op : Op}
    (hdurable : durable events = durable rest) (hops : ops events = op :: ops rest) :
    durable events ≠ ops events := by
  intro h
  have hlength := congrArg List.length h
  rw [hdurable, hops, List.length_cons] at hlength
  have hle := (durable_sublist rest).length_le
  omega

/-- All operations are saved exactly if each is, at once or later by the same process. -/
theorem durable_eq_ops_iff (events : List (Event V Op)) :
    durable events = ops events ↔ EachSaved events := by
  induction events with
  | nil => exact iff_of_true rfl (savedAfter_nil _)
  | cons event rest ih =>
    unfold EachSaved at ih ⊢
    rw [savedAfter_cons, ← ih]
    have hsaved {op : Op} (hdurable : durable (event :: rest) = op :: durable rest)
        (hops : ops (event :: rest) = op :: ops rest) :
        durable (event :: rest) = ops (event :: rest) ↔ durable rest = ops rest := by
      rw [hdurable, hops]
      exact ⟨fun h => (List.cons.inj h).2, fun h => congrArg (op :: ·) h⟩
    -- work is saved if there is a save after it, and missing if not
    have hworked {op : Op}
        (hdurable : durable (event :: rest) = if saves rest then op :: durable rest else durable rest)
        (hops : ops (event :: rest) = op :: ops rest) :
        durable (event :: rest) = ops (event :: rest) ↔
          (true = true → saves rest = true) ∧ durable rest = ops rest := by
      by_cases hsaves : saves rest = true
      · rw [if_pos hsaves] at hdurable
        rw [and_iff_right fun _ => hsaves]
        exact hsaved hdurable hops
      · rw [if_neg hsaves] at hdurable
        exact iff_of_false (durable_ne_ops_cons hdurable hops) fun h => hsaves (h.1 rfl)
    cases event with
    | load => exact (and_iff_right fun h => by cases h).symm
    | drop => exact (and_iff_right fun h => by cases h).symm
    | save op => exact (hsaved rfl rfl).trans (and_iff_right fun h => by cases h).symm
    | work op => exact hworked rfl rfl
    | spoil op left => exact hworked rfl rfl

end Drafts
