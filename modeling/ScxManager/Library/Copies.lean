import Mathlib.Logic.Function.Basic
import ScxManager.Library.Runs

/-!
# Copies of one stored value

Parties load a stored value once, change their copies, and save them whole. Nobody loads again before a
save, so a save puts back whatever its party has not seen. Where each copy comes from is told by the
same system with lists of operations for values: what it stores is the line of operations that led to
what is stored.
-/

universe u v w x

/-- A stored value and the copies that parties hold of it. -/
structure Copies (ι : Type u) (V : Type v) where
  stored : V
  copy : ι → Option V

/-- A party loads the stored value, or applies an operation to its copy and saves that. -/
inductive CopyEvent (ι : Type u) (Op : Type w) where
  | load (i : ι)
  | save (i : ι) (op : Op)

/-- The operation an event saves. -/
def CopyEvent.saved {ι : Type u} {Op : Type w} : CopyEvent ι Op → Option Op
  | .load _ => none
  | .save _ op => some op

/-- The operation an event saves for a party. -/
def CopyEvent.savedBy {ι : Type u} {Op : Type w} [DecidableEq ι] (i : ι) :
    CopyEvent ι Op → Option Op
  | .load _ => none
  | .save j op => if j = i then some op else none

namespace Copies

variable {ι : Type u} {V : Type v} {Op : Type w} {W : Type x} [DecidableEq ι]

/-- One event. A party without a copy saves nothing. -/
def step (act : V → Op → V) (st : Copies ι V) : CopyEvent ι Op → Copies ι V
  | .load i => { st with copy := Function.update st.copy i (some st.stored) }
  | .save i op =>
    match st.copy i with
    | none => st
    | some value => ⟨act value op, Function.update st.copy i (some (act value op))⟩

/-- A value stored and no copies. -/
def start (value : V) : Copies ι V := ⟨value, fun _ => none⟩

/-- The stored value and the copies through a function. -/
def map (f : V → W) (st : Copies ι V) : Copies ι W := ⟨f st.stored, fun i => (st.copy i).map f⟩

/-- A function that carries the operations over carries a step over. -/
theorem step_map {f : V → W} {act : V → Op → V} {act' : W → Op → W}
    (hact : ∀ value op, f (act value op) = act' (f value) op) (st : Copies ι V)
    (event : CopyEvent ι Op) : (st.map f).step act' event = (st.step act event).map f := by
  have hupdate : ∀ i value, (fun j => (Function.update st.copy i (some value) j).map f) =
      Function.update (fun j => (st.copy j).map f) i (some (f value)) := by
    intro i value
    funext j
    by_cases hji : j = i
    · subst hji
      rw [Function.update_self, Function.update_self]
      rfl
    · rw [Function.update_of_ne hji, Function.update_of_ne hji]
  cases event with
  | load i => simp only [step, map, hupdate]
  | save i op =>
    cases hcopy : st.copy i with
    | none => simp only [step, map, hcopy, Option.map_none]
    | some value => simp only [step, map, hcopy, Option.map_some, hupdate, hact]

/-- A function that carries the operations over carries a run over. -/
theorem foldl_map {f : V → W} {act : V → Op → V} {act' : W → Op → W}
    (hact : ∀ value op, f (act value op) = act' (f value) op) (st : Copies ι V)
    (events : List (CopyEvent ι Op)) :
    events.foldl (step act') (st.map f) = (events.foldl (step act) st).map f := by
  induction events generalizing st with
  | nil => rfl
  | cons event rest ih =>
    rw [List.foldl_cons, List.foldl_cons, step_map hact]
    exact ih (st.step act event)

/-- The lines of operations that led to the stored value and to the copies. -/
def lineages (events : List (CopyEvent ι Op)) : Copies ι (List Op) :=
  events.foldl (step fun ops op => ops ++ [op]) (start [])

/-- The stored value and every copy replay their lines of operations. -/
theorem foldl_start (act : V → Op → V) (value : V) (events : List (CopyEvent ι Op)) :
    events.foldl (step act) (start value) =
      (lineages events).map fun ops => ops.foldl act value := by
  have hact : ∀ (ops : List Op) op,
      (ops ++ [op]).foldl act value = act (ops.foldl act value) op := by
    intro ops op
    rw [List.foldl_append]
    rfl
  exact foldl_map (f := fun ops : List Op => ops.foldl act value) hact (start []) events

/-- The copy a party has after a step is what is stored then, or the one it had. -/
theorem copy_step {act : V → Op → V} {st : Copies ι V} {event : CopyEvent ι Op} {j : ι} {own : V}
    (h : (st.step act event).copy j = some own) :
    own = (st.step act event).stored ∨ st.copy j = some own := by
  cases event with
  | load i =>
    unfold step at h
    dsimp only at h
    by_cases hji : j = i
    · subst hji
      rw [Function.update_self] at h
      exact .inl (Option.some.inj h).symm
    · rw [Function.update_of_ne hji] at h
      exact .inr h
  | save i op =>
    cases hcopy : st.copy i with
    | none =>
      simp only [step, hcopy] at h
      exact .inr h
    | some base =>
      simp only [step, hcopy] at h ⊢
      by_cases hji : j = i
      · subst hji
        rw [Function.update_self] at h
        exact .inl (Option.some.inj h).symm
      · rw [Function.update_of_ne hji] at h
        exact .inr h

/-- If the event saves, it does so on a copy of what is stored. -/
def SavesOnStored (st : Copies ι V) : CopyEvent ι Op → Prop
  | .load _ => True
  | .save i _ => st.copy i = some st.stored

/-- Nothing is missing from what is stored, and every other copy misses something. -/
structure Complete (st : Copies ι (List Op)) (ops : List Op) : Prop where
  stored : st.stored = ops
  copies : ∀ i own, st.copy i = some own → own = ops ∨ own.length < ops.length

/-- What is stored and every copy miss something. -/
structure Short (st : Copies ι (List Op)) (ops : List Op) : Prop where
  stored : st.stored.length < ops.length
  copies : ∀ i own, st.copy i = some own → own.length < ops.length

/-- What is stored after a save has as many operations as the copy it is done on, and one more. -/
theorem length_stored_save {st : Copies ι (List Op)} {i : ι} {op : Op} {bound : ℕ}
    (hstored : st.stored.length < bound + 1)
    (hcopy : ∀ base, st.copy i = some base → base.length < bound) :
    (st.step (fun ops op => ops ++ [op]) (.save i op)).stored.length < bound + 1 := by
  cases hbase : st.copy i with
  | none =>
    simp only [step, hbase]
    exact hstored
  | some base =>
    simp only [step, hbase]
    rw [List.length_append, List.length_singleton]
    exact Nat.succ_lt_succ (hcopy base hbase)

/-- What is missing everywhere is not found again. -/
theorem short_step {st : Copies ι (List Op)} {ops : List Op} (h : Short st ops)
    (event : CopyEvent ι Op) :
    Short (st.step (fun ops op => ops ++ [op]) event) (ops ++ event.saved.toList) := by
  have hstored : (st.step (fun ops op => ops ++ [op]) event).stored.length <
      (ops ++ event.saved.toList).length := by
    cases event with
    | load i =>
      rw [CopyEvent.saved, Option.toList_none, List.append_nil]
      exact h.stored
    | save i op =>
      rw [CopyEvent.saved, Option.toList_some, List.length_append, List.length_singleton]
      exact length_stored_save (Nat.lt_succ_of_lt h.stored) (h.copies i)
  refine ⟨hstored, fun j own hown => ?_⟩
  obtain rfl | hold := copy_step hown
  · exact hstored
  · rw [List.length_append]
    exact Nat.lt_add_right _ (h.copies j own hold)

/-- A save on a copy of what is stored leaves nothing missing. -/
theorem complete_step {st : Copies ι (List Op)} {ops : List Op} (h : Complete st ops)
    {event : CopyEvent ι Op} (hsaves : st.SavesOnStored event) :
    Complete (st.step (fun ops op => ops ++ [op]) event) (ops ++ event.saved.toList) := by
  have hstored : (st.step (fun ops op => ops ++ [op]) event).stored =
      ops ++ event.saved.toList := by
    cases event with
    | load i =>
      rw [CopyEvent.saved, Option.toList_none, List.append_nil]
      exact h.stored
    | save i op =>
      have hcopy : st.copy i = some st.stored := hsaves
      simp only [step, hcopy, CopyEvent.saved, Option.toList_some, h.stored]
  refine ⟨hstored, fun j own hown => ?_⟩
  obtain rfl | hold := copy_step hown
  · exact .inl hstored
  · obtain rfl | hshort := h.copies j own hold
    · cases event with
      | load i => exact .inl (List.append_nil _).symm
      | save i op =>
        right
        simp [CopyEvent.saved]
    · right
      rw [List.length_append]
      exact Nat.lt_add_right _ hshort

/-- A save on any other copy loses something for good. -/
theorem short_of_not_savesOnStored {st : Copies ι (List Op)} {ops : List Op} (h : Complete st ops)
    {event : CopyEvent ι Op} (hsaves : ¬ st.SavesOnStored event) :
    Short (st.step (fun ops op => ops ++ [op]) event) (ops ++ event.saved.toList) := by
  cases event with
  | load i => exact absurd trivial hsaves
  | save i op =>
    rw [CopyEvent.saved, Option.toList_some]
    have hlength : (ops ++ [op]).length = ops.length + 1 := by
      rw [List.length_append, List.length_singleton]
    have hstored : (st.step (fun ops op => ops ++ [op]) (.save i op)).stored.length <
        (ops ++ [op]).length := by
      rw [hlength]
      refine length_stored_save (by rw [h.stored]; exact Nat.lt_succ_self _) fun base hbase => ?_
      obtain hsame | hshort := h.copies i base hbase
      · rw [hsame, ← h.stored] at hbase
        exact absurd hbase hsaves
      · exact hshort
    refine ⟨hstored, fun j own hown => ?_⟩
    obtain rfl | hold := copy_step hown
    · exact hstored
    · rw [hlength]
      obtain rfl | hshort := h.copies j own hold
      · exact Nat.lt_succ_self _
      · exact Nat.lt_succ_of_lt hshort

omit [DecidableEq ι] in
/-- The saved operations of an event and of those after it. -/
theorem append_filterMap_saved (ops : List Op) (event : CopyEvent ι Op)
    (rest : List (CopyEvent ι Op)) :
    ops ++ (event :: rest).filterMap CopyEvent.saved =
      ops ++ event.saved.toList ++ rest.filterMap CopyEvent.saved := by
  cases event with
  | load i =>
    rw [List.filterMap_cons, CopyEvent.saved, Option.toList_none, List.append_nil]
  | save i op =>
    rw [List.filterMap_cons, CopyEvent.saved, Option.toList_some, List.append_cons]

/-- What is missing everywhere is missing at the end. -/
theorem short_foldl {st : Copies ι (List Op)} {ops : List Op} (h : Short st ops)
    (events : List (CopyEvent ι Op)) :
    Short (events.foldl (step fun ops op => ops ++ [op]) st)
      (ops ++ events.filterMap CopyEvent.saved) := by
  induction events generalizing st ops with
  | nil =>
    rw [List.filterMap_nil, List.append_nil]
    exact h
  | cons event rest ih =>
    rw [append_filterMap_saved]
    exact ih (short_step h event)

/-- From a state that misses nothing, nothing is missing in the end exactly if every save is done on a
copy of what is stored. -/
theorem foldl_stored_iff {st : Copies ι (List Op)} {ops : List Op} (h : Complete st ops)
    (events : List (CopyEvent ι Op)) :
    (events.foldl (step fun ops op => ops ++ [op]) st).stored =
        ops ++ events.filterMap CopyEvent.saved ↔
      Runs.AllSteps (fun st event => some (step (fun ops op => ops ++ [op]) st event))
        SavesOnStored st events := by
  induction events generalizing st ops with
  | nil =>
    rw [List.filterMap_nil, List.append_nil]
    exact iff_of_true h.stored trivial
  | cons event rest ih =>
    rw [append_filterMap_saved, List.foldl_cons]
    by_cases hsaves : st.SavesOnStored event
    · rw [ih (complete_step h hsaves)]
      constructor
      · intro hrest
        refine ⟨hsaves, fun st' hst' => ?_⟩
        rw [← Option.some.inj hst']
        exact hrest
      · intro hall
        exact hall.2 _ rfl
    · have hshort := short_foldl (short_of_not_savesOnStored h hsaves) rest
      refine iff_of_false (fun hstored => ?_) fun hall => hsaves hall.1
      have hlt := hshort.stored
      rw [hstored] at hlt
      exact Nat.lt_irrefl _ hlt

/-- A party is up to date from when it loads or saves until another party saves. -/
def upToDateAfter (i : ι) (before : Bool) : CopyEvent ι Op → Bool
  | .load j => before || decide (j = i)
  | .save j _ => decide (j = i)

/-- Whether a party is up to date after some events. -/
def upToDate (i : ι) (events : List (CopyEvent ι Op)) : Bool := events.foldl (upToDateAfter i) false

/-- Every save is by a party that is up to date, given which are at first. -/
def SavesUpToDateFrom (current : ι → Bool) (events : List (CopyEvent ι Op)) : Prop :=
  ∀ before i op after, events = before ++ .save i op :: after →
    before.foldl (upToDateAfter i) (current i) = true

/-- Every save is by a party that is up to date. -/
def SavesUpToDate (events : List (CopyEvent ι Op)) : Prop :=
  ∀ before i op after, events = before ++ .save i op :: after → upToDate i before = true

/-- The first event is by a party that is up to date, if it saves, and so are the later ones. -/
theorem savesUpToDateFrom_cons {current : ι → Bool} {event : CopyEvent ι Op}
    {rest : List (CopyEvent ι Op)} :
    SavesUpToDateFrom current (event :: rest) ↔
      (∀ i op, event = .save i op → current i = true) ∧
        SavesUpToDateFrom (fun i => upToDateAfter i (current i) event) rest := by
  constructor
  · intro h
    refine ⟨?_, fun before i op after hrest => h (event :: before) i op after (by rw [hrest]; rfl)⟩
    rintro i op rfl
    exact h [] i op rest rfl
  · rintro ⟨hfirst, hrest⟩ before i op after hsplit
    cases before with
    | nil => exact hfirst i op (List.cons.inj hsplit).1
    | cons first before =>
      obtain ⟨rfl, hafter⟩ := List.cons.inj hsplit
      exact hrest before i op after hafter

/-- While nothing is missing, the parties that are up to date are those whose copy is what is stored. -/
theorem upToDateAfter_iff {st : Copies ι (List Op)} {ops : List Op} (h : Complete st ops)
    {event : CopyEvent ι Op} (hsaves : st.SavesOnStored event) {i : ι} {current : Bool}
    (hcurrent : current = true ↔ st.copy i = some st.stored) :
    upToDateAfter i current event = true ↔ (st.step (fun ops op => ops ++ [op]) event).copy i =
      some (st.step (fun ops op => ops ++ [op]) event).stored := by
  cases event with
  | load j =>
    simp only [upToDateAfter, step, Bool.or_eq_true, decide_eq_true_eq, hcurrent]
    by_cases hji : j = i
    · subst hji
      simp
    · simp [hji, Function.update_of_ne (Ne.symm hji)]
  | save j op =>
    have hcopy : st.copy j = some st.stored := hsaves
    simp only [upToDateAfter, step, hcopy, decide_eq_true_eq]
    by_cases hji : j = i
    · subst hji
      simp
    · rw [Function.update_of_ne (Ne.symm hji)]
      refine iff_of_false hji fun hown => ?_
      -- another copy is shorter than what is stored now
      have hlength : (st.stored ++ [op]).length = ops.length + 1 := by
        rw [List.length_append, h.stored, List.length_singleton]
      obtain hsame | hshort := h.copies i _ hown
      · have := congrArg List.length hsame
        omega
      · omega

/-- Every save is done on a copy of what is stored exactly if it is by a party that is up to date. -/
theorem allSteps_savesOnStored_iff {st : Copies ι (List Op)} {ops : List Op} (h : Complete st ops)
    {current : ι → Bool} (hcurrent : ∀ i, current i = true ↔ st.copy i = some st.stored)
    (events : List (CopyEvent ι Op)) :
    Runs.AllSteps (fun st event => some (step (fun ops op => ops ++ [op]) st event))
        SavesOnStored st events ↔ SavesUpToDateFrom current events := by
  induction events generalizing st ops current with
  | nil => exact iff_of_true trivial fun before i op after hsplit => by simp at hsplit
  | cons event rest ih =>
    rw [savesUpToDateFrom_cons]
    have hfirst : st.SavesOnStored event ↔ ∀ i op, event = .save i op → current i = true := by
      cases event with
      | load i => exact iff_of_true trivial fun _ _ hevent => by cases hevent
      | save i op =>
        constructor
        · rintro hsaves _ _ ⟨rfl, rfl⟩
          exact (hcurrent i).mpr hsaves
        · intro hall
          exact (hcurrent i).mp (hall i op rfl)
    by_cases hsaves : st.SavesOnStored event
    · refine and_congr hfirst ?_
      rw [← ih (complete_step h hsaves) fun i => upToDateAfter_iff h hsaves (hcurrent i)]
      constructor
      · intro hall
        exact hall _ rfl
      · intro hrest st' hst'
        rw [← Option.some.inj hst']
        exact hrest
    · exact iff_of_false (fun hall => hsaves hall.1) fun hall => hsaves (hfirst.mpr hall.1)

/-- The line of operations that led to what is stored holds all that were saved exactly if every save is
by a party that is up to date. -/
theorem lineages_stored_iff (events : List (CopyEvent ι Op)) :
    (lineages events).stored = events.filterMap CopyEvent.saved ↔ SavesUpToDate events := by
  have hstart : Complete (start [] : Copies ι (List Op)) [] :=
    ⟨rfl, fun i own hown => by cases hown⟩
  have hcurrent : ∀ i : ι, false = true ↔ (start [] : Copies ι (List Op)).copy i = some [] :=
    fun i => iff_of_false Bool.false_ne_true fun hcopy => by cases hcopy
  exact (foldl_stored_iff hstart events).trans (allSteps_savesOnStored_iff hstart hcurrent events)

/-- A party that does not load again has applied its own operations to its copy. -/
theorem foldl_copy {act : V → Op → V} {st : Copies ι V} {i : ι} {value : V}
    (hcopy : st.copy i = some value) {events : List (CopyEvent ι Op)}
    (hloads : CopyEvent.load i ∉ events) :
    (events.foldl (step act) st).copy i =
      some ((events.filterMap (CopyEvent.savedBy i)).foldl act value) := by
  induction events generalizing st value with
  | nil => exact hcopy
  | cons event rest ih =>
    rw [List.mem_cons, not_or] at hloads
    have hrest : ∀ value', (st.step act event).copy i = some value' →
        (rest.foldl (step act) (st.step act event)).copy i =
          some ((rest.filterMap (CopyEvent.savedBy i)).foldl act value') :=
      fun value' h => ih h hloads.2
    cases event with
    | load j =>
      have hji : i ≠ j := fun h => hloads.1 (congrArg CopyEvent.load h)
      refine hrest value ?_
      simp only [step, Function.update_of_ne hji, hcopy]
    | save j op =>
      by_cases hji : j = i
      · subst hji
        rw [List.filterMap_cons, CopyEvent.savedBy, if_pos rfl]
        refine hrest (act value op) ?_
        simp only [step, hcopy, Function.update_self]
      · rw [List.filterMap_cons, CopyEvent.savedBy, if_neg hji]
        refine hrest value ?_
        cases hother : st.copy j with
        | none => simp only [step, hother, hcopy]
        | some base => simp only [step, hother, Function.update_of_ne (Ne.symm hji), hcopy]

/-- Without a save the stored value stays. -/
theorem foldl_stored_of_no_save {act : V → Op → V} (st : Copies ι V)
    {events : List (CopyEvent ι Op)} (hsaves : events.filterMap CopyEvent.saved = []) :
    (events.foldl (step act) st).stored = st.stored := by
  induction events generalizing st with
  | nil => rfl
  | cons event rest ih =>
    cases event with
    | load i => exact ih (st.step act (.load i)) hsaves
    | save i op => cases hsaves

/-- The last save decides: what is stored after it is what its party loaded last, with the operations it
has saved since then and no others. -/
theorem foldl_stored_of_last_save {act : V → Op → V} (st : Copies ι V)
    {before between after : List (CopyEvent ι Op)} {i : ι} {op : Op}
    (hloads : CopyEvent.load i ∉ between) (hsaves : after.filterMap CopyEvent.saved = []) :
    ((before ++ .load i :: (between ++ .save i op :: after)).foldl (step act) st).stored =
      act ((between.filterMap (CopyEvent.savedBy i)).foldl act
        (before.foldl (step act) st).stored) op := by
  rw [List.foldl_append, List.foldl_cons, List.foldl_append, List.foldl_cons,
    foldl_stored_of_no_save _ hsaves]
  have hstored : ∀ {st' : Copies ι V} {value : V}, st'.copy i = some value →
      (st'.step act (.save i op)).stored = act value op := by
    intro st' value hcopy
    simp only [step, hcopy]
  have hloaded : ((before.foldl (step act) st).step act (.load i)).copy i =
      some (before.foldl (step act) st).stored := by
    simp only [step, Function.update_self]
  exact hstored (foldl_copy hloaded hloads)

end Copies
