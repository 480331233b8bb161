import ScxManager.Library.Runs

/-!
# A view kept up to date by reading

An environment changes on its own. Now and then a view of it is updated by a procedure that reads the
environment, decides from what it met whether to read again, and in the end yields what is shown. The
environment may change between two reads of one update, so that the view joins parts that never were
there at one time. What can be shown is determined exactly: every part was there since the update began,
and the parts were read in the order in which they were there.
-/

namespace Polling

variable {K V : Type}

/-- A procedure that reads the environment until it yields a value. -/
inductive Procedure (K V : Type) where
  | done (value : V)
  | read (next : K → Procedure K V)

/-- What is left of a procedure after it has read these environments, unless it ended before. -/
def Procedure.after : Procedure K V → List K → Option (Procedure K V)
  | procedure, [] => some procedure
  | .done _, _ :: _ => none
  | .read next, k :: reads => (next k).after reads

/-- Before anything is read all of a procedure is left. -/
@[simp] theorem Procedure.after_nil (procedure : Procedure K V) :
    procedure.after [] = some procedure := by
  cases procedure <;> rfl

/-- A procedure that reads goes on with what it met. -/
@[simp] theorem Procedure.after_read_cons (next : K → Procedure K V) (k : K) (reads : List K) :
    (Procedure.read next).after (k :: reads) = (next k).after reads :=
  rfl

/-- The environment, the reads that an update in progress still has to do, and what is shown. -/
structure State (K V : Type) where
  env : K
  reading : Option (K → Procedure K V)
  view : V

/-- The environment changes, an update begins, or the update in progress reads once. -/
inductive Event (K : Type) where
  | change (env : K)
  | update
  | read

/-- Go on with what is left of a procedure. -/
def State.resume (s : State K V) : Procedure K V → State K V
  | .done value => { s with reading := none, view := value }
  | .read next => { s with reading := some next }

/-- What is left of the update in progress; without one, what it would yield is already shown. -/
def State.remaining (s : State K V) : Procedure K V :=
  match s.reading with
  | none => .done s.view
  | some next => .read next

@[simp] theorem State.env_resume (s : State K V) (procedure : Procedure K V) :
    (s.resume procedure).env = s.env := by
  cases procedure <;> rfl

@[simp] theorem State.remaining_resume (s : State K V) (procedure : Procedure K V) :
    (s.resume procedure).remaining = procedure := by
  cases procedure <;> rfl

/-- Without an update in progress what is left is the view. -/
theorem State.remaining_idle {s : State K V} (h : s.reading = none) : s.remaining = .done s.view := by
  unfold remaining
  rw [h]

/-- Only what has ended is left when nothing is read any more. -/
theorem State.remaining_eq_done {s : State K V} {value : V} (h : s.remaining = .done value) :
    s.reading = none ∧ s.view = value := by
  unfold remaining at h
  cases hreading : s.reading with
  | none =>
    rw [hreading] at h
    exact ⟨rfl, Procedure.done.inj h⟩
  | some next =>
    rw [hreading] at h
    cases h

/-- One update is done at a time. -/
def step (procedure : Procedure K V) (s : State K V) : Event K → Option (State K V)
  | .change env => some { s with env := env }
  | .update => if s.reading.isNone then some (s.resume procedure) else none
  | .read => s.reading.map fun next => s.resume (next s.env)

/-- The environments that events change to. -/
def changes (events : List (Event K)) : List K :=
  events.filterMap fun
    | .change env => some env
    | _ => none

/-- An update changes nothing, and changes add up. -/
theorem changes_append_update (earlier rest : List (Event K)) :
    changes (earlier ++ .update :: rest) = changes earlier ++ changes rest := by
  simp [changes]

/-- One can read these in this order, where the environment goes through those: each may be read
several times, or not at all. -/
inductive InOrder : List K → List K → Prop where
  | nil (seen : List K) : InOrder seen []
  | skip (k : K) {seen reads : List K} (h : InOrder seen reads) : InOrder (k :: seen) reads
  | read {k : K} {seen reads : List K} (h : InOrder (k :: seen) reads) :
      InOrder (k :: seen) (k :: reads)

/-- What is read was there. -/
theorem InOrder.mem {seen reads : List K} (h : InOrder seen reads) : ∀ k ∈ reads, k ∈ seen := by
  induction h with
  | nil seen => simp
  | skip k h ih => exact fun x hx => List.mem_cons_of_mem k (ih x hx)
  | read h ih =>
    intro x hx
    rcases List.mem_cons.mp hx with rfl | hx
    · exact List.mem_cons_self
    · exact ih x hx

/-- A read is at some moment, and what is read after it is there from that moment on. -/
theorem inOrder_cons {seen reads : List K} {k : K} :
    InOrder seen (k :: reads) ↔
      ∃ before since, seen = before ++ k :: since ∧ InOrder (k :: since) reads := by
  constructor
  · intro h
    generalize hreads : k :: reads = all at h
    induction h with
    | nil seen => cases hreads
    | skip k' h ih =>
      obtain ⟨before, since, rfl, hrest⟩ := ih hreads
      exact ⟨k' :: before, since, rfl, hrest⟩
    | read h ih =>
      obtain ⟨rfl, rfl⟩ := List.cons.inj hreads
      exact ⟨[], _, rfl, h⟩
  · rintro ⟨before, since, rfl, h⟩
    induction before with
    | nil => exact .read h
    | cons k' before ih => exact .skip k' ih

/-- One read is of something that was there. -/
theorem inOrder_singleton {seen : List K} {k : K} : InOrder seen [k] ↔ k ∈ seen := by
  rw [inOrder_cons, List.mem_iff_append]
  exact exists₂_congr fun before since => and_iff_left (.nil _)

/-- Events without a new update that lead to a state without one finish the update in progress, by reads
of what the environment was meanwhile, in order. -/
theorem reads_of_run {procedure : Procedure K V} {s t : State K V} {events : List (Event K)}
    (hupdate : Event.update ∉ events) (hrun : Runs.run (step procedure) s events = some t)
    (hidle : t.reading = none) :
    ∃ reads, InOrder (s.env :: changes events) reads ∧
      s.remaining.after reads = some (.done t.view) := by
  induction events generalizing s with
  | nil =>
    obtain rfl : s = t := Option.some.inj hrun
    exact ⟨[], .nil _, by rw [State.remaining_idle hidle, Procedure.after_nil]⟩
  | cons event rest ih =>
    obtain ⟨hevent, hrest⟩ := List.ne_and_not_mem_of_not_mem_cons hupdate
    obtain ⟨s', hs', hrun⟩ := Runs.run_cons_eq_some.mp hrun
    obtain ⟨reads, horder, hafter⟩ := ih hrest hrun
    cases event with
    | update => exact absurd rfl hevent
    | change env =>
      obtain rfl : { s with env := env } = s' := Option.some.inj hs'
      exact ⟨reads, .skip s.env horder, hafter⟩
    | read =>
      obtain ⟨next, hreading, rfl⟩ := Option.map_eq_some_iff.mp hs'
      rw [State.env_resume] at horder
      rw [State.remaining_resume] at hafter
      refine ⟨s.env :: reads, .read horder, ?_⟩
      unfold State.remaining
      rw [hreading]
      exact hafter

/-- Changes of the environment alone leave the update in progress and the view. -/
theorem run_changes (procedure : Procedure K V) (s : State K V) (later : List K) :
    ∃ env, Runs.run (step procedure) s (later.map .change) = some { s with env := env } := by
  induction later generalizing s with
  | nil => exact ⟨s.env, rfl⟩
  | cons k later ih => exact ih { s with env := k }

/-- Changes of the environment are what it changes to, and no updates. -/
theorem changes_map_change (later : List K) :
    changes (later.map .change) = later ∧ Event.update ∉ later.map .change := by
  induction later with
  | nil => simp [changes]
  | cons k later ih => exact ⟨congrArg (k :: ·) ih.1, by simp⟩

/-- Where nothing is left to read, the environment just goes on. -/
theorem run_of_no_reads (procedure : Procedure K V) (s : State K V) (later : List K) {value : V}
    (hafter : s.remaining.after [] = some (.done value)) :
    ∃ events, Event.update ∉ events ∧ changes events = later ∧
      ∃ t, Runs.run (step procedure) s events = some t ∧ t.reading = none ∧ t.view = value := by
  rw [Procedure.after_nil] at hafter
  obtain ⟨hidle, hview⟩ := State.remaining_eq_done (Option.some.inj hafter)
  obtain ⟨env, hrun⟩ := run_changes procedure s later
  exact ⟨_, (changes_map_change later).2, (changes_map_change later).1, _, hrun, hidle, hview⟩

/-- Reads in order can be had: some events read these while the environment goes through those. -/
theorem run_of_reads {procedure : Procedure K V} {s : State K V} {later reads : List K} {value : V}
    (horder : InOrder (s.env :: later) reads)
    (hafter : s.remaining.after reads = some (.done value)) :
    ∃ events, Event.update ∉ events ∧ changes events = later ∧
      ∃ t, Runs.run (step procedure) s events = some t ∧ t.reading = none ∧ t.view = value := by
  generalize hseen : s.env :: later = seen at horder
  induction horder generalizing s later with
  | nil seen => exact run_of_no_reads procedure s later hafter
  | @skip k seen reads h ih =>
    obtain ⟨rfl, rfl⟩ := List.cons.inj hseen
    cases later with
    | nil =>
      obtain rfl := List.eq_nil_of_subset_nil h.mem
      exact run_of_no_reads procedure s [] hafter
    | cons k later =>
      obtain ⟨events, hupdate, hchanges, hrun⟩ := ih (s := { s with env := k }) hafter rfl
      exact ⟨.change k :: events, by simp [hupdate], congrArg (k :: ·) hchanges, hrun⟩
  | @read k seen reads h ih =>
    obtain ⟨rfl, rfl⟩ := List.cons.inj hseen
    cases hreading : s.reading with
    | none =>
      rw [State.remaining_idle hreading] at hafter
      cases hafter
    | some next =>
      unfold State.remaining at hafter
      rw [hreading] at hafter
      obtain ⟨events, hupdate, hchanges, t, hrun, ht⟩ :=
        ih (s := s.resume (next s.env)) (by simpa using hafter)
          (congrArg (· :: later) (State.env_resume s (next s.env)))
      refine ⟨.read :: events, by simp [hupdate], hchanges, t, ?_, ht⟩
      have hstep : step procedure s .read = some (s.resume (next s.env)) := by
        simp only [step, hreading, Option.map_some]
      exact Runs.run_cons_eq_some.mpr ⟨_, hstep, hrun⟩

/-- What an update can show, if it begins now and is finished while the environment goes on to be these,
is exactly what the procedure yields from reads of them in order. -/
theorem update_shows_iff {procedure : Procedure K V} {s : State K V} {later : List K} {value : V}
    (hidle : s.reading = none) :
    (∃ rest, Event.update ∉ rest ∧ changes rest = later ∧
        ∃ t, Runs.run (step procedure) s (.update :: rest) = some t ∧ t.reading = none ∧
          t.view = value) ↔
      ∃ reads, InOrder (s.env :: later) reads ∧ procedure.after reads = some (.done value) := by
  have hbegin : step procedure s .update = some (s.resume procedure) := by
    simp only [step, hidle, Option.isNone_none, if_true]
  constructor
  · rintro ⟨rest, hupdate, rfl, t, hrun, ht, rfl⟩
    obtain ⟨s', hs', hrun⟩ := Runs.run_cons_eq_some.mp hrun
    obtain rfl : s.resume procedure = s' := Option.some.inj (hbegin.symm.trans hs')
    simpa using reads_of_run hupdate hrun ht
  · rintro ⟨reads, horder, hafter⟩
    obtain ⟨rest, hupdate, hchanges, t, hrun, ht⟩ :=
      run_of_reads (s := s.resume procedure) (by simpa using horder) (by simpa using hafter)
    exact ⟨rest, hupdate, hchanges, t, Runs.run_cons_eq_some.mpr ⟨_, hbegin, hrun⟩, ht⟩

/-- Without an update the view stays what it was, and no update is in progress. -/
theorem run_view_of_no_update {procedure : Procedure K V} {s t : State K V} {events : List (Event K)}
    (hstart : s.reading = none) (hupdate : Event.update ∉ events)
    (hrun : Runs.run (step procedure) s events = some t) :
    t.reading = none ∧ t.view = s.view := by
  induction events generalizing s with
  | nil =>
    obtain rfl : s = t := Option.some.inj hrun
    exact ⟨hstart, rfl⟩
  | cons event rest ih =>
    obtain ⟨hevent, hrest⟩ := List.ne_and_not_mem_of_not_mem_cons hupdate
    obtain ⟨s', hs', hrun⟩ := Runs.run_cons_eq_some.mp hrun
    cases event with
    | update => exact absurd rfl hevent
    | change env =>
      obtain rfl : { s with env := env } = s' := Option.some.inj hs'
      exact ih (s := { s with env := env }) hstart hrest hrun
    | read =>
      rw [step, hstart] at hs'
      cases hs'

/-- The environment after a run is the last one it changed to. -/
theorem run_env {procedure : Procedure K V} {s t : State K V} {events : List (Event K)}
    (hrun : Runs.run (step procedure) s events = some t) :
    t.env = (changes events).getLast?.getD s.env := by
  refine Runs.run_last_write (f := State.env) ?_ hrun
  intro s event s' hs'
  cases event with
  | change env =>
    obtain rfl : { s with env := env } = s' := Option.some.inj hs'
    rfl
  | update =>
    obtain ⟨-, h⟩ := Option.ite_none_right_eq_some.mp hs'
    rw [← Option.some.inj h]
    exact State.env_resume s procedure
  | read =>
    obtain ⟨next, -, rfl⟩ := Option.map_eq_some_iff.mp hs'
    exact State.env_resume s (next s.env)

/-- Events that hold an update are split at the last one. -/
theorem exists_last_update {events : List (Event K)} (h : Event.update ∈ events) :
    ∃ earlier rest, events = earlier ++ .update :: rest ∧ Event.update ∉ rest := by
  obtain ⟨rest, earlier, hsplit, hrest⟩ := List.eq_append_cons_of_mem (List.mem_reverse.mpr h)
  refine ⟨earlier.reverse, rest.reverse, ?_, by simpa using hrest⟩
  rw [← List.reverse_reverse events, hsplit]
  simp

/-- Whatever is shown after a run that holds an update, while none is in progress, is what the procedure
yields from environments of the time since the last update began, read in order. -/
theorem view_of_run {procedure : Procedure K V} {s t : State K V} {events : List (Event K)}
    (hrun : Runs.run (step procedure) s events = some t) (hidle : t.reading = none)
    (hupdate : Event.update ∈ events) :
    ∃ earlier rest reads, events = earlier ++ .update :: rest ∧ Event.update ∉ rest ∧
      InOrder ((changes earlier).getLast?.getD s.env :: changes rest) reads ∧
      procedure.after reads = some (.done t.view) := by
  obtain ⟨earlier, rest, rfl, hrest⟩ := exists_last_update hupdate
  obtain ⟨s', hearlier, hlast⟩ := Runs.run_append_eq_some.mp hrun
  obtain ⟨s'', hs'', -⟩ := Runs.run_cons_eq_some.mp hlast
  have hbegin : s'.reading = none :=
    Option.isNone_iff_eq_none.mp (Option.ite_none_right_eq_some.mp hs'').1
  obtain ⟨reads, horder, hafter⟩ :=
    (update_shows_iff hbegin).mp ⟨rest, hrest, rfl, t, hlast, hidle, rfl⟩
  rw [run_env hearlier] at horder
  exact ⟨earlier, rest, reads, rfl, hrest, horder, hafter⟩

end Polling
