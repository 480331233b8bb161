import ScxManager.Instances
import ScxManager.Library.Copies

/-!
# Which calls are in the file

Among several instances what is stored is not the work of all calls. It replays one line of calls: those
the last instance to save had loaded, and its own since then. The instances keep copies of one stored
value, and every result about the lines of operations behind such copies holds here of calls. As in every
run of `Instances.step`, the calls are whole, one at a time, and all their external steps succeed.
-/

namespace ScxManager

variable {ι S B : Type} [DecidableEq ι]

/-- The event as one about copies of the stored configuration: a rejected call is none. -/
def InstanceEvent.copying (L : ScxLoader S B) : InstanceEvent ι → Option (CopyEvent ι Call)
  | .start i => some (.load i)
  | .call i c => if c.accepts L then some (.save i c) else none

/-- What the instances hold and what is stored, as copies of one value. -/
def Instances.Copying (L : ScxLoader S B) (st : Instances ι S B) (copies : Copies ι (Config S)) :
    Prop :=
  st.stored L = .ok copies.stored ∧ st.memory = copies.copy

/-- One event among the instances is a step of the copies. -/
theorem Instances.copying_step {L : ScxLoader S B}
    (hserialises : ∀ config, (L.toToml config).isOk = true) {st st' : Instances ι S B}
    {copies : Copies ι (Config S)} {event : InstanceEvent ι} (h : st.Copying L copies)
    (hstep : st.step L event = some st') :
    st'.Copying L (match event.copying L with
      | some copyEvent => copies.step (fun config call => call.memory L config) copyEvent
      | none => copies) := by
  obtain ⟨hstored, hmemory⟩ := h
  cases event with
  | start i =>
    obtain rfl := Option.some.inj hstep
    have hinit : Config.initConfig L st.system.configFile = some copies.stored :=
      Config.initConfig_eq_some.mpr hstored
    simp only [InstanceEvent.copying, Copies.step]
    refine ⟨hstored, ?_⟩
    rw [hinit, hmemory]
  | call i call =>
    obtain ⟨view, hview, hmemory', hstored'⟩ := Instances.step_call hserialises hstep
    rw [hmemory] at hview
    by_cases haccepts : call.accepts L = true
    · rw [if_pos haccepts] at hstored'
      simp only [InstanceEvent.copying, if_pos haccepts, Copies.step, hview]
      exact ⟨hstored', by rw [hmemory', hmemory]⟩
    · have hrejects : call.accepts L = false := by simpa using haccepts
      rw [if_neg haccepts] at hstored'
      simp only [InstanceEvent.copying, if_neg haccepts]
      refine ⟨hstored'.trans hstored, ?_⟩
      rw [hmemory', Call.memory_of_not_accepts hrejects, hmemory, ← hview, Function.update_eq_self]

/-- A run of the instances is a run of the copies. -/
theorem Instances.copying_run {L : ScxLoader S B}
    (hserialises : ∀ config, (L.toToml config).isOk = true) {st st' : Instances ι S B}
    {copies : Copies ι (Config S)} {events : List (InstanceEvent ι)} (h : st.Copying L copies)
    (hrun : Runs.run (Instances.step L) st events = some st') :
    st'.Copying L ((events.filterMap (InstanceEvent.copying L)).foldl
      (Copies.step fun config call => call.memory L config) copies) := by
  rw [List.foldl_filterMap]
  refine Runs.run_simulates (R := Instances.Copying L) ?_ h hrun
  intro st copies event st' hst hstep
  have hnext := Instances.copying_step hserialises hst hstep
  cases hcopying : event.copying L with
  | none =>
    rw [hcopying] at hnext
    exact hnext
  | some copyEvent =>
    rw [hcopying] at hnext
    exact hnext

/-- The calls that led to what is stored, and to what each instance holds. -/
def callLines (L : ScxLoader S B) (events : List (InstanceEvent ι)) : Copies ι (List Call) :=
  Copies.lineages (events.filterMap (InstanceEvent.copying L))

/-- The calls of the events that are not rejected. -/
def acceptedCalls (L : ScxLoader S B) (events : List (InstanceEvent ι)) : List Call :=
  (events.filterMap (InstanceEvent.copying L)).filterMap CopyEvent.saved

/-- The calls of an instance that are not rejected. -/
def acceptedCallsOf (L : ScxLoader S B) (i : ι) (events : List (InstanceEvent ι)) : List Call :=
  (events.filterMap (InstanceEvent.copying L)).filterMap (CopyEvent.savedBy i)

/-- What calls make of a configuration. -/
def replay (L : ScxLoader S B) (config : Config S) (calls : List Call) : Config S :=
  calls.foldl (fun config call => call.memory L config) config

/-- An instance is up to date from when it starts or makes a call that is not rejected until another one
makes such a call. -/
def upToDateAfter (L : ScxLoader S B) (i : ι) (before : Bool) : InstanceEvent ι → Bool
  | .start j => before || decide (j = i)
  | .call j call => if call.accepts L then decide (j = i) else before

/-- Whether an instance is up to date after some events. -/
def upToDate (L : ScxLoader S B) (i : ι) (events : List (InstanceEvent ι)) : Bool :=
  events.foldl (upToDateAfter L i) false

/-- Every call that is not rejected is made by an instance that is up to date. -/
def CallsUpToDate (L : ScxLoader S B) (events : List (InstanceEvent ι)) : Prop :=
  ∀ before i call after, events = before ++ .call i call :: after → call.accepts L = true →
    upToDate L i before = true

/-- An instance is up to date exactly if its copy is. -/
theorem upToDate_eq (L : ScxLoader S B) (i : ι) (events : List (InstanceEvent ι)) :
    upToDate L i events = Copies.upToDate i (events.filterMap (InstanceEvent.copying L)) := by
  unfold upToDate Copies.upToDate
  rw [List.foldl_filterMap]
  congr 1
  funext before event
  cases event with
  | start j => rfl
  | call j call =>
    by_cases haccepts : call.accepts L = true
    · simp only [upToDateAfter, InstanceEvent.copying, if_pos haccepts, Copies.upToDateAfter]
    · simp only [upToDateAfter, InstanceEvent.copying, if_neg haccepts]

omit [DecidableEq ι] in
/-- The calls that are not rejected are the saves of the copies. -/
theorem InstanceEvent.copying_eq_save_iff {L : ScxLoader S B} {event : InstanceEvent ι} {i : ι}
    {call : Call} :
    event.copying L = some (.save i call) ↔ event = .call i call ∧ call.accepts L = true := by
  cases event with
  | start j => simp [InstanceEvent.copying]
  | call j c =>
    by_cases haccepts : c.accepts L = true
    · rw [InstanceEvent.copying, if_pos haccepts]
      constructor
      · rintro ⟨⟩
        exact ⟨rfl, haccepts⟩
      · rintro ⟨⟨⟩, -⟩
        rfl
    · rw [InstanceEvent.copying, if_neg haccepts]
      refine iff_of_false (by simp) ?_
      rintro ⟨⟨⟩, hc⟩
      exact haccepts hc

/-- The calls are made by instances that are up to date exactly if the copies are saved by such. -/
theorem callsUpToDate_iff (L : ScxLoader S B) (events : List (InstanceEvent ι)) :
    CallsUpToDate L events ↔
      Copies.SavesUpToDate (events.filterMap (InstanceEvent.copying L)) := by
  constructor
  · intro h before i call after hsplit
    obtain ⟨first, rest, rfl, rfl, hrest⟩ := List.filterMap_eq_append_iff.mp hsplit
    obtain ⟨skipped, event, later, rfl, hskipped, hevent, -⟩ := List.filterMap_eq_cons_iff.mp hrest
    obtain ⟨rfl, haccepts⟩ := InstanceEvent.copying_eq_save_iff.mp hevent
    have hcall := h (first ++ skipped) i call later (List.append_assoc ..).symm haccepts
    rwa [upToDate_eq, List.filterMap_append, List.filterMap_eq_nil_iff.mpr hskipped,
      List.append_nil] at hcall
  · rintro h before i call after rfl haccepts
    rw [upToDate_eq]
    refine h _ i call (after.filterMap (InstanceEvent.copying L)) ?_
    rw [List.filterMap_append,
      List.filterMap_cons_some (InstanceEvent.copying_eq_save_iff.mpr ⟨rfl, haccepts⟩)]

/-- In every run of several instances that start after it began, what is stored and what each instance
holds replay their lines of calls, and the line of what is stored holds all the calls that were not
rejected exactly if each of them was made by an instance that was up to date. -/
theorem instances_replay {L : ScxLoader S B}
    (hserialises : ∀ config, (L.toToml config).isOk = true) {st₀ st : Instances ι S B}
    {config₀ : Config S} (hstored : st₀.stored L = .ok config₀) (hmemory : ∀ i, st₀.memory i = none)
    {events : List (InstanceEvent ι)} (hrun : Runs.run (Instances.step L) st₀ events = some st) :
    (st.stored L = .ok (replay L config₀ (callLines L events).stored) ∧
        ∀ i, st.memory i = ((callLines L events).copy i).map (replay L config₀)) ∧
      ((callLines L events).stored = acceptedCalls L events ↔ CallsUpToDate L events) := by
  have hstart : st₀.Copying L (Copies.start config₀) := ⟨hstored, funext hmemory⟩
  have hcopying := Instances.copying_run hserialises hstart hrun
  rw [Copies.foldl_start] at hcopying
  obtain ⟨hstored', hmemory'⟩ := hcopying
  refine ⟨⟨hstored', fun i => ?_⟩, ?_⟩
  · rw [hmemory']
    rfl
  · rw [callsUpToDate_iff]
    exact Copies.lineages_stored_iff _

/-- Both instances start before the first one saves: the line of what is stored is that of the second. -/
theorem instances_replay_stale :
    ∃ st, Runs.run (Instances.step sampleLoader) twoInstances
        [.start false, .start true, .call false (.apply "scx_rusty" 2 "-k"),
          .call true (.apply "scx_bpfland" 0 "")] = some st ∧
      st.stored sampleLoader =
        .ok (replay sampleLoader ⟨none, none, ∅⟩ [.apply "scx_bpfland" 0 ""]) ∧
      ¬ CallsUpToDate sampleLoader
        [.start false, .start true, .call false (.apply "scx_rusty" 2 "-k"),
          .call true (.apply "scx_bpfland" 0 "")] := by
  have hstored : twoInstances.stored sampleLoader = .ok ⟨none, none, ∅⟩ := rfl
  have hrun : Runs.run (Instances.step sampleLoader) twoInstances
      [.start false, .start true, .call false (.apply "scx_rusty" 2 "-k"),
        .call true (.apply "scx_bpfland" 0 "")] = some _ := rfl
  have hreplay := instances_replay (fun _ => rfl) hstored (fun _ => rfl) hrun
  refine ⟨_, hrun, hreplay.1.1, fun hcalls => ?_⟩
  have hlength := congrArg List.length (hreplay.2.mpr hcalls)
  revert hlength
  decide

/-- After the last call that is not rejected, what is stored is what was stored when its instance
started, changed by that instance's calls since then: nothing that any other instance did in between is
left. -/
theorem lastSaver_replay {L : ScxLoader S B}
    (hserialises : ∀ config, (L.toToml config).isOk = true) {st₀ st : Instances ι S B}
    {config₀ : Config S} (hstored : st₀.stored L = .ok config₀)
    {before between after : List (InstanceEvent ι)} {i : ι} {call : Call}
    (hrun : Runs.run (Instances.step L) st₀
      (before ++ .start i :: (between ++ .call i call :: after)) = some st)
    (hstart : InstanceEvent.start i ∉ between) (haccepts : call.accepts L = true)
    (hlast : acceptedCalls L after = []) :
    ∃ st₁ snapshot, Runs.run (Instances.step L) st₀ before = some st₁ ∧
      st₁.stored L = .ok snapshot ∧
      st.stored L = .ok (replay L snapshot (acceptedCallsOf L i between ++ [call])) := by
  have hcopies : st₀.Copying L ⟨config₀, st₀.memory⟩ := ⟨hstored, rfl⟩
  have hloads : CopyEvent.load i ∉ between.filterMap (InstanceEvent.copying L) := by
    intro h
    obtain ⟨event, hevent, hload⟩ := List.mem_filterMap.mp h
    cases event with
    | start j =>
      cases hload
      exact hstart hevent
    | call j c =>
      by_cases hc : c.accepts L = true
      · rw [InstanceEvent.copying, if_pos hc] at hload
        cases hload
      · rw [InstanceEvent.copying, if_neg hc] at hload
        cases hload
  obtain ⟨st₁, hbefore, -⟩ := Runs.run_append_eq_some.mp hrun
  refine ⟨st₁, _, hbefore, (Instances.copying_run hserialises hcopies hbefore).1, ?_⟩
  have hend := (Instances.copying_run hserialises hcopies hrun).1
  have hcall : InstanceEvent.copying L (.call i call) = some (.save i call) := if_pos haccepts
  have hload : InstanceEvent.copying L (.start i) = some (.load i) := rfl
  rw [List.filterMap_append, List.filterMap_cons_some hload, List.filterMap_append,
    List.filterMap_cons_some hcall, Copies.foldl_stored_of_last_save _ hloads hlast] at hend
  rw [hend, replay, List.foldl_append]
  rfl

/-- The second instance starts first and saves last: the flags of the first one are not stored. -/
theorem lastSaver_replay_second :
    ∃ st st₁ snapshot, Runs.run (Instances.step sampleLoader) twoInstances
        ([.start false] ++ .start true :: ([.call false (.apply "scx_rusty" 2 "-k")] ++
          .call true (.apply "scx_bpfland" 0 "") :: [.call false (.apply "scx_none" 0 "")])) =
          some st ∧
      Runs.run (Instances.step sampleLoader) twoInstances [.start false] = some st₁ ∧
      st₁.stored sampleLoader = .ok snapshot ∧
      st.stored sampleLoader = .ok (replay sampleLoader snapshot [.apply "scx_bpfland" 0 ""]) := by
  have hstored : twoInstances.stored sampleLoader = .ok ⟨none, none, ∅⟩ := rfl
  have hrun : Runs.run (Instances.step sampleLoader) twoInstances
      ([.start false] ++ .start true :: ([.call false (.apply "scx_rusty" 2 "-k")] ++
        .call true (.apply "scx_bpfland" 0 "") :: [.call false (.apply "scx_none" 0 "")])) =
      some _ := rfl
  obtain ⟨st₁, snapshot, hbefore, hsnapshot, hend⟩ :=
    lastSaver_replay (fun _ => rfl) hstored hrun (by simp) rfl rfl
  exact ⟨_, st₁, snapshot, hrun, hbefore, hsnapshot, hend⟩

end ScxManager
