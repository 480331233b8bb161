import ScxManager.Settings
import ScxManager.ScxUtils

/-!
# Several instances and one file

Every instance loads the configuration once, when it starts, and each of its calls saves the
whole configuration it holds. A call is confined to its own settings relative to what its
instance holds. Relative to the file it is confined only while the instance is the last that
loaded or saved it; otherwise it also puts back what the instance has seen of everything else.
The calls here are whole, one at a time, and all their external steps succeed.
-/

namespace ScxManager

variable {ι S B : Type}

/-- Instances on one system, with the configuration each holds, if it has started. -/
structure Instances (ι S B : Type) where
  system : System S B
  memory : ι → Option (Config S)

/-- What happens among several instances: one starts, or makes a call alone. -/
inductive InstanceEvent (ι : Type) where
  | start (i : ι)
  | call (i : ι) (call : Call)

/-- The configuration stored at `config_path`. -/
def Instances.stored (L : ScxLoader S B) (st : Instances ι S B) : Except Error (Config S) :=
  initConfig L st.system.configFile

/-- One event among several instances; all external steps of a call succeed. -/
def Instances.step [DecidableEq ι] (L : ScxLoader S B) (st : Instances ι S B) :
    InstanceEvent ι → Option (Instances ι S B)
  | .start i =>
    some { st with memory :=
      Function.update st.memory i (Config.initConfig L st.system.configFile) }
  | .call i call => do
    let config ← st.memory i
    let app ← App.step L ⟨config, st.system⟩ (.call call .succeed)
    return ⟨app.system, Function.update st.memory i (some app.config)⟩

/-- Whether a call is not turned away for its arguments. -/
def Call.accepts (L : ScxLoader S B) : Call → Bool
  | .apply scxName scxMode _ => (accepted L scxName scxMode).isSome
  | .disable => true

/-- A call for a scheduler and a mode may change the defaults and the list of these two, and a
disable call only the default scheduler. -/
def Call.Confined (L : ScxLoader S B) (call : Call) (before after : Config S) : Prop :=
  match call with
  | .apply scxName scxMode _ =>
    ∀ name mode,
      ¬ (∃ sched, accepted L scxName scxMode = some (sched, mode) ∧ name = L.intoStr sched) →
        after.stored name mode = before.stored name mode
  | .disable => after = { before with defaultSched := after.defaultSched }

/-- A call that changes nothing is confined. -/
theorem Call.confined_refl (L : ScxLoader S B) (call : Call) (config : Config S) :
    call.Confined L config config := by
  cases call with
  | apply => exact fun _ _ _ => rfl
  | disable => rfl

/-- What a call makes of the configuration its instance holds is confined. -/
theorem Call.confined_memory (L : ScxLoader S B) (call : Call) (config : Config S) :
    call.Confined L config (call.memory L config) := by
  cases call with
  | apply scxName scxMode extraFlags =>
    unfold Call.memory
    dsimp only
    cases haccepted : accepted L scxName scxMode with
    | none => exact Call.confined_refl L (.apply scxName scxMode extraFlags) config
    | some pair =>
      intro name mode hother
      rw [haccepted] at hother
      rw [stored_applied, if_neg]
      intro h
      obtain ⟨-, hname, hmode⟩ := h
      exact hother ⟨pair.1, by rw [hmode], hname⟩
  | disable => rfl

/-- A rejected call leaves the configuration in memory alone. -/
theorem Call.memory_of_not_accepts {L : ScxLoader S B} {call : Call}
    (h : call.accepts L = false) (config : Config S) : call.memory L config = config := by
  cases call with
  | apply scxName scxMode extraFlags =>
    have hnone : accepted L scxName scxMode = none := by
      simpa [Call.accepts] using h
    unfold Call.memory
    dsimp only
    rw [hnone]
  | disable => cases h

/-- If nothing fails, the calls that save are those that are not rejected. -/
theorem Call.installs_succeed_iff {L : ScxLoader S B}
    (hserialises : ∀ config, (L.toToml config).isOk = true) (call : Call) (config : Config S) :
    call.Installs L .succeed config ↔ call.accepts L = true := by
  have hstages : Stages L .succeed (call.memory L config) := ⟨hserialises _, rfl, rfl⟩
  cases call with
  | apply scxName scxMode extraFlags =>
    exact ⟨fun h => h.1.1, fun h => ⟨⟨h, hstages⟩, rfl⟩⟩
  | disable => exact ⟨fun _ => rfl, fun _ => ⟨⟨hstages, rfl⟩, rfl⟩⟩

variable [DecidableEq ι]

/-- A call among several instances acts on what its own instance holds, and saves that unless it is
rejected. -/
theorem Instances.step_call {L : ScxLoader S B}
    (hserialises : ∀ config, (L.toToml config).isOk = true) {st st' : Instances ι S B} {i : ι}
    {call : Call} (h : st.step L (.call i call) = some st') :
    ∃ view, st.memory i = some view ∧
      st'.memory = Function.update st.memory i (some (call.memory L view)) ∧
      st'.stored L = if call.accepts L then .ok (call.memory L view) else st.stored L := by
  unfold Instances.step at h
  dsimp only at h
  obtain ⟨view, hview, happ⟩ := Option.bind_eq_some_iff.mp h
  obtain ⟨app, hstep, hst'⟩ := Option.bind_eq_some_iff.mp happ
  obtain rfl := Option.some.inj hst'
  have heffect := App.step_call hstep
  refine ⟨view, hview, by rw [heffect.memory], ?_⟩
  have hinstalls := Call.installs_succeed_iff hserialises call view
  unfold Instances.stored
  dsimp only
  by_cases haccepts : call.accepts L = true
  · obtain ⟨toml, htoml, hfile⟩ := heffect.installed (hinstalls.mpr haccepts)
    rw [if_pos haccepts, hfile, ← heffect.memory]
    exact L.parseConfigFile_toToml app.config toml htoml
  · rw [if_neg haccepts, heffect.kept fun h => haccepts (hinstalls.mp h)]

/-- Whether an instance is the last that loaded or saved the file, given whether it was so. -/
def InstanceEvent.leavesLast (L : ScxLoader S B) (i : ι) (last : Bool) : InstanceEvent ι → Bool
  | .start j => last || j == i
  | .call j c => if c.accepts L then j == i else last

/-- What is stored is what the instance holds, if it has started. -/
def Instances.HoldsStored (L : ScxLoader S B) (i : ι) (st : Instances ι S B) : Prop :=
  ∀ view, st.memory i = some view → st.stored L = .ok view

/-- The last instance that loaded or saved the file holds what is stored there. -/
theorem Instances.holdsStored_step {L : ScxLoader S B}
    (hserialises : ∀ config, (L.toToml config).isOk = true) {st st' : Instances ι S B} {i : ι}
    {last : Bool} {event : InstanceEvent ι} (hst : last = true → st.HoldsStored L i)
    (hstep : st.step L event = some st') (hlast : event.leavesLast L i last = true) :
    st'.HoldsStored L i := by
  intro view hview
  cases event with
  | start j =>
    obtain rfl := Option.some.inj hstep
    dsimp only at hview
    by_cases hji : j = i
    · subst hji
      rw [Function.update_self] at hview
      exact Config.initConfig_eq_some.mp hview
    · have hlast' : last = true := by simpa [InstanceEvent.leavesLast, hji] using hlast
      rw [Function.update_of_ne (Ne.symm hji)] at hview
      exact hst hlast' view hview
  | call j call =>
    obtain ⟨view', hview', hmemory, hstored⟩ := Instances.step_call hserialises hstep
    rw [hmemory] at hview
    rw [hstored]
    by_cases haccepts : call.accepts L = true
    · have hji : j = i := by simpa [InstanceEvent.leavesLast, haccepts] using hlast
      subst hji
      rw [Function.update_self] at hview
      rw [if_pos haccepts, Option.some.inj hview]
    · have hlast' : last = true := by simpa [InstanceEvent.leavesLast, haccepts] using hlast
      rw [Bool.not_eq_true] at haccepts
      rw [if_neg (by simp [haccepts])]
      by_cases hji : j = i
      · subst hji
        rw [Function.update_self, Call.memory_of_not_accepts haccepts] at hview
        exact hst hlast' view (hview'.trans hview)
      · rw [Function.update_of_ne (Ne.symm hji)] at hview
        exact hst hlast' view hview

/-- The call changes what is stored at most in its own settings. -/
def SavesOnlyItsOwn (L : ScxLoader S B) (call : Call) (st st' : Instances ι S B) : Prop :=
  ∃ before after, st.stored L = .ok before ∧ st'.stored L = .ok after ∧
    call.Confined L before after

/-- In every run of several instances, a call that is not rejected stores exactly what its instance
then holds, which differs from what it held before at most in the call's own settings; a rejected
call stores nothing. If the instance is the last that loaded or saved the file, what is stored
changes at most in the call's own settings. -/
theorem call_confined_to_view {L : ScxLoader S B}
    (hserialises : ∀ config, (L.toToml config).isOk = true) {st₀ st st' : Instances ι S B} {i : ι}
    {events : List (InstanceEvent ι)} {call : Call}
    (hrun : Runs.run (Instances.step L) st₀ events = some st)
    (hstep : st.step L (.call i call) = some st') :
    (∃ before after, st.memory i = some before ∧ st'.memory i = some after ∧
        call.Confined L before after ∧
        st'.stored L = if call.accepts L then .ok after else st.stored L) ∧
      (events.foldl (InstanceEvent.leavesLast L i) false = true → SavesOnlyItsOwn L call st st') := by
  obtain ⟨view, hview, hmemory, hstored⟩ := Instances.step_call hserialises hstep
  refine ⟨⟨view, call.memory L view, hview, ?_, call.confined_memory L view, hstored⟩, ?_⟩
  · rw [hmemory, Function.update_self]
  · intro hlast
    have hholds : events.foldl (InstanceEvent.leavesLast L i) false = true →
        st.HoldsStored L i := by
      have hstart : false = true → st₀.HoldsStored L i := fun h => by cases h
      refine Runs.run_simulates (R := fun st last => last = true → st.HoldsStored L i) ?_
        hstart hrun
      intro st last event st' hst hstep hlast'
      exact Instances.holdsStored_step hserialises hst hstep hlast'
    have hbefore := hholds hlast view hview
    by_cases haccepts : call.accepts L = true
    · rw [if_pos haccepts] at hstored
      exact ⟨view, call.memory L view, hbefore, hstored, call.confined_memory L view⟩
    · rw [if_neg haccepts] at hstored
      exact ⟨view, view, hbefore, hstored.trans hbefore, call.confined_refl L view⟩

/-- Two instances that have not started, on a system with an empty configuration stored. -/
def twoInstances : Instances Bool SampleSched (Config SampleSched) :=
  ⟨(startedApp ⟨none, none, ∅⟩).system, fun _ => none⟩

/-- The second instance starts after the first one has saved its flags, and keeps them. -/
theorem later_instance_keeps_flags :
    ∃ st st', Runs.run (Instances.step sampleLoader) twoInstances
        [.start false, .call false (.apply "scx_rusty" 2 "-k"), .start true] = some st ∧
      st.step sampleLoader (.call true (.apply "scx_bpfland" 0 "")) = some st' ∧
      SavesOnlyItsOwn sampleLoader (.apply "scx_bpfland" 0 "") st st' := by
  obtain ⟨st', h⟩ := Option.isSome_iff_exists.mp (show ((Runs.run (Instances.step sampleLoader)
    twoInstances [.start false, .call false (.apply "scx_rusty" 2 "-k"), .start true]).bind
      fun st => st.step sampleLoader (.call true (.apply "scx_bpfland" 0 ""))).isSome by decide)
  obtain ⟨st, hrun, hstep⟩ := Option.bind_eq_some_iff.mp h
  exact ⟨st, st', hrun, hstep, (call_confined_to_view (fun _ => rfl) hrun hstep).2 (by decide)⟩

/-- Both instances start first: the flags the first one saves are gone after a call of the second
one for another scheduler. -/
theorem earlier_instance_loses_flags :
    ∃ st st', Runs.run (Instances.step sampleLoader) twoInstances
        [.start false, .start true, .call false (.apply "scx_rusty" 2 "-k")] = some st ∧
      st.step sampleLoader (.call true (.apply "scx_bpfland" 0 "")) = some st' ∧
      ¬ SavesOnlyItsOwn sampleLoader (.apply "scx_bpfland" 0 "") st st' := by
  refine ⟨_, _, rfl, rfl, ?_⟩
  intro h
  obtain ⟨before, after, hbefore, hafter, hconfined⟩ := h
  have hother : ¬ ∃ sched, accepted sampleLoader "scx_bpfland" 0 = some (sched, .powerSave) ∧
      "scx_rusty" = sampleLoader.intoStr sched := by
    intro h
    obtain ⟨sched, haccepted, -⟩ := h
    have hmode : Option.map Prod.snd _ = some SchedMode.powerSave :=
      congrArg (Option.map Prod.snd) haccepted
    revert hmode
    decide
  have hkept := hconfined "scx_rusty" .powerSave hother
  rw [← Except.ok.inj hbefore, ← Except.ok.inj hafter] at hkept
  revert hkept
  decide

end ScxManager
