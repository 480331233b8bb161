import ScxManager.Leftovers
import ScxManager.Library.Drafts
import ScxManager.Lineages

/-!
# One process after another

A session ends with its process, be it that the window is closed or that a program the library needs is
missing and the process aborts. The configuration in memory is gone then, and the next process begins
with what is stored. So the process works on a draft of the configuration: a copy that is denied leaves a
change in the draft only, where the next copy of the same process still saves it. A copy that fails
halfway may leave a configuration that cannot be read, or another one, and the next copy of the same
process puts that right too.
-/

namespace ScxManager

open Actions

variable {S B : Type}

/-- A system and the configuration that the process on it holds, if one runs. -/
structure Lifetimes (S B : Type) where
  system : System S B
  process : Option (Config S)

/-- A process starts, is closed or makes a call, whose copy leaves something at `config_path` should it run
and fail, or the daemon is restarted. -/
inductive LifeEvent (S B : Type) where
  | start
  | close
  | call (call : Call) (o : Outcomes) (left : Option (List B))
  | restart (fallback : Config S) (running : Option (S × List String))

/-- What a process holds after a call: nothing if the call aborted it. -/
def heldAfter (ended : Ended (App S B) (Performed S) Error Unit) : Option (Config S) :=
  match ended.outcome with
  | .panic _ => none
  | _ => some ended.state.config

/-- One event. A process starts where none runs; if it cannot read the configuration it makes no calls. -/
def Lifetimes.step (L : ScxLoader S B) (st : Lifetimes S B) : LifeEvent S B → Option (Lifetimes S B)
  | .start =>
    if st.process.isNone then
      some { st with process := Config.initConfig L st.system.configFile }
    else none
  | .close => st.process.map fun _ => { st with process := none }
  | .call call o left => st.process.map fun config =>
    let ended := (call.actionLeaving L o left).run ⟨config, st.system⟩
    ⟨ended.state.system, heldAfter ended⟩
  | .restart fallback running => some { st with system := st.system.restart L fallback running }

/-- What a call that ended so does with the draft: it ends with the process, is saved if the call returned
success and its copy went through, and is worked on otherwise; a failed copy that changed the file has
spoilt what is stored. -/
def drafted (L : ScxLoader S B) (call : Call) (o : Outcomes) (left : Option (List B)) :
    Outcome Error Unit → Drafts.Event (Config S) Call
  | .panic _ => .drop
  | .ok _ =>
    if o.copy = .exited true then .save call
    else match left with
      | some content => .spoil call (L.parseConfigFile content).toOption
      | none => .work call
  | .err _ => .work call

/-- What an event does with the draft. -/
def Lifetimes.drafts (L : ScxLoader S B) (st : Lifetimes S B) :
    LifeEvent S B → List (Drafts.Event (Config S) Call)
  | .start => [.load]
  | .close => [.drop]
  | .call call o left =>
    (st.process.map fun config =>
      drafted L call o left ((call.actionLeaving L o left).run ⟨config, st.system⟩).outcome).toList
  | .restart _ _ => []

/-- The stored configuration, if it can be read, and what the process holds are these. -/
structure Lifetimes.Drafting (L : ScxLoader S B) (st : Lifetimes S B)
    (d : Drafts.Draft (Config S)) : Prop where
  stored : (initConfig L st.system.configFile).toOption = d.stored
  draft : st.process = d.draft

/-- A call that aborts the process has not changed the stored configuration. -/
theorem Call.Ends.configFile_of_panic {L : ScxLoader S B} {o : Outcomes} {call : Call}
    {app app' : App S B} {message : String} {log}
    (h : call.Ends L o app (.panic message) app' log) :
    app'.system.configFile = app.system.configFile := by
  have hcopied {app app' : App S B} {log}
      (h : ChildEnds (some .copyConfig) o.copy app (.panic message) app' log) :
      app'.system.configFile = app.system.configFile := by
    obtain ⟨-, -, hfile⟩ := h.copied
    cases h with
    | panicked command hneeded hresult => rw [hfile, hresult, if_neg (by simp)]
  cases call with
  | apply scxName scxMode extraFlags =>
    cases h with
    | legacyPanics hlegacy => exact (hlegacy.frame (legacyCommand_ne_copy o _)).1
    | enablePanics hlegacy haccepted henable => exact (ApplyEnds.prepared hlegacy henable).2.1
    | written hlegacy haccepted henable hwrite hcopy =>
      rw [hcopied hcopy, hwrite.frame.2.1]
      exact (ApplyEnds.prepared hlegacy henable).2.1
  | disable =>
    cases h with
    | stopped hwrite hstop hcopy =>
      rw [hcopied hcopy]
      exact hwrite.frame.2.1

/-- What is left of a file by a copy is nothing to a call that aborts. -/
theorem Call.actionLeaving_of_panic {L : ScxLoader S B} {o : Outcomes} {left : Option (List B)}
    {call : Call} {app : App S B} {message : String}
    (h : ((call.actionLeaving L o left).run app).outcome = .panic message) :
    ((call.actionLeaving L o left).run app).state.system.configFile = app.system.configFile := by
  have hends := call.action_ends L o app
  rw [Call.actionLeaving_run] at h ⊢
  unfold wp at hends
  dsimp only at h ⊢
  rw [h] at hends ⊢
  rw [if_neg (by simp)]
  exact hends.configFile_of_panic

/-- A call acts on the stored configuration and on what its process holds as its outcome says. -/
theorem Lifetimes.drafting_call {L : ScxLoader S B} {st : Lifetimes S B}
    {d : Drafts.Draft (Config S)} {config : Config S} (h : st.Drafting L d)
    (hconfig : st.process = some config) (call : Call) (o : Outcomes) (left : Option (List B)) :
    let ended := (call.actionLeaving L o left).run ⟨config, st.system⟩
    ∃ d', Drafts.step (fun config call => call.memory L config) d
        (drafted L call o left ended.outcome) = some d' ∧
      Lifetimes.Drafting L ⟨ended.state.system, heldAfter ended⟩ d' := by
  intro ended
  have hanswers := call.actionLeaving_answers L o left ⟨config, st.system⟩
  have heffect := call.actionLeaving_effect L o left ⟨config, st.system⟩
  have hpanic : ∀ message, ended.outcome = .panic message →
      ended.state.system.configFile = st.system.configFile :=
    fun message => Call.actionLeaving_of_panic
  change call.Answers L o ⟨config, st.system⟩ ended.outcome ended.log at hanswers
  change (∀ message, ended.outcome ≠ .panic message) → ended.state.config = call.memory L config ∧
    ended.state.system.configFile = (call.puts L o left config).or st.system.configFile at heffect
  have hdraft : d.draft = some config := h.draft.symm.trans hconfig
  -- work on the draft that does not reach the file
  have hworked (hmemory : ended.state.config = call.memory L config)
      (hfile : ended.state.system.configFile = st.system.configFile) :
      ∃ d', Drafts.step (fun config call => call.memory L config) d (.work call) = some d' ∧
        Lifetimes.Drafting L ⟨ended.state.system, some ended.state.config⟩ d' := by
    refine ⟨{ d with draft := some (call.memory L config) }, ?_, ?_, congrArg some hmemory⟩
    · rw [Drafts.step, hdraft]
      rfl
    · rw [hfile]
      exact h.stored
  unfold drafted heldAfter
  generalize ended.outcome = outcome at hanswers heffect hpanic
  cases hanswers with
  | aborted =>
    refine ⟨{ d with draft := none }, rfl, ?_, rfl⟩
    rw [hpanic _ rfl]
    exact h.stored
  | failed _ hcopy =>
    obtain ⟨hmemory, hfile⟩ := heffect fun _ hpanics => by cases hpanics
    rw [Call.puts, if_neg hcopy] at hfile
    exact hworked hmemory hfile
  | done hreturns hcopy =>
    obtain ⟨hmemory, hfile⟩ := heffect fun _ hpanics => by cases hpanics
    dsimp only
    obtain hcopied | hfailed := hreturns.copy_cases hcopy
    · obtain ⟨toml, htoml, hputs⟩ := Call.puts_of_installs left ⟨hcopy, hcopied⟩
      rw [hputs] at hfile
      rw [if_pos hcopied]
      refine ⟨⟨some (call.memory L config), some (call.memory L config)⟩, ?_, ?_,
        congrArg some hmemory⟩
      · rw [Drafts.step, hdraft]
        rfl
      · rw [hfile]
        exact congrArg Except.toOption (L.parseConfigFile_toToml _ toml htoml)
    · rw [Call.puts_of_failed left hcopy hfailed] at hfile
      rw [if_neg (by simp [hfailed])]
      cases left with
      | none => exact hworked hmemory hfile
      | some content =>
        refine ⟨⟨(L.parseConfigFile content).toOption, some (call.memory L config)⟩, ?_, ?_,
          congrArg some hmemory⟩
        · rw [Drafts.step, hdraft]
          rfl
        · rw [hfile]
          rfl

/-- Every event takes the stored configuration and the process through what it does with the draft. -/
theorem Lifetimes.drafting_step {L : ScxLoader S B} {st st' : Lifetimes S B}
    {d : Drafts.Draft (Config S)} {event : LifeEvent S B} (h : st.Drafting L d)
    (hstep : st.step L event = some st') :
    ∃ d', Runs.run (Drafts.step fun config call => call.memory L config) d (st.drafts L event) =
        some d' ∧ st'.Drafting L d' := by
  cases event with
  | start =>
    obtain ⟨-, hst'⟩ := Option.ite_none_right_eq_some.mp hstep
    obtain rfl := Option.some.inj hst'
    refine ⟨{ d with draft := d.stored }, rfl, h.stored, ?_⟩
    exact (Config.initConfig_eq L _).trans h.stored
  | close =>
    obtain ⟨config, -, rfl⟩ := Option.map_eq_some_iff.mp hstep
    exact ⟨{ d with draft := none }, rfl, h.stored, rfl⟩
  | call call o left =>
    obtain ⟨config, hconfig, rfl⟩ := Option.map_eq_some_iff.mp hstep
    obtain ⟨d', hd', hdrafting⟩ := Lifetimes.drafting_call h hconfig call o left
    refine ⟨d', ?_, hdrafting⟩
    unfold Lifetimes.drafts
    rw [hconfig]
    exact Runs.run_cons_eq_some.mpr ⟨d', hd', rfl⟩
  | restart fallback running =>
    obtain rfl := Option.some.inj hstep
    exact ⟨d, rfl, h.stored, h.draft⟩

/-- What has happened to the draft so far. -/
def Lifetimes.recordDrafts (L : ScxLoader S B) (st : Lifetimes S B)
    (trace : List (Drafts.Event (Config S) Call)) (event : LifeEvent S B) :
    List (Drafts.Event (Config S) Call) := trace ++ st.drafts L event

/-- However processes start, end and abort one after another, and however their calls and the daemon go,
as long as every failed copy that changes the file is followed by one of the same process that goes
through: the stored configuration can be read in the end, and is the first one changed by those calls, in
order, that were installed or followed by one that was in the same process. What a process holds is that,
changed by its calls since. No call that returned is missing from the stored configuration exactly if each
was saved so. -/
theorem lifetimes_durable {L : ScxLoader S B} {st₀ st : Lifetimes S B} {config₀ : Config S}
    (hstored : initConfig L st₀.system.configFile = .ok config₀) (hprocess : st₀.process = none)
    {events : List (LifeEvent S B)} {trace : List (Drafts.Event (Config S) Call)}
    (hrun : Runs.run (Runs.recorded (Lifetimes.step L) (Lifetimes.recordDrafts L)) (st₀, []) events =
      some (st, trace)) (hrepaired : Drafts.EachRepaired trace) :
    initConfig L st.system.configFile = .ok (replay L config₀ (Drafts.durable trace)) ∧
      (∀ config, st.process = some config →
        config = replay L (replay L config₀ (Drafts.durable trace)) (Drafts.unsaved trace)) ∧
      (Drafts.durable trace = Drafts.ops trace ↔ Drafts.EachSaved trace) := by
  have hstart : st₀.Drafting L ⟨some config₀, none⟩ := ⟨by rw [hstored]; rfl, hprocess⟩
  have hinv : ∃ d, Runs.run (Drafts.step fun config call => call.memory L config)
      ⟨some config₀, none⟩ trace = some d ∧ st.Drafting L d := by
    refine Runs.run_invariant (I := fun s : Lifetimes S B × List (Drafts.Event (Config S) Call) =>
      ∃ d, Runs.run (Drafts.step fun config call => call.memory L config) ⟨some config₀, none⟩ s.2 =
        some d ∧ s.1.Drafting L d) ?_ ⟨_, rfl, hstart⟩ hrun
    rintro s event s' ⟨d, hd, hs⟩ hs'
    obtain ⟨next, hnext, rfl⟩ := Option.map_eq_some_iff.mp hs'
    obtain ⟨d', hd', hdrafting⟩ := Lifetimes.drafting_step hs hnext
    exact ⟨d', Runs.run_append_eq_some.mpr ⟨d, hd, hd'⟩, hdrafting⟩
  obtain ⟨d, hd, hdrafting⟩ := hinv
  have hdurable : d.stored = some (replay L config₀ (Drafts.durable trace)) := by
    rw [Drafts.stored_of_run hrepaired hd, Option.none_or, ite_self]
    rfl
  refine ⟨?_, ?_, Drafts.durable_eq_ops_iff trace⟩
  · exact toOption_eq_some.mp (hdrafting.stored.trans hdurable)
  · intro config hconfig
    obtain ⟨base, hbase, hvalue⟩ :=
      Drafts.draft_of_run hrepaired rfl hd (hdrafting.draft.symm.trans hconfig)
    obtain rfl := Option.some.inj (hdurable.symm.trans hbase)
    exact hvalue

/-- A system with no process on it. -/
def idleSystem : Lifetimes SampleSched (Config SampleSched) :=
  ⟨(startedApp ⟨none, none, ∅⟩).system, none⟩

/-- A call whose copy is denied is lost when the process aborts in its next call; in the next process a
copy that fails and leaves an empty file is put right by the call after it. -/
theorem lifetimes_durable_denied :
    ∃ st, Runs.run (Runs.recorded (Lifetimes.step sampleLoader) (Lifetimes.recordDrafts sampleLoader))
        (idleSystem, [])
        [.start, .call (.apply "scx_rusty" 0 "-k") .copyDenied none,
          .call .disable { Outcomes.succeed with copy := .notSpawned } none,
          .start, .call (.apply "scx_rusty" 1 "-v") .copyDenied (some []),
          .call (.apply "scx_bpfland" 0 "-m") .succeed none, .close] =
        some (st, [.load, .work (.apply "scx_rusty" 0 "-k"), .drop,
          .load, .spoil (.apply "scx_rusty" 1 "-v") none, .save (.apply "scx_bpfland" 0 "-m"),
          .drop]) ∧
      initConfig sampleLoader st.system.configFile = .ok (replay sampleLoader ⟨none, none, ∅⟩
        [.apply "scx_rusty" 1 "-v", .apply "scx_bpfland" 0 "-m"]) := by
  have hrun : Runs.run
      (Runs.recorded (Lifetimes.step sampleLoader) (Lifetimes.recordDrafts sampleLoader))
      (idleSystem, [])
      [.start, .call (.apply "scx_rusty" 0 "-k") .copyDenied none,
        .call .disable { Outcomes.succeed with copy := .notSpawned } none,
        .start, .call (.apply "scx_rusty" 1 "-v") .copyDenied (some []),
        .call (.apply "scx_bpfland" 0 "-m") .succeed none, .close] =
      some (_, [.load, .work (.apply "scx_rusty" 0 "-k"), .drop,
        .load, .spoil (.apply "scx_rusty" 1 "-v") none, .save (.apply "scx_bpfland" 0 "-m"),
        .drop]) := rfl
  have hstored : initConfig sampleLoader idleSystem.system.configFile = .ok ⟨none, none, ∅⟩ := rfl
  refine ⟨_, hrun, (lifetimes_durable hstored rfl hrun ?_).1⟩
  -- the only event that spoils the file is saved after
  simp [Drafts.EachRepaired, Drafts.savedAfter_cons, Drafts.savedAfter_nil, Drafts.Event.spoils,
    Drafts.saves]

end ScxManager
