import ScxManager.Leftovers
import ScxManager.Running

/-!
# The same call again

A call that failed may be made again, any number of times. For memory and for the file at `config_path`
that is safe: further attempts change nothing in memory, and an attempt that installs puts right what
failed copies have left of the file. For the daemon it is not: from the second attempt on the configuration in memory gives the arguments that
are asked for, so the request is made by mode and the daemon runs what it has read itself.
-/

namespace ScxManager

variable {S B : Type}

/-- After an accepted apply its scheduler and mode resolve to its arguments. -/
theorem switchesByMode_applied (L : ScxLoader S B) (scxSched : S) (schedMode : SchedMode)
    (schedArgs : List String) (config : Config S) :
    SwitchesByMode L scxSched schedMode schedArgs
      (applied L scxSched schedMode schedArgs config) := by
  classical
  have hflags := getScxFlagsForMode_applied L scxSched scxSched schedMode schedMode schedArgs config
  rw [if_pos ⟨rfl, rfl⟩] at hflags
  exact hflags.symm

/-- A call asks nothing new of what it has made of a configuration itself. -/
theorem Call.memory_memory (L : ScxLoader S B) (call : Call) (config : Config S) :
    call.memory L (call.memory L config) = call.memory L config := by
  rw [Call.memory_eq_self_iff]
  cases call with
  | apply scxName scxMode extraFlags =>
    intro scxSched schedMode haccepted
    have hmemory : (Call.apply scxName scxMode extraFlags).memory L config =
        applied L scxSched schedMode (schedArgsOf extraFlags) config := by
      simp only [Call.memory, haccepted]
    rw [hmemory]
    exact ⟨applied_defaultSched .., applied_defaultMode .., switchesByMode_applied ..⟩
  | disable => rfl

/-- Whether a call gets as far as its copy does not depend on whether it was made before. -/
theorem Call.reachesCopy_memory (L : ScxLoader S B) (o : Outcomes) (call : Call) (config : Config S) :
    call.ReachesCopy L o (call.memory L config) ↔ call.ReachesCopy L o config := by
  cases call with
  | apply scxName scxMode extraFlags =>
    unfold Call.ReachesCopy
    dsimp only
    rw [Call.memory_memory]
  | disable => exact Iff.rfl

/-- An attempt at a call: how its external steps turn out, and what its copy leaves at `config_path`
should it run and fail. -/
structure Attempt (B : Type) where
  outcomes : Outcomes
  left : Option (List B)

/-- What an attempt at a call puts at `config_path`, if anything. -/
def Attempt.puts (L : ScxLoader S B) (call : Call) (config : Config S) (attempt : Attempt B) :
    Option (List B) := call.puts L attempt.outcomes attempt.left config

/-- What it puts there does not depend on whether the call was made before. -/
theorem Attempt.puts_memory (L : ScxLoader S B) (call : Call) (config : Config S) :
    Attempt.puts L call (call.memory L config) = Attempt.puts L call config := by
  funext attempt
  unfold Attempt.puts Call.puts
  simp only [Call.reachesCopy_memory, Call.memory_memory]

/-- One more attempt at a call; a panic leaves no instance to make another. -/
def App.attempt (L : ScxLoader S B) (call : Call) (app : App S B) (attempt : Attempt B) :
    Option (App S B) :=
  match (call.actionLeaving L attempt.outcomes attempt.left).run app with
  | ⟨.panic _, _, _⟩ => none
  | ended => some ended.state

/-- An attempt that returns has the effect of its call. -/
theorem App.attempt_effect {L : ScxLoader S B} {call : Call} {app app' : App S B}
    {attempt : Attempt B} (h : app.attempt L call attempt = some app') :
    app'.config = call.memory L app.config ∧
      app'.system.configFile =
        (attempt.puts L call app.config).or app.system.configFile := by
  have heffect := call.actionLeaving_effect L attempt.outcomes attempt.left app
  unfold App.attempt at h
  rcases hended : (call.actionLeaving L attempt.outcomes attempt.left).run app with ⟨outcome, state, log⟩
  rw [hended] at h heffect
  cases outcome with
  | panic message => cases h
  | ok value =>
    obtain rfl : state = app' := Option.some.inj h
    exact heffect (by simp)
  | err error =>
    obtain rfl : state = app' := Option.some.inj h
    exact heffect (by simp)

/-- After some attempts memory is what one makes of it, and the file what the last of them that put
anything there has put there. -/
theorem App.attempts_effect {L : ScxLoader S B} {call : Call} {app app' : App S B}
    {tries : List (Attempt B)} (hrun : Runs.run (App.attempt L call) app tries = some app') :
    (tries ≠ [] → app'.config = call.memory L app.config) ∧
      app'.system.configFile =
        (tries.filterMap (Attempt.puts L call app.config)).getLast?.or app.system.configFile := by
  induction tries generalizing app with
  | nil =>
    obtain rfl : app = app' := Option.some.inj hrun
    simp
  | cons attempt rest ih =>
    obtain ⟨app₁, hstep, hrest⟩ := Runs.run_cons_eq_some.mp hrun
    obtain ⟨hconfig, hfile⟩ := App.attempt_effect hstep
    obtain ⟨hmemory, hlast⟩ := ih hrest
    simp only [hconfig, Call.memory_memory, Attempt.puts_memory] at hmemory hlast
    constructor
    · intro _
      cases rest with
      | nil =>
        obtain rfl : app₁ = app' := Option.some.inj hrest
        exact hconfig
      | cons => exact hmemory (List.cons_ne_nil _ _)
    · rw [hlast, hfile, List.filterMap_cons]
      cases attempt.puts L call app.config with
      | none => rfl
      | some content =>
        rw [List.getLast?_cons]
        cases (rest.filterMap (Attempt.puts L call app.config)).getLast? <;> rfl

/-- However many attempts that return are made at a call, and however they turn out, memory is what one of
them makes of it. The file is what the last of them that put anything there has put there, be it that
configuration or what a failed copy left, so it holds that configuration if a copy went through and no
failed one after it changed the file. -/
theorem attempts_settle {L : ScxLoader S B} {app app' : App S B} {call : Call}
    {tries : List (Attempt B)} (hrun : Runs.run (App.attempt L call) app tries = some app') :
    (tries ≠ [] → app'.config = call.memory L app.config) ∧
      app'.system.configFile =
        (tries.filterMap (Attempt.puts L call app.config)).getLast?.or app.system.configFile ∧
      ∀ before attempt after, tries = before ++ attempt :: after →
        call.Installs L attempt.outcomes app.config →
        (∀ later ∈ after, later.outcomes.copy = .exited false → later.left = none) →
          ∃ toml, L.toToml (call.memory L app.config) = .ok toml ∧
            app'.system.configFile = some toml := by
  obtain ⟨hmemory, hlast⟩ := App.attempts_effect hrun
  refine ⟨hmemory, hlast, ?_⟩
  intro before attempt after htries hinstalls hlater
  obtain ⟨toml, htoml, hputs⟩ := Call.puts_of_installs attempt.left hinstalls
  change attempt.puts L call app.config = some toml at hputs
  refine ⟨toml, htoml, ?_⟩
  -- all that is put there from this attempt on is the configuration
  have hsame : ∀ content ∈ toml :: after.filterMap (Attempt.puts L call app.config),
      content = toml := by
    intro content hcontent
    obtain rfl | hmem := List.mem_cons.mp hcontent
    · rfl
    · obtain ⟨later, hmem, hcontent⟩ := List.mem_filterMap.mp hmem
      obtain hsaved | ⟨hcopy, hleft⟩ := Call.puts_eq_some hcontent
      · exact (Except.ok.inj (htoml.symm.trans hsaved)).symm
      · rw [hlater later hmem hcopy] at hleft
        cases hleft
  rw [hlast, htries, List.filterMap_append, List.filterMap_cons_some hputs,
    List.getLast?_append_of_ne_nil _ (List.cons_ne_nil _ _),
    List.getLast?_eq_some_getLast (List.cons_ne_nil _ _)]
  exact congrArg some (hsame _ (List.getLast_mem _))

/-- The attempts at a call, each with its own outcomes, when failed copies leave the file alone. -/
def attempts (call : Call) (os : List Outcomes) : List (Event S) := os.map (Event.call call)

/-- The outcomes of a call whose switch the daemon refuses, which is only printed. -/
def refusedSwitch : Outcomes := { Outcomes.succeed with switch := .error ⟨["busy"]⟩ }

/-- A copy that fails halfway, a try that goes through, one that cannot stage and one that is denied. -/
theorem attempts_settle_third :
    ∃ app, Runs.run (App.attempt sampleLoader (.apply "scx_rusty" 2 "-k"))
        (startedApp ⟨none, none, ∅⟩) ([⟨.copyDenied, some []⟩] ++ ⟨.succeed, none⟩ ::
          [⟨{ Outcomes.succeed with create := .error ⟨["No space left on device"]⟩ }, none⟩,
            ⟨.copyDenied, none⟩]) = some app ∧
      ∃ toml, sampleLoader.toToml ((Call.apply "scx_rusty" 2 "-k").memory sampleLoader
          (startedApp ⟨none, none, ∅⟩).config) = .ok toml ∧
        app.system.configFile = some toml := by
  have hrun : Runs.run (App.attempt sampleLoader (.apply "scx_rusty" 2 "-k"))
      (startedApp ⟨none, none, ∅⟩) ([⟨.copyDenied, some []⟩] ++ ⟨.succeed, none⟩ ::
        [⟨{ Outcomes.succeed with create := .error ⟨["No space left on device"]⟩ }, none⟩,
          ⟨.copyDenied, none⟩]) = some _ := rfl
  refine ⟨_, hrun, (attempts_settle hrun).2.2 _ _ _ rfl ⟨⟨rfl, rfl, rfl, rfl⟩, rfl⟩ ?_⟩
  simp

/-- Attempts at arguments that the configuration in memory gives already are requests by mode. -/
theorem attempts_by_mode {L : ScxLoader S B} {app app' : App S B} {scxName : String}
    {scxMode : UInt32} {extraFlags : String} {scxSched : S} {schedMode : SchedMode}
    {os : List Outcomes} (haccepted : accepted L scxName scxMode = some (scxSched, schedMode))
    (hmode : SwitchesByMode L scxSched schedMode (schedArgsOf extraFlags) app.config)
    (hrun : Runs.run (App.step L) app (attempts (.apply scxName scxMode extraFlags) os) = some app') :
    ((∃ o ∈ os, o.switch.isOk = true) → app'.system.daemon.running =
        some (scxSched, L.getScxFlagsForMode app.system.daemon.config scxSched schedMode)) ∧
      ((∀ o ∈ os, ¬ o.switch.isOk = true) →
        app'.system.daemon.running = app.system.daemon.running) := by
  induction os generalizing app with
  | nil =>
    obtain rfl : app = app' := Option.some.inj hrun
    simp
  | cons o rest ih =>
    obtain ⟨app₁, hstep, hrest⟩ := Runs.run_cons_eq_some.mp hrun
    have hmode₁ : SwitchesByMode L scxSched schedMode (schedArgsOf extraFlags) app₁.config := by
      rw [(App.step_call hstep).memory]
      simp only [Call.memory, haccepted]
      exact switchesByMode_applied ..
    have hrunning := App.step_running hstep
    simp only [Call.running, haccepted, switchedArgs, if_pos hmode] at hrunning
    obtain ⟨hgranted, hrefused⟩ := ih hmode₁ hrest
    rw [(App.step_call hstep).daemonConfig] at hgranted
    constructor
    · intro hany
      by_cases hlater : ∃ o ∈ rest, o.switch.isOk = true
      · exact hgranted hlater
      · have hfirst : o.switch.isOk = true := by
          obtain ⟨o', ho', hok⟩ := hany
          obtain rfl | hmem := List.mem_cons.mp ho'
          · exact hok
          · exact absurd ⟨o', hmem, hok⟩ hlater
        rw [if_pos hfirst] at hrunning
        exact (hrefused fun o' ho' hok => hlater ⟨o', ho', hok⟩).trans hrunning
    · intro hnone
      rw [List.forall_mem_cons] at hnone
      rw [if_neg hnone.1] at hrunning
      exact (hrefused hnone.2).trans hrunning

/-- Only the first attempt at an apply can hand its arguments to the daemon. Once a later one is granted,
the daemon runs what its own configuration gives for the scheduler and mode, whatever was asked for; if
none is, what the first one left keeps running. -/
theorem attempts_running {L : ScxLoader S B} {app app' : App S B} {scxName : String}
    {scxMode : UInt32} {extraFlags : String} {scxSched : S} {schedMode : SchedMode} {o : Outcomes}
    {rest : List Outcomes}
    (haccepted : accepted L scxName scxMode = some (scxSched, schedMode))
    (hrun : Runs.run (App.step L) app
      (attempts (.apply scxName scxMode extraFlags) (o :: rest)) = some app') :
    ((∃ o' ∈ rest, o'.switch.isOk = true) → app'.system.daemon.running =
        some (scxSched, L.getScxFlagsForMode app.system.daemon.config scxSched schedMode)) ∧
      ((∀ o' ∈ rest, ¬ o'.switch.isOk = true) → app'.system.daemon.running =
        if o.switch.isOk then
          some (scxSched, switchedArgs L scxSched schedMode (schedArgsOf extraFlags) app)
        else app.system.daemon.running) := by
  obtain ⟨app₁, hstep, hrest⟩ := Runs.run_cons_eq_some.mp hrun
  have heffect := App.step_call hstep
  have hmode₁ : SwitchesByMode L scxSched schedMode (schedArgsOf extraFlags) app₁.config := by
    rw [heffect.memory]
    simp only [Call.memory, haccepted]
    exact switchesByMode_applied ..
  have hrunning := App.step_running hstep
  simp only [Call.running, haccepted] at hrunning
  rw [← hrunning, ← heffect.daemonConfig]
  exact attempts_by_mode haccepted hmode₁ hrest

/-- Flags whose first switch was refused are lost to the daemon on the second attempt. -/
theorem attempts_running_second :
    ∃ app, Runs.run (App.step sampleLoader) (startedApp ⟨none, none, ∅⟩)
        (attempts (.apply "scx_rusty" 2 "-k") [refusedSwitch, .succeed]) = some app ∧
      app.system.daemon.running = some (.rusty, []) := by
  have hrun : Runs.run (App.step sampleLoader) (startedApp ⟨none, none, ∅⟩)
      (attempts (.apply "scx_rusty" 2 "-k") [refusedSwitch, .succeed]) = some _ := rfl
  have haccepted : accepted sampleLoader "scx_rusty" 2 = some (.rusty, .powerSave) := rfl
  refine ⟨_, hrun, ?_⟩
  exact (attempts_running haccepted hrun).1 ⟨.succeed, List.mem_singleton_self _, rfl⟩

end ScxManager
