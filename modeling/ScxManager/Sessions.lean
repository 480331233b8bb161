import ScxManager.CallEnds
import ScxManager.Library.Runs

/-!
# Sessions of one app instance

A session is a sequence of calls of one instance, each with the outcomes of its external steps,
and of restarts of the loader daemon between them. A panic aborts the process, so no call
follows it. What a call makes of the configuration in memory depends on the call alone; whether
it reaches the file at `config_path` depends on the outcomes.
-/

namespace ScxManager

open Actions

variable {S B : Type}

/-- The two calls that change something. -/
inductive Call where
  | apply (scxName : String) (scxMode : UInt32) (extraFlags : String)
  | disable

/-- The action of a call. -/
def Call.action (L : ScxLoader S B) (o : Outcomes) : Call → LibCall S B Unit
  | .apply scxName scxMode extraFlags =>
    applySchedulerChange L o scxName scxMode extraFlags
  | .disable => disableScheduler L o

/-- The ends of a call. -/
def Call.Ends (L : ScxLoader S B) (o : Outcomes) (app : App S B) :
    Call → Outcome Error Unit → App S B → List (Performed S) → Prop
  | .apply scxName scxMode extraFlags =>
    ApplyEnds L o scxName scxMode extraFlags app
  | .disable => DisableEnds L o app

/-- Every call ends in one of its ways. -/
theorem Call.action_ends (L : ScxLoader S B) (o : Outcomes) (app : App S B) (call : Call) :
    wp (call.action L o) (call.Ends L o app) app := by
  cases call with
  | apply scxName scxMode extraFlags =>
    exact applySchedulerChange_ends L o scxName scxMode extraFlags app
  | disable => exact disableScheduler_ends L o app

/-- The configuration a returning call leaves in memory. -/
def Call.memory (L : ScxLoader S B) (call : Call) (config : Config S) : Config S :=
  match call with
  | .apply scxName scxMode extraFlags =>
    match accepted L scxName scxMode with
    | some (scxSched, schedMode) => applied L scxSched schedMode (schedArgsOf extraFlags) config
    | none => config
  | .disable => disabled config

/-- The call gets as far as copying its configuration to `config_path`. -/
def Call.ReachesCopy (L : ScxLoader S B) (o : Outcomes) (call : Call) (config : Config S) : Prop :=
  match call with
  | .apply scxName scxMode _ =>
    (accepted L scxName scxMode).isSome ∧ Stages L o (call.memory L config)
  | .disable => Stages L o (call.memory L config) ∧ o.stop = .ok ()

instance (L : ScxLoader S B) (o : Outcomes) (call : Call) (config : Config S) :
    Decidable (call.ReachesCopy L o config) :=
  match call with
  | .apply scxName scxMode extraFlags => inferInstanceAs (Decidable
      ((accepted L scxName scxMode).isSome ∧
        Stages L o ((Call.apply scxName scxMode extraFlags).memory L config)))
  | .disable => inferInstanceAs (Decidable
      (Stages L o (Call.disable.memory L config) ∧ o.stop = .ok ()))

/-- The call copies its configuration to `config_path`. -/
def Call.Installs (L : ScxLoader S B) (o : Outcomes) (call : Call) (config : Config S) : Prop :=
  call.ReachesCopy L o config ∧ o.copy = .exited true

/-- A child process other than the copy leaves the files and the daemon alone. -/
theorem ChildEnds.frame {needed : Option Command} {result : Spawned} {app app' : App S B} {outcome}
    {log} (h : ChildEnds needed result app outcome app' log) (hneeded : needed ≠ some .copyConfig) :
    app'.system.configFile = app.system.configFile ∧
      app'.system.stagingFile = app.system.stagingFile ∧
      app'.system.daemon = app.system.daemon := by
  have heffect : ∀ command, needed = some command →
      (command.effect app.system).configFile = app.system.configFile ∧
        (command.effect app.system).stagingFile = app.system.stagingFile ∧
        (command.effect app.system).daemon = app.system.daemon := by
    intro command hcommand
    cases command with
    | disableScx => exact ⟨rfl, rfl, rfl⟩
    | stopScx => exact ⟨rfl, rfl, rfl⟩
    | enableScxLoader => exact ⟨rfl, rfl, rfl⟩
    | copyConfig => exact absurd hcommand hneeded
  rw [h.system]
  refine ⟨?_, ?_, ?_⟩
  · exact System.afterChild_frame System.configFile (fun command h => (heffect command h).1) result
  · exact System.afterChild_frame System.stagingFile (fun command h => (heffect command h).2.1) result
  · exact System.afterChild_frame System.daemon (fun command h => (heffect command h).2.2) result

theorem legacyCommand_ne_copy (o : Outcomes) (system : System S B) :
    legacyCommand o system ≠ some .copyConfig := by
  intro h
  obtain h | h := legacyCommand_eq_some h
  · cases h
  · cases h

theorem enableCommand_ne_copy (o : Outcomes) (system : System S B) :
    enableCommand o system ≠ some .copyConfig := by
  intro h
  cases enableCommand_eq_some h

/-- Staging leaves everything but the staging file alone. -/
theorem WriteEnds.frame {L : ScxLoader S B} {o : Outcomes} {app app' : App S B} {outcome} {log}
    (h : WriteEnds L o app outcome app' log) :
    app'.config = app.config ∧ app'.system.configFile = app.system.configFile ∧
      app'.system.daemon = app.system.daemon := by
  cases h with
  | notSerialised => exact ⟨rfl, rfl, rfl⟩
  | notCreated => exact ⟨rfl, rfl, rfl⟩
  | cut => exact ⟨rfl, rfl, rfl⟩
  | written => exact ⟨rfl, rfl, rfl⟩

/-- The switch request leaves the files and the daemon's configuration alone. -/
theorem App.switched_frame (L : ScxLoader S B) (o : Outcomes) (scxSched : S)
    (scxMode : SchedMode) (schedArgs : List String) (app : App S B) :
    (app.switched L o scxSched scxMode schedArgs).system.configFile = app.system.configFile ∧
      (app.switched L o scxSched scxMode schedArgs).system.daemon.config =
        app.system.daemon.config := by
  unfold App.switched
  split <;> exact ⟨rfl, rfl⟩

/-- A copy that succeeds puts the staged content at `config_path`; no other end changes that file. -/
theorem ChildEnds.copied {o : Outcomes} {app app' : App S B} {outcome} {log}
    (h : ChildEnds (some .copyConfig) o.copy app outcome app' log) :
    app'.config = app.config ∧ app'.system.daemon = app.system.daemon ∧
      app'.system.configFile =
        if o.copy = .exited true then app.system.stagingFile.or app.system.configFile
        else app.system.configFile := by
  cases h with
  | notNeeded hneeded => cases hneeded
  | panicked command hneeded hresult => simp [hresult]
  | exited command success hneeded hresult =>
    cases hneeded
    cases success with
    | false => simp [hresult]
    | true =>
      simp only [hresult, if_true]
      exact ⟨rfl, rfl, rfl⟩

/-- Up to the switch and the service an apply call has changed neither memory nor files. -/
theorem ApplyEnds.prepared {L : ScxLoader S B} {o : Outcomes} {app app₁ app₂ : App S B}
    {scxSched : S} {schedMode : SchedMode} {schedArgs : List String} {outcome outcome'} {log₁ log₂}
    (hlegacy : ChildEnds (legacyCommand o app.system) o.scxService app outcome app₁ log₁)
    (henable : ChildEnds (enableCommand o app.system) o.enableLoader
      (app₁.switched L o scxSched schedMode schedArgs) outcome' app₂ log₂) :
    app₂.config = app.config ∧ app₂.system.configFile = app.system.configFile ∧
      app₂.system.daemon.config = app.system.daemon.config := by
  obtain ⟨hfile₁, -, hdaemon₁⟩ := hlegacy.frame (legacyCommand_ne_copy o _)
  obtain ⟨hfile₂, -, hdaemon₂⟩ := henable.frame (enableCommand_ne_copy o _)
  obtain ⟨hfile, hdaemon⟩ := App.switched_frame L o scxSched schedMode schedArgs app₁
  refine ⟨?_, ?_, ?_⟩
  · rw [henable.config, App.switched_config, hlegacy.config]
  · rw [hfile₂, hfile, hfile₁]
  · rw [hdaemon₂, hdaemon, hdaemon₁]

/-- What a call leaves in memory, at `config_path` and in the daemon's configuration. -/
structure CallEffect (L : ScxLoader S B) (o : Outcomes) (call : Call) (app app' : App S B) :
    Prop where
  memory : app'.config = call.memory L app.config
  daemonConfig : app'.system.daemon.config = app.system.daemon.config
  installed : call.Installs L o app.config →
    ∃ toml, L.toToml app'.config = .ok toml ∧ app'.system.configFile = some toml
  kept : ¬ call.Installs L o app.config → app'.system.configFile = app.system.configFile

/-- A call that installs puts into the file what it leaves in memory. -/
theorem CallEffect.initConfig_installed {L : ScxLoader S B} {o : Outcomes} {call : Call}
    {app app' : App S B} (h : CallEffect L o call app app')
    (hinstalls : call.Installs L o app.config) :
    initConfig L app'.system.configFile = .ok app'.config := by
  obtain ⟨toml, htoml, hfile⟩ := h.installed hinstalls
  rw [hfile]
  exact L.parseConfigFile_toToml app'.config toml htoml

/-- An apply call that returns acts on memory as `Call.memory` says, and reaches `config_path`
exactly if it installs. -/
theorem ApplyEnds.effect {L : ScxLoader S B} {o : Outcomes} {scxName : String} {scxMode : UInt32}
    {extraFlags : String} {app app' : App S B} {outcome} {log}
    (h : ApplyEnds L o scxName scxMode extraFlags app outcome app' log)
    (hreturned : ∀ message, outcome ≠ .panic message) :
    CallEffect L o (.apply scxName scxMode extraFlags) app app' := by
  cases h with
  | legacyPanics => exact absurd rfl (hreturned _)
  | enablePanics => exact absurd rfl (hreturned _)
  | rejected hlegacy hflags =>
    have hnone := not_accepted_of_error hflags
    obtain ⟨hfile, -, hdaemon⟩ := hlegacy.frame (legacyCommand_ne_copy o _)
    refine ⟨?_, by rw [hdaemon], ?_, fun _ => hfile⟩
    · simp only [Call.memory, hnone, hlegacy.config]
    · simp [Call.Installs, Call.ReachesCopy, hnone]
  | notWritten hlegacy haccepted henable hwrite =>
    obtain ⟨hconfig, hfile, hdaemon⟩ := ApplyEnds.prepared hlegacy henable
    obtain ⟨hconfig₃, hfile₃, hdaemon₃⟩ := hwrite.frame
    have hnot := hwrite.not_stages
    simp only [App.mapConfig_config, hconfig] at hnot hconfig₃
    refine ⟨?_, by rw [hdaemon₃]; exact hdaemon, ?_, fun _ => by rw [hfile₃]; exact hfile⟩
    · simp only [Call.memory, haccepted, hconfig₃]
    · simp only [Call.Installs, Call.ReachesCopy, Call.memory, haccepted]
      exact fun hinstalls => absurd hinstalls.1.2 hnot
  | written hlegacy haccepted henable hwrite hcopy =>
    obtain ⟨hconfig, hfile, hdaemon⟩ := ApplyEnds.prepared hlegacy henable
    obtain ⟨hconfig₃, hfile₃, hdaemon₃⟩ := hwrite.frame
    obtain ⟨hconfig₄, hdaemon₄, hfile₄⟩ := hcopy.copied
    obtain ⟨hstages, toml, htoml, hstaged⟩ := hwrite.staged
    simp only [App.mapConfig_config, hconfig] at hconfig₃ htoml hstages
    refine ⟨?_, by rw [hdaemon₄, hdaemon₃]; exact hdaemon, ?_, ?_⟩
    · simp only [Call.memory, haccepted, hconfig₄, hconfig₃]
    · intro hinstalls
      rw [if_pos hinstalls.2, hstaged] at hfile₄
      exact ⟨toml, by rw [hconfig₄, hconfig₃, htoml], hfile₄⟩
    · simp only [Call.Installs, Call.ReachesCopy, Call.memory, haccepted, Option.isSome_some,
        true_and, hstages]
      intro hcopied
      rw [hfile₄, if_neg hcopied, hfile₃]
      exact hfile

/-- A disable call that returns clears the default scheduler in memory, and reaches `config_path`
exactly if it installs. -/
theorem DisableEnds.effect {L : ScxLoader S B} {o : Outcomes} {app app' : App S B} {outcome} {log}
    (h : DisableEnds L o app outcome app' log) : CallEffect L o .disable app app' := by
  cases h with
  | notWritten hwrite =>
    obtain ⟨hconfig, hfile, hdaemon⟩ := hwrite.frame
    exact ⟨hconfig, by rw [hdaemon]; rfl, fun hinstalls => absurd hinstalls.1.1 hwrite.not_stages,
      fun _ => hfile⟩
  | notStopped hwrite hstop =>
    obtain ⟨hconfig, hfile, hdaemon⟩ := hwrite.frame
    refine ⟨hconfig, by rw [hdaemon]; rfl, fun hinstalls => ?_, fun _ => hfile⟩
    exact absurd (hstop.symm.trans hinstalls.1.2) (by simp)
  | @stopped app₁ app₂ _ _ _ hwrite hstop hcopy =>
    obtain ⟨hconfig, hfile, hdaemon⟩ := hwrite.frame
    obtain ⟨hconfig₂, hdaemon₂, hfile₂⟩ := hcopy.copied
    obtain ⟨hstages, toml, htoml, hstaged⟩ := hwrite.staged
    refine ⟨hconfig₂.trans hconfig, ?_, ?_, ?_⟩
    · rw [hdaemon₂]
      change _ = (app.mapConfig disabled).system.daemon.config
      rw [← hdaemon]
      rfl
    · intro hinstalls
      have hstopped : app₁.stopped.system.stagingFile = some toml := hstaged
      rw [if_pos hinstalls.2, hstopped] at hfile₂
      refine ⟨toml, ?_, hfile₂⟩
      rw [hconfig₂]
      exact (congrArg L.toToml hconfig).trans htoml
    · intro hnot
      rw [hfile₂, if_neg fun hcopied => hnot ⟨⟨hstages, hstop⟩, hcopied⟩]
      exact hfile

/-- Every call that returns has its effect on memory and files. -/
theorem Call.Ends.effect {L : ScxLoader S B} {o : Outcomes} {call : Call} {app app' : App S B}
    {outcome} {log} (h : call.Ends L o app outcome app' log)
    (hreturned : ∀ message, outcome ≠ .panic message) : CallEffect L o call app app' := by
  cases call with
  | apply scxName scxMode extraFlags => exact ApplyEnds.effect h hreturned
  | disable => exact DisableEnds.effect h

/-- What happens in a session: a call, or a restart of the daemon. A daemon that finds no
readable configuration starts from another one; what it runs at first is left open. -/
inductive Event (S : Type) where
  | call (call : Call) (o : Outcomes)
  | restart (fallback : Config S) (running : Option (S × List String))

/-- The daemon reads the configuration at `config_path` when it starts. -/
def System.restart (L : ScxLoader S B) (fallback : Config S) (running : Option (S × List String))
    (system : System S B) : System S B :=
  { system with daemon :=
    { config := ((initConfig L system.configFile).toOption).getD fallback, running := running } }

/-- One event of a session; a panic leaves no instance. -/
def App.step (L : ScxLoader S B) (app : App S B) : Event S → Option (App S B)
  | .call call o =>
    match (call.action L o).run app with
    | ⟨.panic _, _, _⟩ => none
    | ended => some ended.state
  | .restart fallback running => some (app.mapSystem (System.restart L fallback running))

/-- A step over a call is an end of the call that is not a panic. -/
theorem App.step_ends {L : ScxLoader S B} {app app' : App S B} {call : Call} {o : Outcomes}
    (h : app.step L (.call call o) = some app') :
    ∃ outcome log, call.Ends L o app outcome app' log ∧ ∀ message, outcome ≠ .panic message := by
  unfold App.step at h
  dsimp only at h
  have hends := call.action_ends L o app
  unfold wp at hends
  rcases hended : (call.action L o).run app with ⟨outcome, state, log⟩
  rw [hended] at h hends
  cases outcome with
  | panic message => cases h
  | ok value =>
    obtain rfl : state = app' := Option.some.inj h
    exact ⟨_, log, hends, by simp⟩
  | err error =>
    obtain rfl : state = app' := Option.some.inj h
    exact ⟨_, log, hends, by simp⟩

/-- A step over a call is a call that returned. -/
theorem App.step_call {L : ScxLoader S B} {app app' : App S B} {call : Call} {o : Outcomes}
    (h : app.step L (.call call o) = some app') : CallEffect L o call app app' := by
  obtain ⟨outcome, log, hends, hreturned⟩ := App.step_ends h
  exact hends.effect hreturned

/-- An instance and a daemon that have both read the same file, on a system without the legacy
service and with the loader service enabled. -/
def startedApp (config : Config SampleSched) : App SampleSched (Config SampleSched) where
  config := config
  system :=
    { stagingFile := none
      configFile := some [config]
      daemon := ⟨config, none⟩
      scx := ⟨false, false⟩
      scxLoader := ⟨true, true⟩ }

end ScxManager
