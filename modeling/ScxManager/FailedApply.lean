import ScxManager.Daemon

/-!
# What a failed apply call leaves behind

An apply call gets the legacy service out of the way first, changes the configuration in memory
and the running scheduler next, and saves last. Nothing is taken back when a later stage ends in an
error. What is as it was after an error therefore depends on the stage that ended the call.
-/

namespace ScxManager

open Actions

variable {S B : Type}

/-- What enabling the loader service leaves of it depends on that service alone. -/
theorem System.afterChild_enable_scxLoader (o : Outcomes) (asked : System S B) (result : Spawned)
    {system system' : System S B} (h : system.scxLoader = system'.scxLoader) :
    (system.afterChild (enableCommand o asked) result).scxLoader =
      (system'.afterChild (enableCommand o asked) result).scxLoader := by
  unfold System.afterChild enableCommand
  cases isScxLoaderServiceEnabled o asked with
  | true => exact h
  | false =>
    cases result with
    | notSpawned => exact h
    | exited success =>
      cases success with
      | false => exact h
      | true =>
        change { system.scxLoader with enabled := true } = { system'.scxLoader with enabled := true }
        rw [h]

/-- The switch request leaves the legacy service alone. -/
theorem App.switched_scx (L : ScxLoader S B) (o : Outcomes) (scxSched : S) (scxMode : SchedMode)
    (schedArgs : List String) (app : App S B) :
    (app.switched L o scxSched scxMode schedArgs).system.scx = app.system.scx := by
  unfold App.switched
  split <;> rfl

/-- Staging leaves both services alone. -/
theorem WriteEnds.services {L : ScxLoader S B} {o : Outcomes} {app app' : App S B} {outcome} {log}
    (h : WriteEnds L o app outcome app' log) :
    app'.system.scx = app.system.scx ∧ app'.system.scxLoader = app.system.scxLoader := by
  cases h with
  | notSerialised => exact ⟨rfl, rfl⟩
  | notCreated => exact ⟨rfl, rfl⟩
  | cut => exact ⟨rfl, rfl⟩
  | written => exact ⟨rfl, rfl⟩

/-- What an apply call that ends in an error leaves behind. The file, what the daemon has read and a
legacy service that was not in the way are as they were. A call with a name or a mode that is not
known has changed nothing else either. Otherwise the configuration was not staged, and memory, the
running scheduler and the loader service are what a call that succeeds makes of them. -/
structure LeftByError (L : ScxLoader S B) (o : Outcomes) (scxName : String) (scxMode : UInt32)
    (extraFlags : String) (app app' : App S B) : Prop where
  configFile : app'.system.configFile = app.system.configFile
  daemonConfig : app'.system.daemon.config = app.system.daemon.config
  scx : app'.system.scx = (app.system.afterChild (legacyCommand o app.system) o.scxService).scx
  rejected : accepted L scxName scxMode = none →
    app'.config = app.config ∧ app'.system.daemon.running = app.system.daemon.running ∧
      app'.system.scxLoader = app.system.scxLoader
  notWritten : ∀ scxSched schedMode, accepted L scxName scxMode = some (scxSched, schedMode) →
    ¬ Stages L o (applied L scxSched schedMode (schedArgsOf extraFlags) app.config) ∧
    app'.config = applied L scxSched schedMode (schedArgsOf extraFlags) app.config ∧
    app'.system.daemon.running =
      (if o.switch.isOk then
        some (scxSched, switchedArgs L scxSched schedMode (schedArgsOf extraFlags) app)
      else app.system.daemon.running) ∧
    app'.system.scxLoader =
      (app.system.afterChild (enableCommand o app.system) o.enableLoader).scxLoader

/-- After the switch request and enabling the loader service each service is as its own child process
leaves it. -/
theorem ApplyEnds.services {L : ScxLoader S B} {o : Outcomes} {app app₁ app₂ : App S B}
    {scxSched : S} {schedMode : SchedMode} {schedArgs : List String} {outcome outcome'} {log₁ log₂}
    (hlegacy : ChildEnds (legacyCommand o app.system) o.scxService app outcome app₁ log₁)
    (henable : ChildEnds (enableCommand o app.system) o.enableLoader
      (app₁.switched L o scxSched schedMode schedArgs) outcome' app₂ log₂) :
    app₂.system.scx = (app.system.afterChild (legacyCommand o app.system) o.scxService).scx ∧
      app₂.system.scxLoader =
        (app.system.afterChild (enableCommand o app.system) o.enableLoader).scxLoader := by
  rw [henable.system]
  constructor
  · have hframe : ∀ command, enableCommand o app.system = some command →
        (command.effect (app₁.switched L o scxSched schedMode schedArgs).system).scx =
          (app₁.switched L o scxSched schedMode schedArgs).system.scx := by
      intro command hcommand
      rw [enableCommand_eq_some hcommand]
      rfl
    rw [System.afterChild_frame System.scx hframe, App.switched_scx, hlegacy.system]
  · refine System.afterChild_enable_scxLoader o app.system o.enableLoader ?_
    rw [App.switched_scxLoader, hlegacy.scxLoader_legacy]

/-- Every end of an apply call in an error leaves behind what that error says. -/
theorem ApplyEnds.leftByError {L : ScxLoader S B} {o : Outcomes} {scxName : String}
    {scxMode : UInt32} {extraFlags : String} {app app' : App S B} {error} {log}
    (h : ApplyEnds L o scxName scxMode extraFlags app (.err error) app' log) :
    LeftByError L o scxName scxMode extraFlags app app' := by
  have heffect := h.effect fun message hpanic => by cases hpanic
  cases h with
  | rejected hlegacy hflags =>
    have hnone := not_accepted_of_error hflags
    obtain ⟨hfile, -, hdaemon⟩ := hlegacy.frame (legacyCommand_ne_copy o _)
    refine ⟨hfile, heffect.daemonConfig, by rw [hlegacy.system], fun _ => ?_, ?_⟩
    · exact ⟨hlegacy.config, by rw [hdaemon], hlegacy.scxLoader_legacy⟩
    · intro scxSched schedMode haccepted
      rw [hnone] at haccepted
      cases haccepted
  | notWritten hlegacy haccepted henable hwrite =>
    obtain ⟨hconfig, hfile, -⟩ := ApplyEnds.prepared hlegacy henable
    obtain ⟨hconfig₃, hfile₃, hdaemon₃⟩ := hwrite.frame
    obtain ⟨hscx, hscxLoader⟩ := ApplyEnds.services hlegacy henable
    have hnot := hwrite.not_stages
    rw [App.mapConfig_config, hconfig] at hnot hconfig₃
    refine ⟨hfile₃.trans hfile, heffect.daemonConfig, hwrite.services.1.trans hscx, ?_, ?_⟩
    · intro hnone
      rw [hnone] at haccepted
      cases haccepted
    · intro scxSched schedMode haccepted'
      obtain ⟨rfl, rfl⟩ := accepted_unique haccepted' haccepted
      refine ⟨hnot, hconfig₃, ?_, hwrite.services.2.trans hscxLoader⟩
      rw [hdaemon₃, App.mapConfig_system]
      exact ApplyEnds.running hlegacy henable
  | written hlegacy haccepted henable hwrite hcopy =>
    obtain ⟨-, houtcome⟩ | ⟨-, message, houtcome⟩ := hcopy.outcome_eq
    · cases houtcome
    · cases houtcome

/-- Whatever the configuration, the arguments and the outcomes of the external steps, an apply call
that returns an error leaves behind what `LeftByError` says. -/
theorem applySchedulerChange_leftByError (L : ScxLoader S B) (o : Outcomes) (scxName : String)
    (scxMode : UInt32) (extraFlags : String) (app : App S B) (error : Error)
    (h : ((applySchedulerChange L o scxName scxMode extraFlags).run app).outcome = .err error) :
    LeftByError L o scxName scxMode extraFlags app
      ((applySchedulerChange L o scxName scxMode extraFlags).run app).state := by
  have hends := applySchedulerChange_ends L o scxName scxMode extraFlags app
  unfold wp at hends
  rw [h] at hends
  exact hends.leftByError

/-- A scheduler that is not known is asked for: the error leaves the legacy service disabled. -/
theorem unknown_scheduler_leftByError :
    let app := (startedApp ⟨none, none, ∅⟩).mapSystem fun system =>
      { system with scx := ⟨true, true⟩ }
    ∃ app', LeftByError sampleLoader .succeed "scx_none" 0 "" app app' ∧
      app'.system.scx = ⟨false, false⟩ :=
  ⟨_, applySchedulerChange_leftByError sampleLoader .succeed "scx_none" 0 "" _ _ rfl, rfl⟩

/-- A known scheduler whose configuration cannot be staged: the error leaves it in memory. -/
theorem error_takes_nothing_back :
    ¬ ∀ (o : Outcomes) (scxName : String) (scxMode : UInt32) (extraFlags : String)
        (app : App SampleSched (Config SampleSched)) (error : Error),
      ((applySchedulerChange sampleLoader o scxName scxMode extraFlags).run app).outcome = .err error →
        let app' := ((applySchedulerChange sampleLoader o scxName scxMode extraFlags).run app).state
        app'.config = app.config ∧ app'.system.configFile = app.system.configFile ∧
          app'.system.daemon.running = app.system.daemon.running ∧
          app'.system.scx = app.system.scx ∧ app'.system.scxLoader = app.system.scxLoader := by
  intro h
  have hkept := h { Outcomes.succeed with create := .error ⟨["No space left on device"]⟩ } "scx_rusty" 0 ""
    (startedApp ⟨none, none, ∅⟩) _ rfl
  have hsched := congrArg Config.defaultSched hkept.1
  revert hsched
  decide

end ScxManager
