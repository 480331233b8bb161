import ScxManager.Sessions

/-!
# What the daemon runs after a switch

An apply call compares the requested arguments with those that the configuration in memory
gives, and switches by mode if they are equal. The daemon then resolves the mode on the
configuration it read when it last started. It runs what was asked for exactly when the two
configurations agree on that scheduler and mode, or when the switch carried the arguments.
-/

namespace ScxManager

open Actions

variable {S B : Type}

/-- The requests to run a scheduler. -/
def Step.isSwitch : Step S → Bool
  | .switchScheduler _ _ => true
  | .switchSchedulerWithArgs _ _ => true
  | _ => false

/-- A request to run a scheduler succeeded. -/
def switchSucceeded (log : List (Performed S)) : Bool :=
  log.any fun p => p.step.isSwitch && p.succeeded

/-- The requests to run a scheduler among the steps of a log. -/
def switches (log : List (Performed S)) : List (Performed S) := log.filter fun p => p.step.isSwitch

theorem switchSucceeded_eq (log : List (Performed S)) :
    switchSucceeded log = (switches log).any fun p => p.succeeded :=
  List.any_filter.symm

/-- No child process is a request to the daemon. -/
theorem ChildEnds.no_switch {needed : Option Command} {result : Spawned} {app app' : App S B}
    {outcome} {log} (h : ChildEnds needed result app outcome app' log) : switches log = [] := by
  cases h with
  | notNeeded => rfl
  | exited => rfl
  | panicked => rfl

/-- Staging makes no request to the daemon. -/
theorem WriteEnds.no_switch {L : ScxLoader S B} {o : Outcomes} {app app' : App S B} {outcome} {log}
    (h : WriteEnds L o app outcome app' log) : switches log = [] := by
  cases h with
  | notSerialised => rfl
  | notCreated => rfl
  | cut => rfl
  | written => rfl

/-- Joined stages without a request make none. -/
theorem switches_append {first rest : List (Performed S)} (hfirst : switches first = [])
    (hrest : switches rest = []) : switches (first ++ rest) = [] := by
  unfold switches at *
  rw [List.filter_append, hfirst, hrest]
  rfl

/-- The request of an apply call is one to run a scheduler. -/
theorem switchPerformed_isSwitch (L : ScxLoader S B) (o : Outcomes) (scxSched : S)
    (scxMode : SchedMode) (schedArgs : List String) (config : Config S) :
    (switchPerformed L o scxSched scxMode schedArgs config).step.isSwitch = true := by
  unfold switchPerformed
  by_cases hmode : SwitchesByMode L scxSched scxMode schedArgs config
  · rw [if_pos hmode]
    rfl
  · rw [if_neg hmode]
    rfl

/-- An apply call requests one switch, between stages that request none. -/
theorem switches_call {L : ScxLoader S B} {o : Outcomes} {scxSched : S} {scxMode : SchedMode}
    {schedArgs : List String} {config : Config S} {first rest : List (Performed S)}
    (hfirst : switches first = []) (hrest : switches rest = []) :
    switches (first ++ switchPerformed L o scxSched scxMode schedArgs config :: rest) =
      [switchPerformed L o scxSched scxMode schedArgs config] := by
  have hswitch := switchPerformed_isSwitch L o scxSched scxMode schedArgs config
  unfold switches at *
  rw [List.filter_append, hfirst, List.filter_cons, if_pos hswitch, hrest]
  rfl

/-- After the request and enabling the loader service the daemon runs what the request resolves to if
it succeeded, and else what it ran before. -/
theorem ApplyEnds.running {L : ScxLoader S B} {o : Outcomes} {app app₁ app₂ : App S B}
    {scxSched : S} {schedMode : SchedMode} {schedArgs : List String} {outcome outcome'} {log₁ log₂}
    (hlegacy : ChildEnds (legacyCommand o app.system) o.scxService app outcome app₁ log₁)
    (henable : ChildEnds (enableCommand o app.system) o.enableLoader
      (app₁.switched L o scxSched schedMode schedArgs) outcome' app₂ log₂) :
    app₂.system.daemon.running =
      if o.switch.isOk then some (scxSched, switchedArgs L scxSched schedMode schedArgs app)
      else app.system.daemon.running := by
  obtain ⟨-, -, hdaemon₁⟩ := hlegacy.frame (legacyCommand_ne_copy o _)
  obtain ⟨-, -, hdaemon₂⟩ := henable.frame (enableCommand_ne_copy o _)
  have hargs : switchedArgs L scxSched schedMode schedArgs app₁ =
      switchedArgs L scxSched schedMode schedArgs app := by
    unfold switchedArgs
    rw [hlegacy.config, hdaemon₁]
  rw [hdaemon₂, App.switched]
  by_cases hswitch : o.switch.isOk = true
  · rw [if_pos hswitch, if_pos hswitch, ← hargs]
    rfl
  · rw [if_neg hswitch, if_neg hswitch, hdaemon₁]

/-- After a successful request the daemon runs what the request resolves to. -/
theorem ApplyEnds.runs {L : ScxLoader S B} {o : Outcomes} {app app₁ app₂ : App S B}
    {scxSched : S} {schedMode : SchedMode} {schedArgs : List String} {outcome outcome'} {log₁ log₂}
    (hlegacy : ChildEnds (legacyCommand o app.system) o.scxService app outcome app₁ log₁)
    (henable : ChildEnds (enableCommand o app.system) o.enableLoader
      (app₁.switched L o scxSched schedMode schedArgs) outcome' app₂ log₂)
    (hswitch : o.switch.isOk = true) :
    app₂.system.daemon.running =
      some (scxSched, switchedArgs L scxSched schedMode schedArgs app) :=
  (ApplyEnds.running hlegacy henable).trans (if_pos hswitch)

/-- An accepted apply call that gets past the legacy service makes its request, and if that
succeeds the daemon runs what it resolves to. -/
theorem ApplyEnds.requested {L : ScxLoader S B} {o : Outcomes} {scxName : String} {scxMode : UInt32}
    {extraFlags : String} {app app' : App S B} {outcome} {log} {scxSched : S} {schedMode : SchedMode}
    (h : ApplyEnds L o scxName scxMode extraFlags app outcome app' log)
    (haccepted : accepted L scxName scxMode = some (scxSched, schedMode))
    (hspawns : Spawns (legacyCommand o app.system) o.scxService) :
    switches log =
        [switchPerformed L o scxSched schedMode (schedArgsOf extraFlags) app.config] ∧
      (o.switch.isOk = true → app'.system.daemon.running =
        some (scxSched, switchedArgs L scxSched schedMode (schedArgsOf extraFlags) app)) := by
  cases h with
  | legacyPanics hlegacy => exact absurd hspawns hlegacy.not_spawns
  | rejected hlegacy hflags =>
    rw [getScxFlagsForMode_of_accepted haccepted] at hflags
    cases hflags
  | enablePanics hlegacy haccepted' henable =>
    obtain ⟨rfl, rfl⟩ := accepted_unique haccepted haccepted'
    exact ⟨switches_call hlegacy.no_switch henable.no_switch, ApplyEnds.runs hlegacy henable⟩
  | notWritten hlegacy haccepted' henable hwrite =>
    obtain ⟨rfl, rfl⟩ := accepted_unique haccepted haccepted'
    refine ⟨switches_call hlegacy.no_switch ?_, fun hswitch => ?_⟩
    · exact switches_append henable.no_switch hwrite.no_switch
    · rw [hwrite.frame.2.2, App.mapConfig_system]
      exact ApplyEnds.runs hlegacy henable hswitch
  | written hlegacy haccepted' henable hwrite hcopy =>
    obtain ⟨rfl, rfl⟩ := accepted_unique haccepted haccepted'
    refine ⟨switches_call hlegacy.no_switch ?_, fun hswitch => ?_⟩
    · exact switches_append henable.no_switch
        (switches_append hwrite.no_switch hcopy.no_switch)
    · rw [hcopy.copied.2.1, hwrite.frame.2.2, App.mapConfig_system]
      exact ApplyEnds.runs hlegacy henable hswitch

/-- An apply call that is rejected, or ends in the legacy service, makes no request. -/
theorem ApplyEnds.not_requested {L : ScxLoader S B} {o : Outcomes} {scxName : String}
    {scxMode : UInt32} {extraFlags : String} {app app' : App S B} {outcome} {log}
    (h : ApplyEnds L o scxName scxMode extraFlags app outcome app' log)
    (hnot : accepted L scxName scxMode = none ∨
      ¬ Spawns (legacyCommand o app.system) o.scxService) : switches log = [] := by
  cases h with
  | legacyPanics hlegacy => exact hlegacy.no_switch
  | rejected hlegacy hflags => exact hlegacy.no_switch
  | enablePanics hlegacy haccepted henable => simp [haccepted, hlegacy.spawns] at hnot
  | notWritten hlegacy haccepted henable hwrite => simp [haccepted, hlegacy.spawns] at hnot
  | written hlegacy haccepted henable hwrite hcopy => simp [haccepted, hlegacy.spawns] at hnot

/-- Whenever an apply call's switch succeeds, the daemon runs the scheduler it names with exactly
the arguments built from its flags, right after the call. -/
def RunsAsAsked (L : ScxLoader S B) (app : App S B) : Event S → Prop
  | .call (.apply scxName scxMode extraFlags) o =>
    let ended := (applySchedulerChange L o scxName scxMode extraFlags).run app
    switchSucceeded ended.log = true → ∃ scxSched, L.parse scxName = .ok scxSched ∧
      ended.state.system.daemon.running = some (scxSched, schedArgsOf extraFlags)
  | _ => True

/-- Whenever an apply call's switch is requested and succeeds, either the arguments are not those
its configuration gives, or the configuration the daemon last read gives them too. -/
def DaemonAgrees (L : ScxLoader S B) (app : App S B) : Event S → Prop
  | .call (.apply scxName scxMode extraFlags) o =>
    ∀ scxSched schedMode, accepted L scxName scxMode = some (scxSched, schedMode) →
      Spawns (legacyCommand o app.system) o.scxService → o.switch.isOk = true →
        SwitchesByMode L scxSched schedMode (schedArgsOf extraFlags) app.config →
          SwitchesByMode L scxSched schedMode (schedArgsOf extraFlags) app.system.daemon.config
  | _ => True

/-- A switch gives the requested arguments exactly if the daemon resolves the mode to them where
the app does. -/
theorem switchedArgs_eq_iff (L : ScxLoader S B) (scxSched : S) (schedMode : SchedMode)
    (schedArgs : List String) (app : App S B) :
    switchedArgs L scxSched schedMode schedArgs app = schedArgs ↔
      (SwitchesByMode L scxSched schedMode schedArgs app.config →
        SwitchesByMode L scxSched schedMode schedArgs app.system.daemon.config) := by
  unfold switchedArgs
  by_cases hmode : SwitchesByMode L scxSched schedMode schedArgs app.config
  · rw [if_pos hmode]
    exact ⟨fun h _ => h.symm, fun h => (h hmode).symm⟩
  · rw [if_neg hmode]
    exact iff_of_true rfl fun h => absurd h hmode

/-- One event: the daemon runs what was asked for exactly if its configuration agrees. -/
theorem runsAsAsked_iff (L : ScxLoader S B) (app : App S B) (event : Event S) :
    RunsAsAsked L app event ↔ DaemonAgrees L app event := by
  rcases event with ⟨⟨scxName, scxMode, extraFlags⟩ | -, o⟩ | -
  · have hends := applySchedulerChange_ends L o scxName scxMode extraFlags app
    unfold wp at hends
    unfold RunsAsAsked DaemonAgrees
    dsimp only
    cases haccepted : accepted L scxName scxMode with
    | none =>
      rw [switchSucceeded_eq, hends.not_requested (Or.inl haccepted)]
      simp
    | some pair =>
      obtain ⟨scxSched, schedMode⟩ := pair
      by_cases hspawns : Spawns (legacyCommand o app.system) o.scxService
      · obtain ⟨hlog, hrunning⟩ := hends.requested haccepted hspawns
        rw [switchSucceeded_eq, hlog, List.any_cons, List.any_nil, Bool.or_false]
        obtain ⟨hparse, -⟩ := accepted_eq_some.mp haccepted
        constructor
        · intro hasked sched mode hpair _ hswitch
          obtain ⟨rfl, rfl⟩ := Prod.mk.inj (Option.some.inj hpair)
          obtain ⟨sched', -, hrun⟩ := hasked hswitch
          rw [hrunning hswitch] at hrun
          exact (switchedArgs_eq_iff ..).mp (Prod.mk.inj (Option.some.inj hrun)).2
        · intro hagrees hswitch
          refine ⟨scxSched, hparse, ?_⟩
          rw [hrunning hswitch, (switchedArgs_eq_iff ..).mpr
            (hagrees scxSched schedMode rfl hspawns hswitch)]
      · rw [switchSucceeded_eq, hends.not_requested (Or.inr hspawns)]
        simp [hspawns]
  · exact Iff.rfl
  · exact Iff.rfl

/-- Along every session, whatever the start, the restarts and the outcomes, the daemon runs what
was asked for exactly if at every successful switch its configuration agrees. -/
theorem session_runsAsAsked_iff (L : ScxLoader S B) (app : App S B) (events : List (Event S)) :
    Runs.AllSteps (App.step L) (RunsAsAsked L) app events ↔
      Runs.AllSteps (App.step L) (DaemonAgrees L) app events :=
  Runs.allSteps_congr (I := fun _ => True) (fun _ _ _ _ _ => trivial)
    (fun app event _ => runsAsAsked_iff L app event) trivial events

/-- The same custom flags applied twice: the second time the daemon runs the scheduler without
them, since it has not read the file that holds them. -/
theorem same_flags_twice_not_run :
    ¬ Runs.AllSteps (App.step sampleLoader) (RunsAsAsked sampleLoader) (startedApp ⟨none, none, ∅⟩)
      [.call (.apply "scx_rusty" 0 "-v") .succeed, .call (.apply "scx_rusty" 0 "-v") .succeed] := by
  intro h
  obtain ⟨sched, -, hrunning⟩ := (h.2 _ rfl).1 (by decide)
  have hargs : Option.map Prod.snd _ = some (schedArgsOf "-v") :=
    congrArg (Option.map Prod.snd) hrunning
  revert hargs
  decide

end ScxManager
