import ScxManager.Coherence
import ScxManager.Daemon

/-!
# What runs and what is the default

An apply call asks the daemon to switch before it makes its scheduler the default, and goes on if the
daemon refuses. A disable call clears the default before it asks the daemon to stop, and ends if the
daemon refuses. So the scheduler that runs and the default one of the configuration in memory agree along a
session exactly as long as every change of the one comes with that of the other.
-/

namespace ScxManager

open Actions

variable {S B : Type}

/-- What the daemon runs after a call that returns. -/
def Call.running (L : ScxLoader S B) (o : Outcomes) (call : Call) (app : App S B) :
    Option (S × List String) :=
  match call with
  | .apply scxName scxMode extraFlags =>
    match accepted L scxName scxMode with
    | some (scxSched, schedMode) =>
      if o.switch.isOk then
        some (scxSched, switchedArgs L scxSched schedMode (schedArgsOf extraFlags) app)
      else app.system.daemon.running
    | none => app.system.daemon.running
  | .disable =>
    if Stages L o (disabled app.config) ∧ o.stop = .ok () then none else app.system.daemon.running

/-- An apply call that returns leaves running what its request resolves to, if it was granted. -/
theorem ApplyEnds.runningAfter {L : ScxLoader S B} {o : Outcomes} {scxName : String}
    {scxMode : UInt32} {extraFlags : String} {app app' : App S B} {outcome} {log}
    (h : ApplyEnds L o scxName scxMode extraFlags app outcome app' log)
    (hreturned : ∀ message, outcome ≠ .panic message) :
    app'.system.daemon.running = (Call.apply scxName scxMode extraFlags).running L o app := by
  cases h with
  | legacyPanics => exact absurd rfl (hreturned _)
  | enablePanics => exact absurd rfl (hreturned _)
  | rejected hlegacy hflags =>
    obtain ⟨-, -, hdaemon⟩ := hlegacy.frame (legacyCommand_ne_copy o _)
    simp only [Call.running, not_accepted_of_error hflags, hdaemon]
  | notWritten hlegacy haccepted henable hwrite =>
    rw [hwrite.frame.2.2, App.mapConfig_system, ApplyEnds.running hlegacy henable]
    simp only [Call.running, haccepted]
  | written hlegacy haccepted henable hwrite hcopy =>
    rw [hcopy.copied.2.1, hwrite.frame.2.2, App.mapConfig_system,
      ApplyEnds.running hlegacy henable]
    simp only [Call.running, haccepted]

/-- A disable call leaves nothing running if it staged its configuration and was granted the stop. -/
theorem DisableEnds.runningAfter {L : ScxLoader S B} {o : Outcomes} {app app' : App S B} {outcome}
    {log} (h : DisableEnds L o app outcome app' log) :
    app'.system.daemon.running = Call.disable.running L o app := by
  unfold Call.running
  cases h with
  | notWritten hwrite =>
    have hnot : ¬ (Stages L o (disabled app.config) ∧ o.stop = .ok ()) := fun h =>
      hwrite.not_stages h.1
    rw [if_neg hnot, hwrite.frame.2.2]
    rfl
  | notStopped hwrite hstop =>
    have hnot : ¬ (Stages L o (disabled app.config) ∧ o.stop = .ok ()) := by simp [hstop]
    rw [if_neg hnot, hwrite.frame.2.2]
    rfl
  | stopped hwrite hstop hcopy =>
    rw [if_pos ⟨hwrite.staged.1, hstop⟩, hcopy.copied.2.1]
    rfl

/-- A step over a call leaves running what the call does. -/
theorem App.step_running {L : ScxLoader S B} {app app' : App S B} {call : Call} {o : Outcomes}
    (h : app.step L (.call call o) = some app') :
    app'.system.daemon.running = call.running L o app := by
  obtain ⟨outcome, log, hends, hreturned⟩ := App.step_ends h
  cases call with
  | apply scxName scxMode extraFlags => exact ApplyEnds.runningAfter hends hreturned
  | disable => exact DisableEnds.runningAfter hends

/-- The scheduler that runs is the default one of the configuration in memory. -/
def RunsDefault (app : App S B) : Prop :=
  app.system.daemon.running.map Prod.fst = app.config.defaultSched

/-- An apply call that returns is granted its switch or asks for the default scheduler; a disable call
stages its configuration in full and is granted the stop, or there was no default scheduler. A restart
begins with the scheduler that is then the default one in memory. -/
def KeepsRunsDefault (L : ScxLoader S B) (app : App S B) : Event S → Prop
  | .call (.apply scxName scxMode extraFlags) o =>
    (Call.apply scxName scxMode extraFlags).Returns L o app →
      ∀ scxSched schedMode, accepted L scxName scxMode = some (scxSched, schedMode) →
        o.switch.isOk = true ∨ app.config.defaultSched = some scxSched
  | .call .disable o =>
    Call.disable.Returns L o app →
      (Stages L o (disabled app.config) ∧ o.stop = .ok ()) ∨ app.config.defaultSched = none
  | .restart _ running => running.map Prod.fst = app.config.defaultSched

/-- After a step over a call the default scheduler runs exactly if the call keeps it so. -/
theorem runsDefault_after {L : ScxLoader S B} {app app' : App S B} (hdefault : RunsDefault app)
    {call : Call} {o : Outcomes} (h : app.step L (.call call o) = some app') :
    RunsDefault app' ↔ KeepsRunsDefault L app (.call call o) := by
  have hreturns := (App.step_call_iff L app call o).mp ⟨app', h⟩
  unfold RunsDefault at hdefault ⊢
  rw [App.step_running h, (App.step_call h).memory]
  cases call with
  | apply scxName scxMode extraFlags =>
    unfold Call.running Call.memory KeepsRunsDefault
    dsimp only
    cases haccepted : accepted L scxName scxMode with
    | none => simpa using hdefault
    | some pair =>
      obtain ⟨scxSched, schedMode⟩ := pair
      simp only [hreturns, true_imp_iff, applied_defaultSched]
      cases o.switch.isOk with
      | true => simp
      | false => simp [hdefault]
  | disable =>
    unfold Call.running Call.memory KeepsRunsDefault disabled
    simp only [hreturns, true_imp_iff]
    split
    next hgranted => exact iff_of_true rfl (Or.inl hgranted)
    next hnot => rw [hdefault, or_iff_right hnot]

/-- One event keeps the default scheduler running exactly if it says so. -/
theorem runsDefault_step {L : ScxLoader S B} {app : App S B} (hdefault : RunsDefault app)
    (event : Event S) :
    (∀ app', app.step L event = some app' → RunsDefault app') ↔ KeepsRunsDefault L app event := by
  cases event with
  | call call o =>
    constructor
    · intro h
      by_cases hreturns : call.Returns L o app
      · obtain ⟨app', hstep⟩ := (App.step_call_iff L app call o).mpr hreturns
        exact (runsDefault_after hdefault hstep).mp (h app' hstep)
      · cases call with
        | apply => exact fun h => absurd h hreturns
        | disable => exact fun h => absurd h hreturns
    · intro h app' hstep
      exact (runsDefault_after hdefault hstep).mpr h
  | restart fallback running =>
    constructor
    · intro h
      exact h _ rfl
    · intro h app' hstep
      obtain rfl : app.mapSystem (System.restart L fallback running) = app' := Option.some.inj hstep
      exact h

/-- Along every session that starts with the default scheduler of the configuration in memory running,
it is the one that runs after every event exactly if every event keeps it so: what changes the default
scheduler gets as far as the daemon and is granted there, and a restart begins with it. -/
theorem runsDefault_session_iff (L : ScxLoader S B) {app : App S B} (hdefault : RunsDefault app)
    (events : List (Event S)) :
    Runs.AllStates (App.step L) RunsDefault app events ↔
      Runs.AllSteps (App.step L) (KeepsRunsDefault L) app events := by
  have hiff : Runs.AllStates (App.step L) RunsDefault app events ↔
      RunsDefault app ∧ Runs.AllSteps (App.step L) (KeepsRunsDefault L) app events := by
    refine Runs.allStates_iff_allSteps (I := fun _ => True) (fun _ _ _ _ _ => trivial) ?_ trivial events
    intro app event _ hdefault
    exact runsDefault_step hdefault event
  rw [hiff, and_iff_right hdefault]

/-- A switch that is refused for the default scheduler and a stop of it keep what runs with the
default. -/
theorem runsDefault_session_rusty :
    Runs.AllStates (App.step sampleLoader) RunsDefault (startedApp ⟨none, none, ∅⟩)
      [.call (.apply "scx_rusty" 0 "") .succeed,
        .call (.apply "scx_rusty" 2 "-k") { Outcomes.succeed with switch := .error ⟨["busy"]⟩ },
        .call .disable .succeed] := by
  have hdefault : RunsDefault (startedApp ⟨none, none, ∅⟩) := rfl
  refine (runsDefault_session_iff sampleLoader hdefault _).mpr ⟨fun _ _ _ _ => Or.inl rfl, ?_⟩
  intro app₁ h₁
  refine ⟨fun _ scxSched schedMode haccepted => Or.inr ?_, ?_⟩
  · obtain rfl : .rusty = scxSched := congrArg Prod.fst (Option.some.inj haccepted)
    rw [(App.step_call h₁).memory]
    rfl
  · intro app₂ _
    exact ⟨fun _ => Or.inl ⟨⟨rfl, rfl, rfl⟩, rfl⟩, fun _ _ => trivial⟩

end ScxManager
