import ScxManager.Sessions
import ScxManager.ScxUtils

/-!
# Which failures a call reports

A call prints some failures and goes on, returns others as errors, and panics if a child process
cannot be spawned. Each of these has its exact condition in terms of the outcomes of the
external steps the call comes to.
-/

namespace ScxManager

open Actions

variable {S B : Type}

/-- Every child process the call comes to can be spawned. -/
def Call.Returns (L : ScxLoader S B) (o : Outcomes) (call : Call) (app : App S B) : Prop :=
  (call.ReachesCopy L o app.config → o.copy ≠ .notSpawned) ∧
    match call with
    | .apply scxName scxMode _ =>
      Spawns (legacyCommand o app.system) o.scxService ∧
        ((accepted L scxName scxMode).isSome → Spawns (enableCommand o app.system) o.enableLoader)
    | .disable => True

/-- The steps of a call whose failures are only printed all succeed. -/
def Call.PrintsNoFailure (o : Outcomes) (call : Call) (app : App S B) : Prop :=
  match call with
  | .apply .. =>
    Succeeds (legacyCommand o app.system) o.scxService ∧ o.switch.isOk ∧
      Succeeds (enableCommand o app.system) o.enableLoader ∧ o.copy = .exited true
  | .disable => o.copy = .exited true

/-- The outcome of a call and the steps it has performed by then. -/
inductive Call.Answers (L : ScxLoader S B) (o : Outcomes) (call : Call) (app : App S B) :
    Outcome Error Unit → List (Performed S) → Prop
  | aborted {message log} (hreturns : ¬ call.Returns L o app) :
      call.Answers L o app (.panic message) log
  | failed {error log} (hreturns : call.Returns L o app)
      (hcopy : ¬ call.ReachesCopy L o app.config) : call.Answers L o app (.err error) log
  | done {log} (hreturns : call.Returns L o app) (hcopy : call.ReachesCopy L o app.config)
      (hlog : AllSucceeded log ↔ call.PrintsNoFailure o app) : call.Answers L o app (.ok ()) log

/-- Every end of an apply call answers as its outcomes say. -/
theorem ApplyEnds.answers {L : ScxLoader S B} {o : Outcomes} {scxName : String} {scxMode : UInt32}
    {extraFlags : String} {app app' : App S B} {outcome} {log}
    (h : ApplyEnds L o scxName scxMode extraFlags app outcome app' log) :
    (Call.apply scxName scxMode extraFlags).Answers L o app outcome log := by
  cases h with
  | legacyPanics hlegacy =>
    exact .aborted fun hreturns => hlegacy.not_spawns hreturns.2.1
  | rejected hlegacy hflags =>
    have hnone := not_accepted_of_error hflags
    have hcopy : ¬ (Call.apply scxName scxMode extraFlags).ReachesCopy L o app.config := by
      intro hcopy
      simp [Call.ReachesCopy, hnone] at hcopy
    refine .failed ⟨fun h => absurd h hcopy, hlegacy.spawns, ?_⟩ hcopy
    simp [hnone]
  | enablePanics hlegacy haccepted henable =>
    refine .aborted fun hreturns => henable.not_spawns (hreturns.2.2 ?_)
    rw [haccepted]
    rfl
  | notWritten hlegacy haccepted henable hwrite =>
    obtain ⟨hconfig, -, -⟩ := ApplyEnds.prepared hlegacy henable
    have hnot := hwrite.not_stages
    rw [App.mapConfig_config, hconfig] at hnot
    have hcopy : ¬ (Call.apply scxName scxMode extraFlags).ReachesCopy L o app.config := by
      intro hcopy
      simp only [Call.ReachesCopy, Call.memory, haccepted] at hcopy
      exact hnot hcopy.2
    exact .failed ⟨fun h => absurd h hcopy, hlegacy.spawns, fun _ => henable.spawns⟩ hcopy
  | written hlegacy haccepted henable hwrite hcopied =>
    obtain ⟨hconfig, -, -⟩ := ApplyEnds.prepared hlegacy henable
    have hstages := hwrite.staged.1
    rw [App.mapConfig_config, hconfig] at hstages
    have hcopy : (Call.apply scxName scxMode extraFlags).ReachesCopy L o app.config := by
      simp only [Call.ReachesCopy, Call.memory, haccepted]
      exact ⟨rfl, hstages⟩
    obtain ⟨hspawns, rfl⟩ | ⟨hnot, message, rfl⟩ := hcopied.outcome_eq
    · refine .done ⟨fun _ => hspawns (by simp), hlegacy.spawns, fun _ => henable.spawns⟩ hcopy ?_
      simp only [allSucceeded_append, allSucceeded_cons, hwrite.succeeded, true_and,
        hlegacy.succeeded_iff, henable.succeeded_iff, hcopied.succeeded_iff, succeeds_some]
      exact Iff.rfl
    · exact .aborted fun hreturns => hnot fun _ => hreturns.1 hcopy

/-- Every end of a disable call answers as its outcomes say. -/
theorem DisableEnds.answers {L : ScxLoader S B} {o : Outcomes} {app app' : App S B} {outcome} {log}
    (h : DisableEnds L o app outcome app' log) : Call.disable.Answers L o app outcome log := by
  cases h with
  | notWritten hwrite =>
    have hcopy : ¬ Call.disable.ReachesCopy L o app.config := fun hcopy =>
      hwrite.not_stages hcopy.1
    exact .failed ⟨fun h => absurd h hcopy, trivial⟩ hcopy
  | notStopped hwrite hstop =>
    have hcopy : ¬ Call.disable.ReachesCopy L o app.config := fun hcopy =>
      absurd (hstop.symm.trans hcopy.2) (by simp)
    exact .failed ⟨fun h => absurd h hcopy, trivial⟩ hcopy
  | stopped hwrite hstop hcopied =>
    have hcopy : Call.disable.ReachesCopy L o app.config := ⟨hwrite.staged.1, hstop⟩
    obtain ⟨hspawns, rfl⟩ | ⟨hnot, message, rfl⟩ := hcopied.outcome_eq
    · refine .done ⟨fun _ => hspawns (by simp), trivial⟩ hcopy ?_
      simp only [allSucceeded_append, allSucceeded_cons, hwrite.succeeded, true_and,
        hcopied.succeeded_iff, succeeds_some]
      exact Iff.rfl
    · exact .aborted fun hreturns => hnot fun _ => hreturns.1 hcopy

/-- Every call answers as its outcomes say. -/
theorem Call.action_answers (L : ScxLoader S B) (o : Outcomes) (call : Call) (app : App S B) :
    call.Answers L o app ((call.action L o).run app).outcome ((call.action L o).run app).log := by
  have hends := call.action_ends L o app
  cases call with
  | apply scxName scxMode extraFlags => exact ApplyEnds.answers hends
  | disable => exact DisableEnds.answers hends

/-- A call reports its failures: success, for the library and for the window, means that every
step it performed succeeded, anything else is an error, and it never panics. -/
structure Reports (ended : Ended (App S B) (Performed S) Error Unit) : Prop where
  ok_only : ended.outcome = .ok () → AllSucceeded ended.log
  true_only : caught ended.outcome = some true → AllSucceeded ended.log
  err_otherwise : ¬ AllSucceeded ended.log → ∃ error, ended.outcome = .err error
  never_panics : ∀ message, ended.outcome ≠ .panic message

/-- A call reports its failures exactly if every child process it comes to can be spawned and, when
it gets as far as the copy, the steps whose failures it only prints all succeed. -/
theorem call_reports_iff (L : ScxLoader S B) (o : Outcomes) (call : Call) (app : App S B) :
    Reports ((call.action L o).run app) ↔
      call.Returns L o app ∧ (call.ReachesCopy L o app.config → call.PrintsNoFailure o app) := by
  have hanswers := call.action_answers L o app
  constructor
  · intro hreports
    generalize houtcome : ((call.action L o).run app).outcome = outcome at hanswers
    cases hanswers with
    | aborted hreturns => exact absurd houtcome (hreports.never_panics _)
    | failed hreturns hcopy => exact ⟨hreturns, fun h => absurd h hcopy⟩
    | done hreturns hcopy hlog => exact ⟨hreturns, fun _ => hlog.mp (hreports.ok_only houtcome)⟩
  · intro h
    obtain ⟨hreturns, hprints⟩ := h
    generalize houtcome : ((call.action L o).run app).outcome = outcome at hanswers
    cases hanswers with
    | aborted hnot => exact absurd hreturns hnot
    | failed _ hcopy =>
      refine ⟨?_, ?_, fun _ => ⟨_, houtcome⟩, ?_⟩
      · simp [houtcome]
      · simp [houtcome, caught]
      · simp [houtcome]
    | done _ hcopy hlog =>
      have hall := hlog.mpr (hprints hcopy)
      refine ⟨fun _ => hall, fun _ => hall, fun hnot => absurd hall hnot, ?_⟩
      simp [houtcome]

/-- A denied copy is not reported: the call succeeds and its last step failed. -/
theorem apply_denied_copy_not_reported :
    ¬ Reports (((Call.apply "scx_rusty" 0 "").action sampleLoader
      { Outcomes.succeed with copy := .exited false }).run (startedApp ⟨none, none, ∅⟩)) := by
  intro hreports
  have hall := hreports.ok_only (by decide)
  revert hall
  unfold AllSucceeded
  decide

end ScxManager
