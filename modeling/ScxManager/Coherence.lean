import ScxManager.Failures
import ScxManager.Settings

/-!
# Memory and the file at `config_path`

Both calls change the configuration in memory first and save it last, and nothing takes the
change back when a step in between fails or the copy is denied. So memory and file agree along a
session exactly as long as every call either installs its configuration or had nothing to change.
-/

namespace ScxManager

open Actions

variable {S B : Type}

/-- An instance that would start with the configuration it holds now. -/
def Coherent (L : ScxLoader S B) (app : App S B) : Prop :=
  initConfig L app.system.configFile = .ok app.config

/-- The configuration holds already what the call would put into it. -/
def Call.AsksNothingNew (L : ScxLoader S B) (call : Call) (config : Config S) : Prop :=
  match call with
  | .apply scxName scxMode extraFlags =>
    ∀ scxSched schedMode, accepted L scxName scxMode = some (scxSched, schedMode) →
      config.defaultSched = some scxSched ∧ config.defaultMode = some schedMode ∧
        SwitchesByMode L scxSched schedMode (schedArgsOf extraFlags) config
  | .disable => config.defaultSched = none

/-- An accepted apply call changes nothing exactly if its scheduler and mode are the default
already and resolve to its arguments. -/
theorem applied_eq_self_iff (L : ScxLoader S B) (scxSched : S) (schedMode : SchedMode)
    (schedArgs : List String) (config : Config S) :
    applied L scxSched schedMode schedArgs config = config ↔
      config.defaultSched = some scxSched ∧ config.defaultMode = some schedMode ∧
        SwitchesByMode L scxSched schedMode schedArgs config := by
  classical
  constructor
  · intro h
    have hsched := applied_defaultSched L scxSched schedMode schedArgs config
    have hmode := applied_defaultMode L scxSched schedMode schedArgs config
    have hflags := getScxFlagsForMode_applied L scxSched scxSched schedMode schedMode schedArgs config
    rw [if_pos ⟨rfl, rfl⟩] at hflags
    rw [h] at hsched hmode hflags
    exact ⟨hsched, hmode, hflags.symm⟩
  · intro h
    obtain ⟨hsched, hmode, hswitches⟩ := h
    unfold applied setScxSchedWithMode
    rw [if_pos hswitches, ← hsched, ← hmode]

/-- A call leaves the configuration in memory as it was exactly if it asks for nothing new. -/
theorem Call.memory_eq_self_iff (L : ScxLoader S B) (call : Call) (config : Config S) :
    call.memory L config = config ↔ call.AsksNothingNew L config := by
  cases call with
  | apply scxName scxMode extraFlags =>
    unfold Call.memory Call.AsksNothingNew
    dsimp only
    cases haccepted : accepted L scxName scxMode with
    | none => simp
    | some pair =>
      obtain ⟨scxSched, schedMode⟩ := pair
      rw [applied_eq_self_iff]
      simp
  | disable =>
    unfold Call.memory Call.AsksNothingNew disabled
    dsimp only
    constructor
    · intro h
      rw [← h]
    · intro h
      rw [← h]

/-- A call yields a next state exactly if it does not panic. -/
theorem App.step_call_iff (L : ScxLoader S B) (app : App S B) (call : Call) (o : Outcomes) :
    (∃ app', app.step L (.call call o) = some app') ↔ call.Returns L o app := by
  have hanswers := call.action_answers L o app
  unfold App.step
  dsimp only
  rcases hended : (call.action L o).run app with ⟨outcome, state, log⟩
  rw [hended] at hanswers
  cases hanswers with
  | aborted hnot => simp [hnot]
  | failed hreturns => simp [hreturns]
  | done hreturns => simp [hreturns]

/-- The call, if it returns, installs its configuration or asks for nothing new. -/
def KeepsCoherent (L : ScxLoader S B) (app : App S B) : Event S → Prop
  | .call call o =>
    call.Returns L o app → call.Installs L o app.config ∨ call.AsksNothingNew L app.config
  | .restart _ _ => True

/-- One call keeps memory and file together exactly if it installs or asks for nothing new. -/
theorem coherent_call_iff {L : ScxLoader S B} {app : App S B} (hcoherent : Coherent L app)
    (call : Call) (o : Outcomes) :
    (∀ app', app.step L (.call call o) = some app' → Coherent L app') ↔
      KeepsCoherent L app (.call call o) := by
  constructor
  · intro h hreturns
    obtain ⟨app', hstep⟩ := (App.step_call_iff L app call o).mpr hreturns
    have heffect := App.step_call hstep
    by_cases hinstalls : call.Installs L o app.config
    · exact Or.inl hinstalls
    · have hafter : initConfig L app'.system.configFile = .ok app'.config := h app' hstep
      rw [heffect.kept hinstalls, hcoherent, heffect.memory] at hafter
      have hsame : app.config = call.memory L app.config := Except.ok.inj hafter
      exact Or.inr ((Call.memory_eq_self_iff L call app.config).mp hsame.symm)
  · intro h app' hstep
    have heffect := App.step_call hstep
    unfold Coherent
    by_cases hinstalls : call.Installs L o app.config
    · obtain ⟨toml, htoml, hfile⟩ := heffect.installed hinstalls
      rw [hfile]
      exact L.parseConfigFile_toToml app'.config toml htoml
    · have hreturns := (App.step_call_iff L app call o).mp ⟨app', hstep⟩
      have hsame := (Call.memory_eq_self_iff L call app.config).mpr
        ((h hreturns).resolve_left hinstalls)
      rw [heffect.kept hinstalls, heffect.memory, hsame]
      exact hcoherent

/-- Along a session that starts with memory and file in agreement, they agree after every call
exactly if every call that returns installs its configuration or asks for nothing new. -/
theorem coherent_session_iff (L : ScxLoader S B) {app : App S B} (hcoherent : Coherent L app)
    (events : List (Event S)) :
    Runs.AllStates (App.step L) (Coherent L) app events ↔
      Runs.AllSteps (App.step L) (KeepsCoherent L) app events := by
  have hiff : Runs.AllStates (App.step L) (Coherent L) app events ↔
      Coherent L app ∧ Runs.AllSteps (App.step L) (KeepsCoherent L) app events := by
    refine Runs.allStates_iff_allSteps (I := fun _ => True) (fun _ _ _ _ _ => trivial) ?_ trivial events
    intro app event _ hcoherent
    cases event with
    | call call o => exact coherent_call_iff hcoherent call o
    | restart fallback running =>
      refine iff_of_true ?_ trivial
      intro app' hstep
      obtain rfl : app.mapSystem (System.restart L fallback running) = app' := Option.some.inj hstep
      exact hcoherent
  rw [hiff, and_iff_right hcoherent]

/-- Two installed calls and a third one with nothing new keep memory and file together, though
the copy of the third one is denied. -/
theorem coherent_session_rusty :
    Runs.AllStates (App.step sampleLoader) (Coherent sampleLoader) (startedApp ⟨none, none, ∅⟩)
      [.call (.apply "scx_rusty" 0 "-v") .succeed, .call .disable .succeed,
        .call .disable { Outcomes.succeed with copy := .exited false }] := by
  have hcoherent : Coherent sampleLoader (startedApp ⟨none, none, ∅⟩) := rfl
  refine (coherent_session_iff sampleLoader hcoherent _).mpr ⟨?_, ?_⟩
  · exact fun _ => Or.inl ⟨⟨rfl, rfl, rfl, rfl⟩, rfl⟩
  intro app₁ _
  refine ⟨fun _ => Or.inl ⟨⟨⟨rfl, rfl, rfl⟩, rfl⟩, rfl⟩, ?_⟩
  intro app₂ hstep
  refine ⟨fun _ => Or.inr ?_, fun _ _ => trivial⟩
  change app₂.config.defaultSched = none
  rw [(App.step_call hstep).memory]
  rfl

/-- A denied copy leaves the change in memory only. -/
theorem denied_copy_not_coherent :
    Coherent sampleLoader (startedApp ⟨none, none, ∅⟩) ∧
      ¬ Runs.AllStates (App.step sampleLoader) (Coherent sampleLoader) (startedApp ⟨none, none, ∅⟩)
        [.call (.apply "scx_rusty" 0 "") { Outcomes.succeed with copy := .exited false }] := by
  refine ⟨rfl, ?_⟩
  intro h
  have hafter := h.2 _ rfl
  have hsched := congrArg Config.defaultSched (Except.ok.inj hafter)
  revert hsched
  decide

end ScxManager
