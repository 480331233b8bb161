import ScxManager.Sessions
import Mathlib.Logic.Function.Basic

/-!
# What a configuration means

A configuration stores sparse per-mode lists under scheduler names. What it means to the user is
simpler: a default scheduler, a default mode, and one argument list for every scheduler and mode.
An accepted apply call sets the default and one list; a disable call clears the default. The
library's updates refine these, although they skip writes and create entries with empty modes.
-/

namespace ScxManager

variable {S B : Type}

/-- The meaning of a configuration, with a list for every scheduler and mode. -/
structure Settings (S : Type) where
  defaultSched : Option S
  defaultMode : Option SchedMode
  flags : S × SchedMode → List String

/-- Make a scheduler and mode the default, running with these arguments from now on. -/
def Settings.choose [DecidableEq S] (settings : Settings S) (sched : S) (mode : SchedMode)
    (args : List String) : Settings S where
  defaultSched := some sched
  defaultMode := some mode
  flags := Function.update settings.flags (sched, mode) args

/-- Start no scheduler by default. -/
def Settings.clearDefault (settings : Settings S) : Settings S :=
  { settings with defaultSched := none }

/-- The meaning of a configuration in memory. -/
def Config.settings (L : ScxLoader S B) (config : Config S) : Settings S where
  defaultSched := config.defaultSched
  defaultMode := config.defaultMode
  flags p := L.getScxFlagsForMode config p.1 p.2

/-- Setting a mode's list changes that mode only. -/
theorem SchedConfig.get_set (entry : SchedConfig) (mode mode' : SchedMode) (args : List String) :
    (entry.set mode args).get mode' = if mode' = mode then some args else entry.get mode' := by
  cases mode <;> cases mode' <;> rfl

/-- Storing a list for a scheduler and mode changes no other stored list, a new entry included. -/
theorem stored_setScxArgs (L : ScxLoader S B) (sched : S) (mode : SchedMode) (args : List String)
    (config : Config S) (name : String) (mode' : SchedMode) :
    (setScxArgs L sched mode args config).stored name mode' =
      if name = L.intoStr sched ∧ mode' = mode then some args else config.stored name mode' := by
  unfold Config.stored setScxArgs
  by_cases hname : name = L.intoStr sched
  · subst hname
    simp only [Finmap.lookup_insert, Option.bind_some, SchedConfig.get_set, true_and]
    cases hentry : config.scheds.lookup (L.intoStr sched) with
    | none => simp
    | some entry => simp
  · simp [Finmap.lookup_insert_of_ne _ hname, hname]

/-- Only the stored lists matter to what a configuration resolves. -/
theorem getScxFlagsForMode_congr {L : ScxLoader S B} {config config' : Config S} {sched : S}
    {mode : SchedMode}
    (h : config.stored (L.intoStr sched) mode = config'.stored (L.intoStr sched) mode) :
    L.getScxFlagsForMode config sched mode = L.getScxFlagsForMode config' sched mode := by
  rw [L.getScxFlagsForMode_eq, L.getScxFlagsForMode_eq, h]

/-- What an accepted apply call leaves stored: its own list, if it differs from what was
resolved, and otherwise what was there. -/
theorem stored_applied (L : ScxLoader S B) (sched : S) (mode : SchedMode) (args : List String)
    (config : Config S) (name : String) (mode' : SchedMode) :
    (applied L sched mode args config).stored name mode' =
      if ¬ SwitchesByMode L sched mode args config ∧ name = L.intoStr sched ∧ mode' = mode then
        some args
      else config.stored name mode' := by
  unfold applied
  by_cases hmode : args = L.getScxFlagsForMode config sched mode
  · rw [if_pos hmode, if_neg (fun h => h.1 hmode)]
    rfl
  · rw [if_neg hmode, stored_setScxArgs]
    simp only [SwitchesByMode, hmode, not_false_eq_true, true_and]
    rfl

/-- After an accepted apply call its scheduler and mode resolve to its arguments, whether they
were stored or found there already; everything else resolves as before. -/
theorem getScxFlagsForMode_applied [DecidableEq S] (L : ScxLoader S B) (sched sched' : S)
    (mode mode' : SchedMode) (args : List String) (config : Config S) :
    L.getScxFlagsForMode (applied L sched mode args config) sched' mode' =
      if sched' = sched ∧ mode' = mode then args else L.getScxFlagsForMode config sched' mode' := by
  have hname : L.intoStr sched' = L.intoStr sched ↔ sched' = sched := L.intoStr_injective.eq_iff
  rw [L.getScxFlagsForMode_eq, stored_applied]
  by_cases hmode : SwitchesByMode L sched mode args config
  · rw [if_neg (fun h => h.1 hmode), ← L.getScxFlagsForMode_eq]
    split
    next hsame =>
      obtain ⟨rfl, rfl⟩ := hsame
      exact hmode.symm
    next => rfl
  · simp only [hmode, not_false_eq_true, true_and, hname]
    split
    next => rfl
    next => rw [← L.getScxFlagsForMode_eq]

@[simp] theorem applied_defaultSched (L : ScxLoader S B) (sched : S) (mode : SchedMode)
    (args : List String) (config : Config S) :
    (applied L sched mode args config).defaultSched = some sched := by
  unfold applied
  split <;> rfl

@[simp] theorem applied_defaultMode (L : ScxLoader S B) (sched : S) (mode : SchedMode)
    (args : List String) (config : Config S) :
    (applied L sched mode args config).defaultMode = some mode := by
  unfold applied
  split <;> rfl

/-- The update of an accepted apply call refines choosing a scheduler, a mode and arguments. -/
theorem settings_applied [DecidableEq S] (L : ScxLoader S B) (sched : S) (mode : SchedMode) (args : List String)
    (config : Config S) :
    (applied L sched mode args config).settings L =
      (config.settings L).choose sched mode args := by
  unfold Config.settings Settings.choose
  congr 1
  · exact applied_defaultSched L sched mode args config
  · exact applied_defaultMode L sched mode args config
  · funext p
    rw [getScxFlagsForMode_applied, Function.update_apply]
    simp only [Prod.ext_iff]

/-- The update of a disable call refines clearing the default scheduler. -/
theorem settings_disabled (L : ScxLoader S B) (config : Config S) :
    (disabled config).settings L = (config.settings L).clearDefault := by
  unfold Config.settings Settings.clearDefault
  congr 1
  funext p
  exact getScxFlagsForMode_congr rfl

/-- The meaning of the configuration after one event. -/
def Settings.step [DecidableEq S] (L : ScxLoader S B) (settings : Settings S) :
    Event S → Settings S
  | .call (.apply scxName scxMode extraFlags) _ =>
    match accepted L scxName scxMode with
    | some (sched, mode) => settings.choose sched mode (schedArgsOf extraFlags)
    | none => settings
  | .call .disable _ => settings.clearDefault
  | .restart _ _ => settings

/-- What a returning call leaves in memory refines the abstract step, whatever its outcomes. -/
theorem settings_memory [DecidableEq S] (L : ScxLoader S B) (call : Call) (o : Outcomes)
    (config : Config S) :
    (call.memory L config).settings L = (config.settings L).step L (.call call o) := by
  cases call with
  | apply scxName scxMode extraFlags =>
    unfold Call.memory Settings.step
    dsimp only
    cases haccepted : accepted L scxName scxMode with
    | none => rfl
    | some pair => exact settings_applied L pair.1 pair.2 (schedArgsOf extraFlags) config
  | disable => exact settings_disabled L config

/-- A session refines the abstract session: its failures and its files play no part. -/
theorem session_refines [DecidableEq S] (L : ScxLoader S B) {app₀ app : App S B}
    {events : List (Event S)} (hrun : Runs.run (App.step L) app₀ events = some app) :
    app.config.settings L = events.foldl (Settings.step L) (app₀.config.settings L) := by
  refine Runs.run_simulates (R := fun (app : App S B) settings => app.config.settings L = settings)
    ?_ rfl hrun
  intro app settings event app' hsettings hstep
  subst hsettings
  cases event with
  | call call o => rw [(App.step_call hstep).memory, settings_memory]
  | restart fallback running =>
    obtain rfl : app.mapSystem (System.restart L fallback running) = app' := Option.some.inj hstep
    rfl

/-- The arguments an event gives to a scheduler and mode, if it is an accepted apply for them. -/
def Event.argsFor [DecidableEq S] (L : ScxLoader S B) (sched : S) (mode : SchedMode) :
    Event S → Option (List String)
  | .call (.apply scxName scxMode extraFlags) _ =>
    if accepted L scxName scxMode = some (sched, mode) then some (schedArgsOf extraFlags) else none
  | _ => none

/-- The default mode an event sets, if it is an accepted apply. -/
def Event.modeSet (L : ScxLoader S B) : Event S → Option (Option SchedMode)
  | .call (.apply scxName scxMode _) _ => (accepted L scxName scxMode).map fun p => some p.2
  | _ => none

/-- The default scheduler an event sets, if it is an accepted apply, or that it clears it. -/
def Event.schedSet (L : ScxLoader S B) : Event S → Option (Option S)
  | .call (.apply scxName scxMode _) _ => (accepted L scxName scxMode).map fun p => some p.1
  | .call .disable _ => some none
  | .restart _ _ => none

/-- One event acts on the three parts of the meaning independently. -/
theorem Settings.step_parts [DecidableEq S] (L : ScxLoader S B) (settings : Settings S)
    (event : Event S) :
    (∀ sched mode, (settings.step L event).flags (sched, mode) =
        (event.argsFor L sched mode).getD (settings.flags (sched, mode))) ∧
      (settings.step L event).defaultMode = (event.modeSet L).getD settings.defaultMode ∧
      (settings.step L event).defaultSched = (event.schedSet L).getD settings.defaultSched := by
  rcases event with ⟨⟨scxName, scxMode, extraFlags⟩ | -, o⟩ | ⟨fallback, running⟩
  · unfold Settings.step Event.argsFor Event.modeSet Event.schedSet
    dsimp only
    cases haccepted : accepted L scxName scxMode with
    | none => exact ⟨fun _ _ => rfl, rfl, rfl⟩
    | some pair =>
      refine ⟨fun sched mode => ?_, rfl, rfl⟩
      dsimp only
      change Function.update settings.flags pair (schedArgsOf extraFlags) (sched, mode) = _
      rw [Function.update_apply]
      by_cases hpair : (sched, mode) = pair
      · rw [if_pos hpair, if_pos (congrArg some hpair.symm)]
        rfl
      · rw [if_neg hpair, if_neg fun h => hpair (Option.some.inj h).symm]
        rfl
  · exact ⟨fun _ _ => rfl, rfl, rfl⟩
  · exact ⟨fun _ _ => rfl, rfl, rfl⟩

/-- The configuration in memory is the replay of the accepted apply calls: a scheduler and mode
resolve to the arguments of the last one for them, the default mode is that of the last one,
and so is the default scheduler unless a disable call came later. -/
theorem session_replay [DecidableEq S] (L : ScxLoader S B) {app₀ app : App S B}
    {events : List (Event S)} (hrun : Runs.run (App.step L) app₀ events = some app) :
    (∀ sched mode, L.getScxFlagsForMode app.config sched mode =
        (events.filterMap (Event.argsFor L sched mode)).getLast?.getD
          (L.getScxFlagsForMode app₀.config sched mode)) ∧
      app.config.defaultMode =
        (events.filterMap (Event.modeSet L)).getLast?.getD app₀.config.defaultMode ∧
      app.config.defaultSched =
        (events.filterMap (Event.schedSet L)).getLast?.getD app₀.config.defaultSched := by
  have hstep (app : App S B) (event : Event S) (app' : App S B)
      (h : app.step L event = some app') :
      app'.config.settings L = (app.config.settings L).step L event := by
    have hrun : Runs.run (App.step L) app [event] = some app' :=
      Runs.run_cons_eq_some.mpr ⟨app', h, rfl⟩
    exact session_refines L hrun
  refine ⟨fun sched mode => ?_, ?_, ?_⟩
  · refine Runs.run_last_write (f := fun app : App S B =>
      L.getScxFlagsForMode app.config sched mode) ?_ hrun
    intro app event app' h
    have hflags := (Settings.step_parts L (app.config.settings L) event).1 sched mode
    rwa [← hstep app event app' h] at hflags
  · refine Runs.run_last_write (f := fun app : App S B => app.config.defaultMode) ?_ hrun
    intro app event app' h
    have hmode := (Settings.step_parts L (app.config.settings L) event).2.1
    rwa [← hstep app event app' h] at hmode
  · refine Runs.run_last_write (f := fun app : App S B => app.config.defaultSched) ?_ hrun
    intro app event app' h
    have hsched := (Settings.step_parts L (app.config.settings L) event).2.2
    rwa [← hstep app event app' h] at hsched

/-- Custom flags of one scheduler outlive applying another one with its defaults, a disable call
whose copy is denied and a restart of the daemon. -/
theorem session_replay_rusty_then_bpfland :
    ∃ app, Runs.run (App.step sampleLoader) (startedApp ⟨none, none, ∅⟩)
        [.call (.apply "scx_rusty" 2 "-k -v") .succeed, .call (.apply "scx_bpfland" 0 "") .succeed,
          .call .disable { Outcomes.succeed with copy := .exited false },
          .restart ⟨none, none, ∅⟩ none] = some app ∧
      sampleLoader.getScxFlagsForMode app.config .rusty .powerSave = ["-k", "-v"] ∧
      app.config.defaultMode = some .auto ∧ app.config.defaultSched = none := by
  obtain ⟨app, hrun⟩ := Option.isSome_iff_exists.mp (show (Runs.run (App.step sampleLoader)
    (startedApp ⟨none, none, ∅⟩) [.call (.apply "scx_rusty" 2 "-k -v") .succeed,
      .call (.apply "scx_bpfland" 0 "") .succeed,
      .call .disable { Outcomes.succeed with copy := .exited false },
      .restart ⟨none, none, ∅⟩ none]).isSome by decide)
  obtain ⟨hflags, hmode, hsched⟩ := session_replay sampleLoader hrun
  refine ⟨app, hrun, ?_, ?_, ?_⟩
  · rw [hflags]
    decide
  · rw [hmode]
    decide
  · rw [hsched]
    decide

end ScxManager
