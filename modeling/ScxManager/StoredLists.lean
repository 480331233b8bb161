import ScxManager.Settings

/-!
# Which lists a session stores

A list is stored only if it differs from what was resolved, and then stays stored, though later applies
may change it. Which schedulers and modes have a list stored in the end does not depend on the order of
the applies: those that had one, and those that were given other arguments than the built-in ones at
some time. The others keep following the built-in lists.
-/

namespace ScxManager

variable {S B : Type}

/-- The event gives a scheduler and mode other arguments than the built-in ones. -/
def Event.AsksCustom [DecidableEq S] (L : ScxLoader S B) (sched : S) (mode : SchedMode)
    (event : Event S) : Prop :=
  ∃ args, event.argsFor L sched mode = some args ∧ args ≠ L.defaultFlags sched mode

/-- Only an accepted apply for a scheduler and mode gives them arguments. -/
theorem Event.asksCustom_apply_iff [DecidableEq S] (L : ScxLoader S B) (sched : S) (mode : SchedMode)
    (scxName : String) (scxMode : UInt32) (extraFlags : String) (o : Outcomes) :
    (Event.call (.apply scxName scxMode extraFlags) o).AsksCustom L sched mode ↔
      accepted L scxName scxMode = some (sched, mode) ∧
        schedArgsOf extraFlags ≠ L.defaultFlags sched mode := by
  unfold Event.AsksCustom Event.argsFor
  by_cases haccepted : accepted L scxName scxMode = some (sched, mode)
  · simp [haccepted]
  · simp [haccepted]

/-- Without a stored list the built-in one is resolved. -/
theorem switchesByMode_of_not_stored {L : ScxLoader S B} {config : Config S} {sched : S}
    {mode : SchedMode} (h : config.stored (L.intoStr sched) mode = none) (args : List String) :
    SwitchesByMode L sched mode args config ↔ args = L.defaultFlags sched mode := by
  unfold SwitchesByMode
  rw [L.getScxFlagsForMode_eq, h]
  exact Iff.rfl

/-- An accepted apply leaves a list stored if one was, or if it asks for other arguments than the
built-in ones. -/
theorem stored_applied_isSome (L : ScxLoader S B) (sched : S) (mode : SchedMode)
    (args : List String) (config : Config S) :
    ((applied L sched mode args config).stored (L.intoStr sched) mode).isSome ↔
      (config.stored (L.intoStr sched) mode).isSome ∨ args ≠ L.defaultFlags sched mode := by
  rw [stored_applied]
  cases hstored : config.stored (L.intoStr sched) mode with
  | none => simp [switchesByMode_of_not_stored hstored, apply_ite Option.isSome]
  | some list => simp [apply_ite Option.isSome]

/-- An accepted apply for one scheduler and mode leaves what is stored for another one as it was. -/
theorem stored_applied_of_ne (L : ScxLoader S B) {sched sched' : S} {mode mode' : SchedMode}
    (h : (sched, mode) ≠ (sched', mode')) (args : List String) (config : Config S) :
    (applied L sched mode args config).stored (L.intoStr sched') mode' =
      config.stored (L.intoStr sched') mode' := by
  rw [stored_applied, if_neg]
  intro hsame
  obtain ⟨-, hname, rfl⟩ := hsame
  exact h (by rw [L.intoStr_injective hname])

/-- Names of no scheduler have their lists left alone. -/
theorem stored_applied_of_no_sched (L : ScxLoader S B) (sched : S) (mode : SchedMode)
    (args : List String) (config : Config S) {name : String} (h : ∀ sched, L.intoStr sched ≠ name)
    (mode' : SchedMode) :
    (applied L sched mode args config).stored name mode' = config.stored name mode' := by
  rw [stored_applied, if_neg]
  exact fun hsame => h sched hsame.2.1.symm

/-- What one event makes of the stored lists. -/
theorem App.step_stored [DecidableEq S] {L : ScxLoader S B} {app app' : App S B} {event : Event S}
    (h : app.step L event = some app') :
    (∀ sched mode, (app'.config.stored (L.intoStr sched) mode).isSome ↔
        (app.config.stored (L.intoStr sched) mode).isSome ∨ event.AsksCustom L sched mode) ∧
      ∀ name, (∀ sched, L.intoStr sched ≠ name) → ∀ mode,
        app'.config.stored name mode = app.config.stored name mode := by
  rcases event with ⟨⟨scxName, scxMode, extraFlags⟩ | -, o⟩ | ⟨fallback, running⟩
  · rw [(App.step_call h).memory]
    unfold Call.memory
    dsimp only
    cases haccepted : accepted L scxName scxMode with
    | none => simp [Event.asksCustom_apply_iff, haccepted]
    | some pair =>
      refine ⟨fun sched mode => ?_, fun name hname mode => ?_⟩
      · rw [Event.asksCustom_apply_iff, haccepted]
        by_cases hpair : pair = (sched, mode)
        · subst hpair
          simp [stored_applied_isSome]
        · rw [stored_applied_of_ne L hpair]
          simp [hpair]
      · exact stored_applied_of_no_sched L pair.1 pair.2 _ _ hname mode
  · rw [(App.step_call h).memory]
    exact ⟨fun sched mode => by simp [Event.AsksCustom, Event.argsFor, Call.memory, disabled,
      Config.stored], fun _ _ _ => rfl⟩
  · obtain rfl : app.mapSystem (System.restart L fallback running) = app' := Option.some.inj h
    exact ⟨fun sched mode => by simp [Event.AsksCustom, Event.argsFor, App.mapSystem],
      fun _ _ _ => rfl⟩

/-- After a session a scheduler and mode have a list stored exactly if they had one before it or some
event gave them other arguments than the built-in ones, and what is stored is what they resolve to; the
others resolve to the built-in list. Lists under names of no scheduler are as they were. -/
theorem session_stores [DecidableEq S] {L : ScxLoader S B} {app₀ app : App S B}
    {events : List (Event S)} (hrun : Runs.run (App.step L) app₀ events = some app) :
    (∀ sched mode,
      ((app.config.stored (L.intoStr sched) mode).isSome ↔
        (app₀.config.stored (L.intoStr sched) mode).isSome ∨
          ∃ event ∈ events, event.AsksCustom L sched mode) ∧
      app.config.stored (L.intoStr sched) mode =
        if (app.config.stored (L.intoStr sched) mode).isSome then
          some (L.getScxFlagsForMode app.config sched mode)
        else none) ∧
      (∀ sched mode, app₀.config.stored (L.intoStr sched) mode = none →
        (∀ event ∈ events, ¬ event.AsksCustom L sched mode) →
          L.getScxFlagsForMode app.config sched mode = L.defaultFlags sched mode) ∧
      ∀ name, (∀ sched, L.intoStr sched ≠ name) → ∀ mode,
        app.config.stored name mode = app₀.config.stored name mode := by
  have hstored (sched : S) (mode : SchedMode) :
      (app.config.stored (L.intoStr sched) mode).isSome ↔
        (app₀.config.stored (L.intoStr sched) mode).isSome ∨
          ∃ event ∈ events, event.AsksCustom L sched mode := by
    refine Runs.run_latch (I := fun _ => True) (K := fun app : App S B =>
      (app.config.stored (L.intoStr sched) mode).isSome) (fun _ _ _ _ _ => trivial) ?_ trivial hrun
    exact fun _ _ _ _ hstep => (App.step_stored hstep).1 sched mode
  refine ⟨fun sched mode => ⟨hstored sched mode, ?_⟩, ?_, ?_⟩
  · rw [L.getScxFlagsForMode_eq]
    cases app.config.stored (L.intoStr sched) mode with
    | none => rfl
    | some list => rfl
  · intro sched mode hnone hbuiltIn
    have hnot : ¬ (app.config.stored (L.intoStr sched) mode).isSome := by
      rw [hstored, hnone]
      simpa using hbuiltIn
    rw [Option.not_isSome_iff_eq_none] at hnot
    rw [L.getScxFlagsForMode_eq, hnot]
    rfl
  · intro name hname mode
    refine Runs.run_invariant (I := fun app : App S B =>
      app.config.stored name mode = app₀.config.stored name mode) ?_ rfl hrun
    exact fun _ _ _ happ hstep => ((App.step_stored hstep).2 name hname mode).trans happ

/-- Flags that were stored once stay stored when the built-in ones are applied again. -/
theorem session_stores_rusty :
    ∃ app, Runs.run (App.step sampleLoader) (startedApp ⟨none, none, ∅⟩)
        [.call (.apply "scx_rusty" 2 "-k") .succeed, .call .disable .succeed,
          .call (.apply "scx_rusty" 2 "") .succeed] = some app ∧
      (app.config.stored "scx_rusty" .powerSave).isSome := by
  have hrun : Runs.run (App.step sampleLoader) (startedApp ⟨none, none, ∅⟩)
      [.call (.apply "scx_rusty" 2 "-k") .succeed, .call .disable .succeed,
        .call (.apply "scx_rusty" 2 "") .succeed] = some _ := rfl
  refine ⟨_, hrun, ((session_stores hrun).1 .rusty .powerSave).1.mpr (Or.inr ?_)⟩
  refine ⟨_, List.mem_cons_self, (Event.asksCustom_apply_iff ..).mpr ⟨rfl, ?_⟩⟩
  decide

end ScxManager
