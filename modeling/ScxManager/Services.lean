import ScxManager.FailedApply

/-!
# The two services along a session

An apply call gets the legacy service out of the way and enables the loader service; nothing else
touches either of them. So along a session the legacy service only ever goes off and the loader service
only ever becomes enabled, and which events did it can be read off the outcomes alone.
-/

namespace ScxManager

open Actions

variable {S B : Type}

/-- A shell that cannot ask counts as a negative answer. -/
theorem isScxServiceEnabled_eq (o : Outcomes) (system : System S B) :
    isScxServiceEnabled o system = (o.shell .scxEnabled && system.scx.enabled) := by
  unfold isScxServiceEnabled Service.isEnabled
  cases o.shell .scxEnabled <;> cases system.scx.enabled <;> decide

theorem isScxServiceActive_eq (o : Outcomes) (system : System S B) :
    isScxServiceActive o system = (o.shell .scxActive && system.scx.active) := by
  unfold isScxServiceActive Service.isActive
  cases o.shell .scxActive <;> cases system.scx.active <;> decide

/-- The legacy service after an apply call. -/
def Service.afterLegacy (o : Outcomes) (scx : Service) : Service :=
  if o.scxService = .exited true then
    if o.shell .scxEnabled && scx.enabled then ⟨false, false⟩
    else if o.shell .scxActive && scx.active then { scx with active := false }
    else scx
  else scx

/-- The legacy service after a call that returns. -/
def Call.scxAfter (o : Outcomes) (call : Call) (scx : Service) : Service :=
  match call with
  | .apply .. => scx.afterLegacy o
  | .disable => scx

/-- The loader service after a call that returns. -/
def Call.scxLoaderAfter (L : ScxLoader S B) (o : Outcomes) (call : Call) (scxLoader : Service) :
    Service :=
  match call with
  | .apply scxName scxMode _ =>
    if (accepted L scxName scxMode).isSome ∧ o.enableLoader = .exited true then
      { scxLoader with enabled := true }
    else scxLoader
  | .disable => scxLoader

/-- The child process that gets the legacy service out of the way leaves it as `afterLegacy` says. -/
theorem System.afterChild_legacy_scx (o : Outcomes) (system : System S B) :
    (system.afterChild (legacyCommand o system) o.scxService).scx = system.scx.afterLegacy o := by
  unfold System.afterChild legacyCommand Service.afterLegacy
  rw [isScxServiceEnabled_eq, isScxServiceActive_eq]
  cases o.shell .scxEnabled && system.scx.enabled with
  | true =>
    cases o.scxService with
    | notSpawned => rfl
    | exited success => cases success <;> rfl
  | false =>
    cases o.shell .scxActive && system.scx.active with
    | true =>
      cases o.scxService with
      | notSpawned => rfl
      | exited success => cases success <;> rfl
    | false =>
      cases o.scxService with
      | notSpawned => rfl
      | exited success => cases success <;> rfl

/-- The child process that enables the loader service is only left out where it is enabled already. -/
theorem System.afterChild_enable_eq (o : Outcomes) (system : System S B) :
    (system.afterChild (enableCommand o system) o.enableLoader).scxLoader =
      if o.enableLoader = .exited true then { system.scxLoader with enabled := true }
      else system.scxLoader := by
  unfold System.afterChild enableCommand
  rw [isScxLoaderServiceEnabled_eq]
  cases hasked : o.shell .scxLoaderEnabled && system.scxLoader.enabled with
  | true =>
    have henabled : system.scxLoader = { system.scxLoader with enabled := true } := by
      rw [Bool.and_eq_true] at hasked
      rw [← hasked.2]
    change system.scxLoader = _
    split
    next => exact henabled
    next => rfl
  | false =>
    cases o.enableLoader with
    | notSpawned => rfl
    | exited success => cases success <;> rfl

/-- What is left of the legacy service. -/
theorem Service.afterLegacy_iff (o : Outcomes) (scx : Service) :
    ((scx.afterLegacy o).enabled = false ↔ scx.enabled = false ∨
        o.shell .scxEnabled = true ∧ o.scxService = .exited true) ∧
      ((scx.afterLegacy o).active = false ↔ scx.active = false ∨
        (o.shell .scxActive = true ∧ o.scxService = .exited true) ∨
          scx.enabled = true ∧ o.shell .scxEnabled = true ∧ o.scxService = .exited true) := by
  unfold Service.afterLegacy
  by_cases hsuccess : o.scxService = .exited true
  · rw [if_pos hsuccess]
    by_cases hasked : (o.shell .scxEnabled && scx.enabled) = true
    · rw [if_pos hasked]
      rw [Bool.and_eq_true] at hasked
      simp [hsuccess, hasked]
    · rw [if_neg hasked]
      by_cases hactive : (o.shell .scxActive && scx.active) = true
      · rw [if_pos hactive]
        rw [Bool.and_eq_true] at hasked hactive
        simp only [hsuccess, hactive, and_true, true_or, or_true]
        grind
      · rw [if_neg hactive]
        rw [Bool.and_eq_true] at hasked hactive
        simp only [hsuccess, and_true]
        grind
  · rw [if_neg hsuccess]
    simp [hsuccess]

/-- The copy leaves both services alone. -/
theorem ChildEnds.services_copy {o : Outcomes} {app app' : App S B} {outcome} {log}
    (h : ChildEnds (some .copyConfig) o.copy app outcome app' log) :
    app'.system.scx = app.system.scx ∧ app'.system.scxLoader = app.system.scxLoader := by
  rw [h.system]
  constructor
  · exact System.afterChild_frame System.scx (fun command h => by cases h; rfl) o.copy
  · exact System.afterChild_frame System.scxLoader (fun command h => by cases h; rfl) o.copy

/-- An apply call that returns leaves the services as their child processes do. -/
theorem ApplyEnds.servicesAfter {L : ScxLoader S B} {o : Outcomes} {scxName : String}
    {scxMode : UInt32} {extraFlags : String} {app app' : App S B} {outcome} {log}
    (h : ApplyEnds L o scxName scxMode extraFlags app outcome app' log)
    (hreturned : ∀ message, outcome ≠ .panic message) :
    app'.system.scx = app.system.scx.afterLegacy o ∧
      app'.system.scxLoader =
        (Call.apply scxName scxMode extraFlags).scxLoaderAfter L o app.system.scxLoader := by
  have hscx := System.afterChild_legacy_scx o app.system
  have hscxLoader := System.afterChild_enable_eq o app.system
  cases h with
  | legacyPanics => exact absurd rfl (hreturned _)
  | enablePanics => exact absurd rfl (hreturned _)
  | rejected hlegacy hflags =>
    refine ⟨by rw [hlegacy.system, hscx], ?_⟩
    rw [hlegacy.scxLoader_legacy]
    unfold Call.scxLoaderAfter
    simp [not_accepted_of_error hflags]
  | notWritten hlegacy haccepted henable hwrite =>
    obtain ⟨hscx₂, hscxLoader₂⟩ := ApplyEnds.services hlegacy henable
    obtain ⟨hscx₃, hscxLoader₃⟩ := hwrite.services
    refine ⟨hscx₃.trans (hscx₂.trans hscx), hscxLoader₃.trans (hscxLoader₂.trans ?_)⟩
    rw [hscxLoader]
    simp [Call.scxLoaderAfter, haccepted]
  | written hlegacy haccepted henable hwrite hcopy =>
    obtain ⟨hscx₂, hscxLoader₂⟩ := ApplyEnds.services hlegacy henable
    obtain ⟨hscx₃, hscxLoader₃⟩ := hwrite.services
    obtain ⟨hscx₄, hscxLoader₄⟩ := hcopy.services_copy
    refine ⟨hscx₄.trans (hscx₃.trans (hscx₂.trans hscx)), ?_⟩
    refine hscxLoader₄.trans (hscxLoader₃.trans (hscxLoader₂.trans ?_))
    rw [hscxLoader]
    simp [Call.scxLoaderAfter, haccepted]

/-- A disable call leaves both services alone. -/
theorem DisableEnds.servicesAfter {L : ScxLoader S B} {o : Outcomes} {app app' : App S B} {outcome}
    {log} (h : DisableEnds L o app outcome app' log) :
    app'.system.scx = app.system.scx ∧ app'.system.scxLoader = app.system.scxLoader := by
  cases h with
  | notWritten hwrite => exact hwrite.services
  | notStopped hwrite hstop => exact hwrite.services
  | stopped hwrite hstop hcopy =>
    obtain ⟨hscx, hscxLoader⟩ := hwrite.services
    obtain ⟨hscx₂, hscxLoader₂⟩ := hcopy.services_copy
    exact ⟨hscx₂.trans hscx, hscxLoader₂.trans hscxLoader⟩

/-- A step over a call leaves each service as the call does. -/
theorem App.step_services {L : ScxLoader S B} {app app' : App S B} {call : Call} {o : Outcomes}
    (h : app.step L (.call call o) = some app') :
    app'.system.scx = call.scxAfter o app.system.scx ∧
      app'.system.scxLoader = call.scxLoaderAfter L o app.system.scxLoader := by
  obtain ⟨outcome, log, hends, hreturned⟩ := App.step_ends h
  cases call with
  | apply scxName scxMode extraFlags => exact ApplyEnds.servicesAfter hends hreturned
  | disable => exact DisableEnds.servicesAfter hends

namespace Event

/-- The event disables and stops the legacy service, if that is enabled. -/
def Disables : Event S → Prop
  | .call (.apply ..) o => o.shell .scxEnabled = true ∧ o.scxService = .exited true
  | _ => False

/-- The event stops the legacy service, if that is active. -/
def Stops : Event S → Prop
  | .call (.apply ..) o => o.shell .scxActive = true ∧ o.scxService = .exited true
  | _ => False

/-- The event enables the loader service, if that is not enabled. -/
def EnablesLoader (L : ScxLoader S B) : Event S → Prop
  | .call (.apply scxName scxMode _) o =>
    (accepted L scxName scxMode).isSome ∧ o.enableLoader = .exited true
  | _ => False

end Event

/-- What one event makes of the services. -/
theorem App.step_services_iff {L : ScxLoader S B} {app app' : App S B} {event : Event S}
    (h : app.step L event = some app') :
    (app'.system.scx.enabled = false ↔ app.system.scx.enabled = false ∨ event.Disables) ∧
      (app'.system.scx.active = false ↔ app.system.scx.active = false ∨ event.Stops ∨
        app.system.scx.enabled = true ∧ event.Disables) ∧
      (app'.system.scxLoader.enabled = true ↔
        app.system.scxLoader.enabled = true ∨ event.EnablesLoader L) ∧
      app'.system.scxLoader.active = app.system.scxLoader.active := by
  rcases event with ⟨⟨scxName, scxMode, extraFlags⟩ | -, o⟩ | ⟨fallback, running⟩
  · obtain ⟨hscx, hscxLoader⟩ := App.step_services h
    rw [hscx, hscxLoader]
    obtain ⟨henabled, hactive⟩ := app.system.scx.afterLegacy_iff o
    refine ⟨henabled, hactive, ?_, ?_⟩
    · unfold Call.scxLoaderAfter Event.EnablesLoader
      dsimp only
      split
      next h => simp [h]
      next h => simp [h]
    · unfold Call.scxLoaderAfter
      dsimp only
      split <;> rfl
  · obtain ⟨hscx, hscxLoader⟩ := App.step_services h
    rw [hscx, hscxLoader]
    simp [Call.scxAfter, Call.scxLoaderAfter, Event.Disables, Event.Stops, Event.EnablesLoader]
  · obtain rfl : app.mapSystem (System.restart L fallback running) = app' := Option.some.inj h
    simp [Event.Disables, Event.Stops, Event.EnablesLoader, App.mapSystem, System.restart]

/-- While the legacy service is enabled, or is off already, every event that disables it stops it. -/
theorem session_active_of_enabled {L : ScxLoader S B} {app₀ app : App S B} {events : List (Event S)}
    (henabled : app₀.system.scx.enabled = true)
    (hrun : Runs.run (App.step L) app₀ events = some app) :
    app.system.scx.active = false ↔ app₀.system.scx.active = false ∨
      ∃ event ∈ events, event.Stops ∨ event.Disables := by
  refine Runs.run_latch (K := fun app : App S B => app.system.scx.active = false)
    (I := fun app : App S B => app.system.scx.enabled = true ∨ app.system.scx.active = false)
    ?_ ?_ (Or.inl henabled) hrun
  · intro app event app' happ hstep
    obtain ⟨hdisabled, hstopped, -, -⟩ := App.step_services_iff hstep
    rw [← Bool.not_eq_false, hdisabled, hstopped]
    rw [← Bool.not_eq_false] at happ ⊢
    tauto
  · intro app event app' happ hstep
    rw [(App.step_services_iff hstep).2.1]
    tauto

/-- A legacy service that is not enabled is only ever stopped. -/
theorem session_active_of_not_enabled {L : ScxLoader S B} {app₀ app : App S B}
    {events : List (Event S)} (hdisabled : app₀.system.scx.enabled = false)
    (hrun : Runs.run (App.step L) app₀ events = some app) :
    app.system.scx.active = false ↔ app₀.system.scx.active = false ∨
      ∃ event ∈ events, event.Stops := by
  refine Runs.run_latch (K := fun app : App S B => app.system.scx.active = false)
    (I := fun app : App S B => app.system.scx.enabled = false) ?_ ?_ hdisabled hrun
  · intro app event app' happ hstep
    exact (App.step_services_iff hstep).1.mpr (Or.inl happ)
  · intro app event app' happ hstep
    rw [(App.step_services_iff hstep).2.1, happ]
    simp

/-- Along a session the legacy service only goes off and the loader service only becomes enabled. The
legacy service is enabled at the end if it was at first and no event disabled it, and active if it was
at first and no event stopped it or, where it was enabled at first, disabled it. The loader service is
enabled if it was at first or an event enabled it. -/
theorem session_services {L : ScxLoader S B} {app₀ app : App S B} {events : List (Event S)}
    (hrun : Runs.run (App.step L) app₀ events = some app) :
    (app.system.scx.enabled = true ↔
        app₀.system.scx.enabled = true ∧ ∀ event ∈ events, ¬ event.Disables) ∧
      (app.system.scx.active = true ↔
        app₀.system.scx.active = true ∧ (∀ event ∈ events, ¬ event.Stops) ∧
          (app₀.system.scx.enabled = true → ∀ event ∈ events, ¬ event.Disables)) ∧
      (app.system.scxLoader.enabled = true ↔
        app₀.system.scxLoader.enabled = true ∨ ∃ event ∈ events, event.EnablesLoader L) ∧
      app.system.scxLoader.active = app₀.system.scxLoader.active := by
  have henabled : app.system.scx.enabled = false ↔
      app₀.system.scx.enabled = false ∨ ∃ event ∈ events, event.Disables := by
    refine Runs.run_latch (I := fun _ => True) (K := fun app : App S B =>
      app.system.scx.enabled = false) (fun _ _ _ _ _ => trivial) ?_ trivial hrun
    exact fun _ _ _ _ hstep => (App.step_services_iff hstep).1
  refine ⟨?_, ?_, ?_, ?_⟩
  · rw [← Bool.not_eq_false, henabled]
    simp
  · rw [← Bool.not_eq_false]
    cases hfirst : app₀.system.scx.enabled with
    | true =>
      rw [session_active_of_enabled hfirst hrun]
      simp only [not_or, not_exists, not_and, Bool.not_eq_false, true_imp_iff]
      exact and_congr_right fun _ => forall₂_and
    | false =>
      rw [session_active_of_not_enabled hfirst hrun]
      simp
  · refine Runs.run_latch (I := fun _ => True) (K := fun app : App S B =>
      app.system.scxLoader.enabled = true) (fun _ _ _ _ _ => trivial) ?_ trivial hrun
    exact fun _ _ _ _ hstep => (App.step_services_iff hstep).2.2.1
  · refine Runs.run_invariant (I := fun app : App S B =>
      app.system.scxLoader.active = app₀.system.scxLoader.active) ?_ rfl hrun
    exact fun _ _ _ happ hstep => (App.step_services_iff hstep).2.2.2.trans happ

/-- An apply call that is rejected has disabled the legacy service all the same, and enabled nothing. -/
theorem session_services_rejected :
    ∃ app, Runs.run (App.step sampleLoader)
        ((startedApp ⟨none, none, ∅⟩).mapSystem fun system =>
          { system with scx := ⟨true, true⟩, scxLoader := ⟨false, true⟩ })
        [.call (.apply "scx_none" 0 "") .succeed, .restart ⟨none, none, ∅⟩ none] = some app ∧
      ¬ app.system.scx.enabled = true ∧ ¬ app.system.scx.active = true ∧
        ¬ app.system.scxLoader.enabled = true := by
  have hrun : Runs.run (App.step sampleLoader)
      ((startedApp ⟨none, none, ∅⟩).mapSystem fun system =>
        { system with scx := ⟨true, true⟩, scxLoader := ⟨false, true⟩ })
      [.call (.apply "scx_none" 0 "") .succeed, .restart ⟨none, none, ∅⟩ none] = some _ := rfl
  obtain ⟨henabled, hactive, hscxLoader, -⟩ := session_services hrun
  have hdisables : (Event.call (.apply "scx_none" 0 "") .succeed : Event SampleSched).Disables :=
    ⟨rfl, rfl⟩
  refine ⟨_, hrun, ?_, ?_, ?_⟩
  · rw [henabled]
    exact fun h => h.2 _ List.mem_cons_self hdisables
  · rw [hactive]
    exact fun h => h.2.2 rfl _ List.mem_cons_self hdisables
  · rw [hscxLoader]
    simp [startedApp, App.mapSystem, Event.EnablesLoader, accepted, sampleLoader]

end ScxManager
