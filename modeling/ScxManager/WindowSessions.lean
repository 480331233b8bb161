import ScxManager.FlagsField
import ScxManager.StaleFlags

/-!
# The session behind a window

Whatever is done at a window, its app instance goes through a session: one call for each press of a
button, with the arguments the widgets hold at that moment. So what holds of every session holds of the
instance of every window, and the calls of a window are of a special kind. Its modes are always valid,
and its flags have no white space at their ends, so a list that was applied once is read back from the
text it is shown as from then on.
-/

namespace ScxManager

variable {S B : Type}

/-- A call that comes back through its wrapper is a step of a session. -/
theorem App.step_of_wrapped {L : ScxLoader S B} (call : Call) {o : Outcomes} {app app' : App S B}
    {success : Bool} (h : wrapped (call.action L o) app = some (success, app')) :
    app.step L (.call call o) = some app' := by
  obtain ⟨hstate, hcaught⟩ := wrapped_eq_some h
  unfold App.step
  dsimp only
  rcases hended : (call.action L o).run app with ⟨outcome, state, log⟩
  rw [hended] at hstate hcaught
  cases outcome with
  | panic message => cases hcaught
  | ok value => exact congrArg some hstate
  | err error => exact congrArg some hstate

/-- The call is one that a window with these schedulers may make. -/
def Event.FromWindow (scheds : List String) : Event S → Prop
  | .call (.apply scxName scxMode extraFlags) _ =>
    (scxName ∈ scheds ∨ scxName = "") ∧ (∃ mode : SchedMode, scxMode = mode.toRaw) ∧
      trimmed extraFlags = extraFlags
  | .call .disable _ => True
  | .restart _ _ => False

/-- Arguments built from a trimmed text are read back. -/
theorem readBackArgs_schedArgsOf {extraFlags : String} (h : trimmed extraFlags = extraFlags) :
    ReadBackArgs (schedArgsOf extraFlags) := by
  rw [← schedArgsOf_trimmed_joinArgs_iff, joinArgs_schedArgsOf, h]

/-- The arguments of a scheduler and mode are read back from their text. -/
def ReadsBack (L : ScxLoader S B) (p : S × SchedMode) (app : App S B) : Prop :=
  ReadBackArgs (L.getScxFlagsForMode app.config p.1 p.2)

/-- After a call of a window the arguments of a scheduler and mode are read back if they were before,
or if the call applied them. -/
theorem readsBack_step {L : ScxLoader S B} {scheds : List String} {app app' : App S B}
    {event : Event S} (p : S × SchedMode) (hwindow : event.FromWindow scheds)
    (h : app.step L event = some app') :
    ReadsBack L p app' ↔ ReadsBack L p app ∨ event.Applies L p := by
  classical
  unfold ReadsBack
  cases event with
  | restart fallback running => exact hwindow.elim
  | call call o =>
    rw [(App.step_call h).memory]
    cases call with
    | disable =>
      have hflags : L.getScxFlagsForMode (Call.disable.memory L app.config) p.1 p.2 =
          L.getScxFlagsForMode app.config p.1 p.2 := getScxFlagsForMode_congr rfl
      rw [hflags]
      exact (or_iff_left fun h => h).symm
    | apply scxName scxMode extraFlags =>
      obtain ⟨-, -, htrimmed⟩ := hwindow
      unfold Call.memory
      dsimp only
      cases haccepted : accepted L scxName scxMode with
      | none =>
        refine (or_iff_left fun happlies => ?_).symm
        cases haccepted.symm.trans happlies
      | some pair =>
        dsimp only
        rw [getScxFlagsForMode_applied]
        by_cases hsame : p = pair
        · subst hsame
          rw [if_pos ⟨rfl, rfl⟩]
          exact iff_of_true (readBackArgs_schedArgsOf htrimmed) (.inr haccepted)
        · rw [if_neg fun hpair => hsame (Prod.ext hpair.1 hpair.2)]
          refine (or_iff_left fun happlies => ?_).symm
          exact hsame (Option.some.inj (happlies.symm.trans haccepted))

/-- After a session of a window the arguments of a scheduler and mode are read back if they were at
first, or if they were applied. -/
theorem readsBack_session {L : ScxLoader S B} {scheds : List String} {app app' : App S B}
    {events : List (Event S)} (p : S × SchedMode) (hwindow : ∀ e ∈ events, e.FromWindow scheds)
    (hrun : Runs.run (App.step L) app events = some app') :
    ReadsBack L p app' ↔ ReadsBack L p app ∨ ∃ e ∈ events, e.Applies L p := by
  induction events generalizing app with
  | nil =>
    obtain rfl : app = app' := Option.some.inj hrun
    simp
  | cons event rest ih =>
    obtain ⟨app₁, hstep, hrest⟩ := Runs.run_cons_eq_some.mp hrun
    rw [List.forall_mem_cons] at hwindow
    rw [ih hwindow.2 hrest, readsBack_step p hwindow.1 hstep, or_assoc]
    simp

namespace SchedExtWindow

/-- The calls an event at a window makes. -/
def calls (w : SchedExtWindow S B) : WindowEvent → List (Event S)
  | .apply o =>
    [.call (.apply w.applyRequest.scxSched w.applyRequest.schedMode.toRaw w.applyRequest.extraFlags) o]
  | .disable o => [.call .disable o]
  | _ => []

/-- An event takes the app instance through the calls it makes. -/
theorem step_session {L : ScxLoader S B} {w w' : SchedExtWindow S B} {event : WindowEvent}
    (h : w.step L event = some w') : Runs.run (App.step L) w.app (w.calls event) = some w'.app := by
  cases step_takes h with
  | shown => rfl
  | hidden => rfl
  | sameSched i hi => rfl
  | sched i hi hlt => rfl
  | sameProfile i hi => rfl
  | profile i hi hlt => rfl
  | edited text => rfl
  | applied o success app dialogs happly =>
    have hstep := App.step_of_wrapped (.apply w.applyRequest.scxSched w.applyRequest.schedMode.toRaw
      w.applyRequest.extraFlags) happly
    exact Runs.run_cons_eq_some.mpr ⟨app, hstep, rfl⟩
  | disabled o success app dialogs hdisable =>
    exact Runs.run_cons_eq_some.mpr ⟨app, App.step_of_wrapped .disable hdisable, rfl⟩

/-- The current text of a combo box is one of its items, or empty. -/
theorem currentText_mem (box : ComboBox) : box.currentText ∈ box.items ∨ box.currentText = "" := by
  unfold ComboBox.currentText
  cases hitem : box.currentIndex.bind fun i => box.items[i]? with
  | none => exact .inr rfl
  | some text =>
    obtain ⟨i, -, hi⟩ := Option.bind_eq_some_iff.mp hitem
    exact .inl (List.mem_of_getElem? hi)

/-- The calls of a window are such. -/
theorem calls_fromWindow (w : SchedExtWindow S B) (event : WindowEvent) :
    ∀ e ∈ w.calls event, e.FromWindow w.schedCombo.items := by
  intro e he
  cases event with
  | apply o =>
    obtain rfl := List.mem_singleton.mp he
    exact ⟨currentText_mem w.schedCombo, ⟨w.applyRequest.schedMode, rfl⟩,
      trimmed_trimmed w.flagsEdit⟩
  | disable o =>
    obtain rfl := List.mem_singleton.mp he
    exact trivial
  | _ => cases he

/-- No event changes the schedulers that are offered. -/
theorem step_schedItems {L : ScxLoader S B} {w w' : SchedExtWindow S B} {event : WindowEvent}
    (h : w.step L event = some w') : w'.schedCombo.items = w.schedCombo.items := by
  cases step_takes h with
  | _ => rfl

/-- The calls a window has made so far. -/
def recordCalls (w : SchedExtWindow S B) (trace : List (Event S)) (event : WindowEvent) :
    List (Event S) := trace ++ w.calls event

/-- The calls of a whole run are such. -/
theorem trace_fromWindow {L : ScxLoader S B} {w₀ w : SchedExtWindow S B} {events : List WindowEvent}
    {trace : List (Event S)}
    (hrun : Runs.run (Runs.recorded (step L) recordCalls) (w₀, []) events = some (w, trace)) :
    ∀ e ∈ trace, e.FromWindow w₀.schedCombo.items := by
  have hstart : w₀.schedCombo.items = w₀.schedCombo.items ∧
      ∀ e ∈ ([] : List (Event S)), e.FromWindow w₀.schedCombo.items :=
    ⟨rfl, List.forall_mem_nil _⟩
  refine (Runs.run_invariant (I := fun st : SchedExtWindow S B × List (Event S) =>
    st.1.schedCombo.items = w₀.schedCombo.items ∧
      ∀ e ∈ st.2, e.FromWindow w₀.schedCombo.items) ?_ hstart hrun).2
  intro st event st' hst hst'
  obtain ⟨hitems, htrace⟩ := hst
  obtain ⟨w', hw', rfl⟩ := Option.map_eq_some_iff.mp hst'
  refine ⟨(step_schedItems hw').trans hitems, fun e he => ?_⟩
  obtain he | he := List.mem_append.mp he
  · exact htrace e he
  · rw [← hitems]
    exact calls_fromWindow st.1 event e he

/-- The app instance of a constructed window holds what is stored, on the system as it was found. -/
theorem construct_app {L : ScxLoader S B} {start : Startup S B} {w : SchedExtWindow S B}
    (h : construct L start = .completed w) : Coherent L w.app ∧ w.app.system = start.system := by
  obtain ⟨config, scheds, hconfig, -, rfl⟩ := construct_completed h
  obtain ⟨happ, -, -, -⟩ := start.modeSelected_eq L config scheds
  change Coherent L (start.modeSelected L config scheds).app ∧
    (start.modeSelected L config scheds).app.system = start.system
  rw [happ]
  exact ⟨Config.initConfig_eq_some.mp hconfig, rfl⟩

/-- Every run of a window takes its app instance through a session that starts with memory and file in
agreement on the system as it was found, of disable calls, and of apply calls for an offered scheduler
(or none), with a valid mode and with flags trimmed of white space. -/
theorem window_session {L : ScxLoader S B} {start : Startup S B} {w₀ w : SchedExtWindow S B}
    (h : construct L start = .completed w₀) {events : List WindowEvent} {trace : List (Event S)}
    (hrun : Runs.run (Runs.recorded (step L) recordCalls) (w₀, []) events = some (w, trace)) :
    (Coherent L w₀.app ∧ w₀.app.system = start.system) ∧
      Runs.run (App.step L) w₀.app trace = some w.app ∧
        ∀ e ∈ trace, e.FromWindow w₀.schedCombo.items := by
  refine ⟨construct_app h, ?_, trace_fromWindow hrun⟩
  exact Runs.run_projects (f := SchedExtWindow.app) (fun _ _ _ => step_session) hrun

/-- Flags are typed with blanks around them and applied, and then the scheduler is disabled. -/
theorem window_session_rusty :
    ∃ w, Runs.run (Runs.recorded (step sampleLoader) recordCalls) (sampleWindow, [])
        [.selectSched 1, .edit " -v ", .apply .succeed, .disable .succeed] =
          some (w, [.call (.apply "scx_rusty" 0 "-v") .succeed, .call .disable .succeed]) ∧
      Runs.run (App.step sampleLoader) sampleWindow.app
        [.call (.apply "scx_rusty" 0 "-v") .succeed, .call .disable .succeed] = some w.app := by
  have hconstruct : construct sampleLoader sampleStart = .completed sampleWindow := rfl
  have hrun : Runs.run (Runs.recorded (step sampleLoader) recordCalls) (sampleWindow, [])
      [.selectSched 1, .edit " -v ", .apply .succeed, .disable .succeed] =
        some (_, [.call (.apply "scx_rusty" 0 "-v") .succeed, .call .disable .succeed]) := rfl
  exact ⟨_, hrun, (window_session hconstruct hrun).2.1⟩

/-- In every run of a window, where since the selection was made the field was not edited and nothing was
applied, applying asks for the arguments the configuration resolves exactly if these were read back at the
start of the run or the same scheduler and mode were applied in it before. -/
theorem unedited_switchesByMode_iff {L : ScxLoader S B} {w₀ w : SchedExtWindow S B}
    {events : List WindowEvent} {trace : List (Event S)} {sched : S}
    (hrun : Runs.run (Runs.recorded (step L) recordCalls) (w₀, []) events = some (w, trace))
    (hw : w.Unedited L) (hparse : L.parse w.schedCombo.currentText = .ok sched) :
    SwitchesByMode L sched w.applyRequest.schedMode (schedArgsOf w.applyRequest.extraFlags)
        w.app.config ↔
      ReadsBack L (sched, w.applyRequest.schedMode) w₀.app ∨
        ∃ e ∈ trace, e.Applies L (sched, w.applyRequest.schedMode) := by
  have hsession : Runs.run (App.step L) w₀.app trace = some w.app :=
    Runs.run_projects (f := SchedExtWindow.app) (fun _ _ _ => step_session) hrun
  rw [← readsBack_session _ (trace_fromWindow hrun) hsession]
  have hshows := hw.shows
  unfold Shows at hshows
  rw [selectedFlags_eq, selection_of_parse hparse, Option.map_some, Option.getD_some] at hshows
  unfold ReadsBack
  rw [← schedArgsOf_trimmed_joinArgs_iff, ← hshows]
  rfl

/-- Flags that were applied are shown when their scheduler is selected again, and applying them changes
nothing. -/
theorem unedited_switchesByMode_rusty :
    ∃ w trace, Runs.run (Runs.recorded (step sampleLoader) recordCalls) (sampleWindow, [])
        [.selectSched 1, .edit " -v ", .apply .succeed, .selectSched 0, .selectSched 1] =
          some (w, trace) ∧
      SwitchesByMode sampleLoader .rusty w.applyRequest.schedMode
        (schedArgsOf w.applyRequest.extraFlags) w.app.config := by
  have hwindow : Runs.run (step sampleLoader) sampleWindow
      ([.selectSched 1, .edit " -v ", .apply .succeed, .selectSched 0] ++ [.selectSched 1]) =
        some _ := rfl
  obtain ⟨w₁, hbefore, hlast⟩ := Runs.run_append_eq_some.mp hwindow
  obtain ⟨w₂, hselect, hend⟩ := Runs.run_cons_eq_some.mp hlast
  obtain rfl := Option.some.inj hbefore
  obtain rfl := Option.some.inj hend
  have hselected := Unedited.selected (L := sampleLoader) rfl hselect
  have hrun : Runs.run (Runs.recorded (step sampleLoader) recordCalls) (sampleWindow, [])
      [.selectSched 1, .edit " -v ", .apply .succeed, .selectSched 0, .selectSched 1] =
        some (_, [.call (.apply "scx_rusty" 0 "-v") .succeed]) := rfl
  refine ⟨_, _, hrun, (unedited_switchesByMode_iff hrun hselected rfl).mpr (.inr ?_)⟩
  exact ⟨_, List.mem_singleton.mpr rfl, rfl⟩

end SchedExtWindow

end ScxManager
