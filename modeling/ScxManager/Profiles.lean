import ScxManager.Window

/-!
# Schedulers without profiles

The mode of a call is read from the profile combo box even when that box is hidden. A hidden box
keeps the item it had, so a scheduler without profiles gets the default mode only if the box was at
its first item when the scheduler was selected.
-/

namespace ScxManager.SchedExtWindow

variable {S B : Type}

/-- The scheduler has its profiles offered. -/
def HasProfiles (scheduler : String) : Prop := scheduler ∈ profileScheds

instance (scheduler : String) : Decidable (HasProfiles scheduler) :=
  inferInstanceAs (Decidable (scheduler ∈ profileScheds))

/-- The mode of the selected profile. -/
def selectedMode (w : SchedExtWindow S B) : SchedMode :=
  getScxModeFromStr w.profileCombo.currentText

/-- One event, where the user selects a profile only while the profile combo box is not hidden. -/
def userStep (L : ScxLoader S B) (w : SchedExtWindow S B) (event : WindowEvent) :
    Option (SchedExtWindow S B) :=
  match event with
  | .selectProfile _ => if w.profileCombo.hidden then none else w.step L event
  | _ => w.step L event

/-- A scheduler without profiles is treated with its default behaviour: its slot shows the flags of
the default mode, and applying asks for the default mode. -/
def DefaultWithoutProfiles (L : ScxLoader S B) (w : SchedExtWindow S B) : Prop :=
  ¬ HasProfiles w.schedCombo.currentText →
    (w.onSchedProfileChanged L).flagsEdit =
        joinArgs ((Config.scxFlagsForMode L w.app.config w.schedCombo.currentText .auto).getD []) ∧
      w.applyRequest.schedMode = .auto

/-- That is so exactly if the default mode is selected. -/
theorem defaultWithoutProfiles_iff (L : ScxLoader S B) (w : SchedExtWindow S B) :
    DefaultWithoutProfiles L w ↔
      (¬ HasProfiles w.schedCombo.currentText → w.selectedMode = .auto) := by
  constructor
  · intro h hnot
    exact (h hnot).2
  · intro h hnot
    refine ⟨?_, h hnot⟩
    change joinArgs ((w.selectedFlags L).getD []) = _
    unfold selectedFlags
    rw [show getScxModeFromStr w.profileCombo.currentText = .auto from h hnot]

/-- A scheduler without profiles is only selected while the default mode is. -/
def PicksInDefaultMode (w : SchedExtWindow S B) : WindowEvent → Prop
  | .selectSched i => ∀ scheduler, w.schedCombo.items[i]? = some scheduler →
      ¬ HasProfiles scheduler → w.selectedMode = .auto
  | _ => True

/-- A step a user takes is a step. -/
theorem step_of_userStep {L : ScxLoader S B} {w w' : SchedExtWindow S B} {event : WindowEvent}
    (h : w.userStep L event = some w') :
    w.step L event = some w' ∧ ∀ i, event = .selectProfile i → w.profileCombo.hidden = false := by
  unfold userStep at h
  split at h
  next i =>
    cases hhidden : w.profileCombo.hidden with
    | true =>
      rw [hhidden, if_pos rfl] at h
      cases h
    | false =>
      rw [hhidden, if_neg (by simp)] at h
      exact ⟨h, fun _ _ => rfl⟩
  next hother => exact ⟨h, fun i hi => absurd hi (hother i)⟩

/-- A visible profile combo box means that the selected scheduler has profiles. -/
theorem WellFormed.hasProfiles {w : SchedExtWindow S B} (hw : w.WellFormed)
    (hhidden : w.profileCombo.hidden = false) : HasProfiles w.schedCombo.currentText := by
  have hcontains := hw.profileHidden
  rw [hhidden] at hcontains
  have htrue : profileScheds.contains w.schedCombo.currentText = true := by
    simpa using hcontains.symm
  exact List.contains_iff_mem.mp htrue

/-- One event keeps the default behaviour exactly if it does not select a scheduler without profiles
in another mode. -/
theorem defaultWithoutProfiles_step {L : ScxLoader S B} {w : SchedExtWindow S B}
    (hw : w.WellFormed) (hdefault : DefaultWithoutProfiles L w) (event : WindowEvent) :
    (∀ w', w.userStep L event = some w' → DefaultWithoutProfiles L w') ↔
      w.PicksInDefaultMode event := by
  have hmode := (defaultWithoutProfiles_iff L w).mp hdefault
  constructor
  · intro h
    cases event with
    | selectSched i =>
      intro scheduler hscheduler hnot
      by_cases hi : w.schedCombo.currentIndex = some i
      · have htext : w.schedCombo.currentText = scheduler := by
          simp [ComboBox.currentText, hi, hscheduler]
        exact hmode (by rwa [htext])
      · obtain ⟨hlt, -⟩ := List.getElem?_eq_some_iff.mp hscheduler
        have hstep : w.userStep L (.selectSched i) = some ((w.withSched i).onSchedChanged L) := by
          simp [userStep, step, selectSched, hlt, hi, withSched]
        have hafter := (defaultWithoutProfiles_iff L _).mp (h _ hstep)
        have htext : ((w.withSched i).onSchedChanged L).schedCombo.currentText = scheduler := by
          change (w.schedCombo.items[i]?).getD "" = scheduler
          rw [hscheduler]
          rfl
        exact hafter (by rwa [htext])
    | _ => trivial
  · intro h w' hstep
    obtain ⟨hstep, hvisible⟩ := step_of_userStep hstep
    rw [defaultWithoutProfiles_iff]
    cases step_takes hstep with
    | shown => exact hmode
    | hidden => exact hmode
    | sameSched i hi => exact hmode
    | sched i hi hlt =>
      intro hnot
      change ¬ HasProfiles ((w.schedCombo.items[i]?).getD "") at hnot
      rw [List.getElem?_eq_getElem hlt] at hnot
      exact h w.schedCombo.items[i] (List.getElem?_eq_getElem hlt) hnot
    | sameProfile i hi => exact hmode
    | profile i hi hlt =>
      intro hnot
      exact absurd (hw.hasProfiles (hvisible i rfl)) hnot
    | edited text => exact hmode
    | applied o success app dialogs happly => exact hmode
    | disabled o success app dialogs hdisable => exact hmode

/-- The constructor selects the running mode, whatever scheduler it selects. -/
theorem construct_selectedMode {L : ScxLoader S B} {start : Startup S B} {w : SchedExtWindow S B}
    (h : construct L start = .completed w) : w.selectedMode = start.initialMode := by
  obtain ⟨config, scheds, -, -, rfl⟩ := construct_completed h
  obtain ⟨-, -, -, hprofile⟩ := start.modeSelected_eq L config scheds
  change getScxModeFromStr ((start.modeSelected L config scheds).profileCombo.currentText) = _
  rw [hprofile]
  exact getScxModeFromStr_schedProfiles start.initialMode

/-- Along every run of a window a scheduler without profiles is treated with its default behaviour
throughout exactly if the window starts in the default mode or with a scheduler that has profiles,
and a scheduler without profiles is only selected while the default mode is. -/
theorem defaultWithoutProfiles_run_iff {L : ScxLoader S B} {start : Startup S B}
    {w : SchedExtWindow S B} (h : construct L start = .completed w) (events : List WindowEvent) :
    Runs.AllStates (userStep L) (DefaultWithoutProfiles L) w events ↔
      (¬ HasProfiles w.schedCombo.currentText → start.initialMode = .auto) ∧
        Runs.AllSteps (userStep L) PicksInDefaultMode w events := by
  have hiff : Runs.AllStates (userStep L) (DefaultWithoutProfiles L) w events ↔
      DefaultWithoutProfiles L w ∧ Runs.AllSteps (userStep L) PicksInDefaultMode w events := by
    refine Runs.allStates_iff_allSteps (I := WellFormed) ?_ ?_ (construct_wellFormed h) events
    · intro w event w' hw hstep
      exact wellFormed_step L w event w' hw (step_of_userStep hstep).1
    · intro w event hw hdefault
      exact defaultWithoutProfiles_step hw hdefault event
  rw [hiff, defaultWithoutProfiles_iff, construct_selectedMode h]

/-- A window that starts in the default mode may turn to the scheduler without profiles. -/
theorem rusty_after_bpfland_default :
    ∃ w, construct sampleLoader sampleStart = .completed w ∧
      Runs.AllStates (userStep sampleLoader) (DefaultWithoutProfiles sampleLoader) w
        [.showWindow, .selectSched 1, .edit "-v"] := by
  have hconstruct : construct sampleLoader sampleStart = .completed _ := rfl
  refine ⟨_, hconstruct, (defaultWithoutProfiles_run_iff hconstruct _).mpr ⟨fun _ => rfl, trivial, ?_⟩⟩
  intro w hw
  obtain rfl := Option.some.inj hw
  exact ⟨fun _ _ _ => rfl, fun _ _ => ⟨trivial, fun _ _ => trivial⟩⟩

/-- After gaming mode was selected for the scheduler with profiles, the scheduler without profiles
is applied in gaming mode. -/
theorem rusty_after_bpfland_gaming :
    ∃ w, construct sampleLoader sampleStart = .completed w ∧
      ¬ Runs.AllStates (userStep sampleLoader) (DefaultWithoutProfiles sampleLoader) w
        [.showWindow, .selectProfile 1, .selectSched 1] := by
  refine ⟨_, rfl, ?_⟩
  intro h
  have hdefault := ((h.2 _ rfl).2 _ rfl).2 _ rfl
  have hmode := (hdefault (by decide)).2
  revert hmode
  decide

end ScxManager.SchedExtWindow
