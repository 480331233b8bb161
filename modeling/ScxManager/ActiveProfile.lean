import ScxManager.Profiles

/-!
# The Active Profile section of the card

The section is brought up to date when the selection changes, and then only shown if the profile
combo box can be seen at that moment. Showing or hiding the window changes what can be seen but
runs no slot. So what the section was asked to be depends on whether the window was shown when the
selection last changed, and the constructor runs before the window is shown.
-/

namespace ScxManager.SchedExtWindow

variable {S B : Type}

/-- What the catalog says about the selected profile for the selected scheduler. -/
def selectedProfile (w : SchedExtWindow S B) : ProfileInfo :=
  w.metadata.profile w.profileCombo.currentText w.schedCombo.currentText

/-- The selected scheduler has profiles and the catalog describes the selected one. -/
def HasDescription (w : SchedExtWindow S B) : Prop :=
  HasProfiles w.schedCombo.currentText ∧ w.metadata.isValid = true ∧
    w.selectedProfile.found = true ∧ w.selectedProfile.description ≠ ""

/-- A widget of the card can be seen if it was asked to be shown and the window is. -/
def sectionVisible (w : SchedExtWindow S B) : Bool := w.shown && w.infoPanel.profileSection

def dividerVisible (w : SchedExtWindow S B) : Bool := w.shown && w.infoPanel.divider

/-- While the window can be seen, so can the section and the divider exactly if the selection has a
description, and then they show the selected profile and its description. -/
def SectionFollows (w : SchedExtWindow S B) : Prop :=
  w.shown = true →
    (w.sectionVisible = true ↔ w.HasDescription) ∧ (w.dividerVisible = true ↔ w.HasDescription) ∧
      (w.sectionVisible = true → w.infoPanel.profileName = w.profileCombo.currentText ∧
        w.infoPanel.profileDesc = w.selectedProfile.description)

/-- The section is as it was left by a slot that ran while the window was shown, or was not. -/
structure SectionLeft (w : SchedExtWindow S B) (shown : Bool) : Prop where
  profileSection : w.infoPanel.profileSection = true ↔ shown = true ∧ w.HasDescription
  divider : w.infoPanel.divider = w.infoPanel.profileSection
  texts : w.infoPanel.profileSection = true →
    w.infoPanel.profileName = w.profileCombo.currentText ∧
      w.infoPanel.profileDesc = w.selectedProfile.description

/-- The section follows the selection exactly if the window was shown when the slot ran, where that
matters. -/
theorem SectionLeft.follows_iff {w : SchedExtWindow S B} {shown : Bool} (h : w.SectionLeft shown) :
    w.SectionFollows ↔ (w.shown = true → w.HasDescription → shown = true) := by
  obtain ⟨hsection, hdivider, htexts⟩ := h
  unfold SectionFollows sectionVisible dividerVisible
  constructor
  · intro hfollows hshown hdescription
    obtain ⟨hiff, -, -⟩ := hfollows hshown
    rw [hshown, Bool.true_and] at hiff
    exact (hsection.mp (hiff.mpr hdescription)).1
  · intro hmatters hshown
    rw [hshown, Bool.true_and, Bool.true_and, hdivider, hsection]
    have hiff : shown = true ∧ w.HasDescription ↔ w.HasDescription :=
      ⟨fun h => h.2, fun h => ⟨hmatters hshown h, h⟩⟩
    exact ⟨hiff, hiff, fun h => htexts (hsection.mpr h)⟩

/-- The slot leaves the section as the window is shown or not when it runs. -/
theorem updateProfileSection_left {w : SchedExtWindow S B}
    (hhidden : w.profileCombo.hidden = !profileScheds.contains w.schedCombo.currentText) :
    w.updateProfileSection.SectionLeft w.shown := by
  have hprofiles : (!w.profileCombo.hidden) = true ↔ HasProfiles w.schedCombo.currentText := by
    rw [hhidden, Bool.not_not]
    exact List.contains_iff_mem
  have hvisible : (w.profileComboVisible && w.metadata.isValid && w.selectedProfile.found &&
      !w.selectedProfile.description.isEmpty) = true ↔ w.shown = true ∧ w.HasDescription := by
    unfold profileComboVisible HasDescription
    rw [← hprofiles]
    simp [and_assoc]
  have hpanel : w.updateProfileSection.infoPanel =
      applyProfileInfo w.infoPanel w.profileCombo.currentText w.selectedProfile
        (w.profileComboVisible && w.metadata.isValid && w.selectedProfile.found &&
          !w.selectedProfile.description.isEmpty) := rfl
  by_cases hshows : w.shown = true ∧ w.HasDescription
  · have hfound := hshows.2.2.2.1
    have hdescription := hshows.2.2.2.2
    rw [hvisible.mpr hshows, applyProfileInfo_visible _ _ hfound hdescription] at hpanel
    refine ⟨?_, ?_, fun _ => ?_⟩
    · rw [hpanel]
      exact iff_of_true rfl hshows
    · rw [hpanel]
    · rw [hpanel]
      exact ⟨rfl, rfl⟩
  · have hnot := Bool.eq_false_iff.mpr fun h => hshows (hvisible.mp h)
    rw [hnot, applyProfileInfo_hidden] at hpanel
    refine ⟨?_, ?_, fun h => ?_⟩
    · rw [hpanel]
      exact iff_of_false (by simp) hshows
    · rw [hpanel]
    · rw [hpanel] at h
      cases h

/-- Both slots end with the section. -/
theorem onSchedProfileChanged_left {L : ScxLoader S B} {w : SchedExtWindow S B}
    (hhidden : w.profileCombo.hidden = !profileScheds.contains w.schedCombo.currentText) :
    (w.onSchedProfileChanged L).SectionLeft w.shown :=
  updateProfileSection_left hhidden

theorem onSchedChanged_left (L : ScxLoader S B) (w : SchedExtWindow S B) :
    (w.onSchedChanged L).SectionLeft w.shown :=
  updateProfileSection_left rfl

/-- Whether the window was shown when the selection last changed, given whether it was before. -/
def selectionShown (w : SchedExtWindow S B) (before : Bool) : WindowEvent → Bool
  | .selectSched i => if w.schedCombo.currentIndex = some i then before else w.shown
  | .selectProfile i => if w.profileCombo.currentIndex = some i then before else w.shown
  | _ => before

/-- A hidden window is only shown when there is no description to show, or when it was shown as the
selection last changed. -/
def ShownInSync (st : SchedExtWindow S B × Bool) : WindowEvent → Prop
  | .showWindow => st.1.shown = false → st.1.HasDescription → st.2 = true
  | _ => True

/-- What is known of a window and the record of its last selection. -/
structure Tracked (st : SchedExtWindow S B × Bool) : Prop where
  wellFormed : st.1.WellFormed
  left : st.1.SectionLeft st.2

/-- Every event leaves the section as the record says. -/
theorem tracked_step (L : ScxLoader S B) (st : SchedExtWindow S B × Bool) (event : WindowEvent)
    (st' : SchedExtWindow S B × Bool) (h : Tracked st)
    (hstep : Runs.recorded (step L) selectionShown st event = some st') : Tracked st' := by
  obtain ⟨w, before⟩ := st
  obtain ⟨w', hw', rfl⟩ := Option.map_eq_some_iff.mp hstep
  obtain ⟨hwell, hleft⟩ := h
  obtain ⟨hsection, hdivider, htexts⟩ := hleft
  refine ⟨wellFormed_step L w event w' hwell hw', ?_⟩
  cases step_takes hw' with
  | shown => exact ⟨hsection, hdivider, htexts⟩
  | hidden => exact ⟨hsection, hdivider, htexts⟩
  | sameSched i hi =>
    simp only [selectionShown, if_pos hi]
    exact ⟨hsection, hdivider, htexts⟩
  | sched i hi hlt =>
    simp only [selectionShown, if_neg hi]
    exact onSchedChanged_left L (w.withSched i)
  | sameProfile i hi =>
    simp only [selectionShown, if_pos hi]
    exact ⟨hsection, hdivider, htexts⟩
  | profile i hi hlt =>
    simp only [selectionShown, if_neg hi]
    exact onSchedProfileChanged_left hwell.profileHidden
  | edited text => exact ⟨hsection, hdivider, htexts⟩
  | applied o success app dialogs happly => exact ⟨hsection, hdivider, htexts⟩
  | disabled o success app dialogs hdisable => exact ⟨hsection, hdivider, htexts⟩

/-- One event keeps the section with the selection exactly if it does not show the window with a
section that was left hidden. -/
theorem sectionFollows_step {L : ScxLoader S B} {st : SchedExtWindow S B × Bool} (h : Tracked st)
    (hfollows : st.1.SectionFollows) (event : WindowEvent) :
    (∀ st', Runs.recorded (step L) selectionShown st event = some st' → st'.1.SectionFollows) ↔
      ShownInSync st event := by
  obtain ⟨w, before⟩ := st
  have hmatters := h.left.follows_iff.mp hfollows
  constructor
  · intro hafter
    cases event with
    | showWindow =>
      intro _ hdescription
      have htracked := tracked_step L (w, before) .showWindow _ h rfl
      exact htracked.left.follows_iff.mp (hafter _ rfl) rfl hdescription
    | _ => trivial
  · intro hsync st' hstep
    have htracked := tracked_step L (w, before) event st' h hstep
    rw [htracked.left.follows_iff]
    obtain ⟨w', hw', rfl⟩ := Option.map_eq_some_iff.mp hstep
    cases step_takes hw' with
    | shown =>
      intro _ hdescription
      cases hshown : w.shown with
      | true => exact hmatters hshown hdescription
      | false => exact hsync hshown hdescription
    | hidden => exact fun hshown => by cases hshown
    | sameSched i hi => simpa only [selectionShown, if_pos hi] using hmatters
    | sched i hi hlt =>
      intro hshown _
      change w.shown = true at hshown
      simpa only [selectionShown, if_neg hi] using hshown
    | sameProfile i hi => simpa only [selectionShown, if_pos hi] using hmatters
    | profile i hi hlt =>
      intro hshown _
      change w.shown = true at hshown
      simpa only [selectionShown, if_neg hi] using hshown
    | edited text => exact hmatters
    | applied o success app dialogs happly => exact hmatters
    | disabled o success app dialogs hdisable => exact hmatters

/-- A window is constructed before it is shown. -/
theorem construct_tracked {L : ScxLoader S B} {start : Startup S B} {w : SchedExtWindow S B}
    (h : construct L start = .completed w) : w.shown = false ∧ Tracked (w, false) := by
  have hwell := construct_wellFormed h
  obtain ⟨config, scheds, -, -, rfl⟩ := construct_completed h
  obtain ⟨-, hshown, -, -⟩ := start.modeSelected_eq L config scheds
  have hleft := onSchedChanged_left L (start.modeSelected L config scheds)
  rw [hshown] at hleft
  exact ⟨hshown, hwell, hleft⟩

/-- Along every run of a window the section follows the selection throughout exactly if a hidden
window is only shown when the selection has no description, or when it was shown as the selection
last changed; the constructor counts as a selection while the window is hidden. -/
theorem sectionFollows_run_iff {L : ScxLoader S B} {start : Startup S B} {w : SchedExtWindow S B}
    (h : construct L start = .completed w) (events : List WindowEvent) :
    Runs.AllStates (step L) SectionFollows w events ↔
      Runs.AllSteps (Runs.recorded (step L) selectionShown) ShownInSync (w, false) events := by
  obtain ⟨hshown, htracked⟩ := construct_tracked h
  have hfollows : w.SectionFollows := by
    intro h
    rw [hshown] at h
    cases h
  have hiff : Runs.AllStates (Runs.recorded (step L) selectionShown) (fun st => st.1.SectionFollows)
      (w, false) events ↔ w.SectionFollows ∧
        Runs.AllSteps (Runs.recorded (step L) selectionShown) ShownInSync (w, false) events := by
    refine Runs.allStates_iff_allSteps (I := Tracked) (tracked_step L) ?_ htracked events
    intro st event hst hfollows
    exact sectionFollows_step hst hfollows event
  rw [← Runs.allStates_recorded (step L) selectionShown SectionFollows w false events, hiff,
    and_iff_right hfollows]

/-- A selection made while the window is shown survives hiding and showing it again. -/
theorem section_after_reselection :
    ∃ w, construct sampleLoader sampleStart = .completed w ∧
      Runs.AllStates (step sampleLoader) SectionFollows w
        [.selectSched 1, .showWindow, .selectSched 0, .hideWindow, .showWindow] := by
  have hconstruct : construct sampleLoader sampleStart = .completed _ := rfl
  refine ⟨_, hconstruct, (sectionFollows_run_iff hconstruct _).mpr ⟨trivial, ?_⟩⟩
  intro st₁ h₁
  obtain rfl := Option.some.inj h₁
  refine ⟨fun _ hdescription => absurd hdescription.1 (by decide), ?_⟩
  intro st₂ h₂
  obtain rfl := Option.some.inj h₂
  refine ⟨trivial, ?_⟩
  intro st₃ h₃
  obtain rfl := Option.some.inj h₃
  refine ⟨trivial, ?_⟩
  intro st₄ h₄
  obtain rfl := Option.some.inj h₄
  exact ⟨fun _ _ => rfl, fun _ _ => trivial⟩

/-- The window is shown for the first time, with a described profile selected: nothing of the
section can be seen. -/
theorem section_missing_at_first :
    ∃ w, construct sampleLoader sampleStart = .completed w ∧
      ¬ Runs.AllStates (step sampleLoader) SectionFollows w [.showWindow] := by
  refine ⟨_, rfl, ?_⟩
  intro h
  obtain ⟨hsection, -, -⟩ := (h.2 _ rfl) rfl
  have hvisible := hsection.mpr ⟨by decide, rfl, by decide, by decide⟩
  revert hvisible
  decide

end ScxManager.SchedExtWindow
