import ScxManager.FlagsField

/-!
# What the controls depend on

The combo boxes, the flags field and the configuration in memory form a machine of their own, driven by
what the user does. Nothing flows into it from outside: not whether a call succeeded, not what the
daemon or the services do, not the catalog, and not whether the window is shown. So the same input leads
to the same controls and to the same requests on every system.
-/

namespace ScxManager

variable {S B : Type}

/-- The controls of a window and the configuration they are filled from. -/
structure Desk (S : Type) where
  schedCombo : ComboBox
  profileCombo : ComboBox
  flagsEdit : String
  config : Config S

/-- What the user does at the controls. -/
inductive Input where
  | selectSched (i : ℕ)
  | selectProfile (i : ℕ)
  | edit (text : String)
  | apply
  | disable

/-- The input of an event, without the outcomes of its external steps. -/
def WindowEvent.input : WindowEvent → Option Input
  | .showWindow => none
  | .hideWindow => none
  | .selectSched i => some (.selectSched i)
  | .selectProfile i => some (.selectProfile i)
  | .edit text => some (.edit text)
  | .apply _ => some .apply
  | .disable _ => some .disable

namespace Desk

/-- Fill the flags field for the selection. -/
def refill (L : ScxLoader S B) (desk : Desk S) : Desk S :=
  { desk with flagsEdit := joinArgs ((Config.scxFlagsForMode L desk.config desk.schedCombo.currentText
      (getScxModeFromStr desk.profileCombo.currentText)).getD []) }

/-- Offer profiles to the selected scheduler if it has some, and fill the flags field. -/
def schedChanged (L : ScxLoader S B) (desk : Desk S) : Desk S :=
  refill L { desk with profileCombo :=
    { desk.profileCombo with hidden := !profileScheds.contains desk.schedCombo.currentText } }

/-- The call that applies the selection. -/
def applyCall (desk : Desk S) : Call :=
  .apply desk.schedCombo.currentText (getScxModeFromStr desk.profileCombo.currentText).toRaw
    (trimmed desk.flagsEdit)

/-- What an input makes of the controls. -/
def step (L : ScxLoader S B) (desk : Desk S) : Input → Desk S
  | .selectSched i =>
    if desk.schedCombo.currentIndex = some i then desk
    else schedChanged L { desk with schedCombo := { desk.schedCombo with currentIndex := some i } }
  | .selectProfile i =>
    if desk.profileCombo.currentIndex = some i then desk
    else refill L { desk with profileCombo := { desk.profileCombo with currentIndex := some i } }
  | .edit text => { desk with flagsEdit := text }
  | .apply => { desk with config := desk.applyCall.memory L desk.config }
  | .disable => { desk with config := disabled desk.config }

end Desk

namespace SchedExtWindow

/-- The controls of a window. -/
def desk (w : SchedExtWindow S B) : Desk S :=
  ⟨w.schedCombo, w.profileCombo, w.flagsEdit, w.app.config⟩

/-- The slots act on the controls alone. -/
theorem desk_onSchedChanged (L : ScxLoader S B) (w : SchedExtWindow S B) :
    (w.onSchedChanged L).desk = w.desk.schedChanged L := rfl

/-- An event acts on the controls as its input does, if it has one. -/
theorem desk_step {L : ScxLoader S B} {w w' : SchedExtWindow S B} {event : WindowEvent}
    (h : w.step L event = some w') :
    w'.desk = (event.input.map (w.desk.step L)).getD w.desk := by
  have hsame {box : ComboBox} {i : ℕ} {desk desk' : Desk S} (hi : box.currentIndex = some i) :
      desk = if box.currentIndex = some i then desk else desk' := (if_pos hi).symm
  have hother {box : ComboBox} {i : ℕ} {desk desk' : Desk S} (hi : box.currentIndex ≠ some i) :
      desk' = if box.currentIndex = some i then desk else desk' := (if_neg hi).symm
  cases step_takes h with
  | shown => rfl
  | hidden => rfl
  | sameSched i hi => exact hsame hi
  | sched i hi hlt => exact hother hi
  | sameProfile i hi => exact hsame hi
  | profile i hi hlt => exact hother hi
  | edited text => rfl
  | applied o success app dialogs happly =>
    have hmemory : app.config = w.desk.applyCall.memory L w.app.config := config_applied happly
    change (⟨w.schedCombo, w.profileCombo, w.flagsEdit, app.config⟩ : Desk S) = _
    rw [hmemory]
    rfl
  | disabled o success app dialogs hdisable =>
    have hmemory : app.config = Call.disable.memory L w.app.config := memory_of_wrapped hdisable
    change (⟨w.schedCombo, w.profileCombo, w.flagsEdit, app.config⟩ : Desk S) = _
    rw [hmemory]
    rfl

/-- A run acts on the controls as its inputs do. -/
theorem desk_run {L : ScxLoader S B} {w w' : SchedExtWindow S B} {events : List WindowEvent}
    (hrun : Runs.run (step L) w events = some w') :
    w'.desk = (events.filterMap WindowEvent.input).foldl (Desk.step L) w.desk := by
  rw [List.foldl_filterMap]
  refine Runs.run_simulates (R := fun w desk => w.desk = desk) ?_ rfl hrun
  intro w desk event w' hdesk hstep
  rw [desk_step hstep, hdesk]
  cases event.input with
  | none => rfl
  | some input => rfl

/-- The controls of a constructed window are made from the stored configuration, the schedulers that are
offered, and the running scheduler and mode. -/
theorem construct_desk {L : ScxLoader S B} {start : Startup S B} {w : SchedExtWindow S B}
    (h : construct L start = .completed w) :
    ∃ config scheds, Config.initConfig L start.system.configFile = some config ∧
      start.supportedScheds = some scheds ∧
      w.desk = Desk.schedChanged L
        ⟨(start.filled config scheds).schedCombo,
          ⟨schedProfiles, some start.initialMode.toRaw.toNat, false⟩, "", config⟩ := by
  obtain ⟨config, scheds, hconfig, hscheds, rfl⟩ := construct_completed h
  obtain ⟨happ, -, hsched, hprofile⟩ := start.modeSelected_eq L config scheds
  refine ⟨config, scheds, hconfig, hscheds, ?_⟩
  rw [desk_onSchedChanged]
  unfold desk
  rw [hsched, hprofile, happ]
  rfl

/-- Two windows whose constructors find the same stored configuration, schedulers and running scheduler
and mode have the same controls after all runs with the same inputs, ask for the same and resolve the
same flags, although everything else around them may differ: outcomes, services, daemons, catalogs, and
whether they are shown. -/
theorem desks_agree {L : ScxLoader S B} {start start' : Startup S B} {w₀ w₀' w w' : SchedExtWindow S B}
    {events events' : List WindowEvent} (h : construct L start = .completed w₀)
    (h' : construct L start' = .completed w₀')
    (hfile : start.system.configFile = start'.system.configFile)
    (hscheds : start.supportedScheds = start'.supportedScheds)
    (hsched : start.currentSched = start'.currentSched)
    (hmode : start.initialMode = start'.initialMode)
    (hinputs : events.filterMap WindowEvent.input = events'.filterMap WindowEvent.input)
    (hrun : Runs.run (step L) w₀ events = some w) (hrun' : Runs.run (step L) w₀' events' = some w') :
    w.desk = w'.desk ∧ w.applyRequest = w'.applyRequest ∧ w.selectedFlags L = w'.selectedFlags L := by
  obtain ⟨config, scheds, hconfig, hsome, hdesk⟩ := construct_desk h
  obtain ⟨config', scheds', hconfig', hsome', hdesk'⟩ := construct_desk h'
  obtain rfl : config = config' := by
    rw [hfile, hconfig'] at hconfig
    exact (Option.some.inj hconfig).symm
  obtain rfl : scheds = scheds' := by
    rw [hscheds, hsome'] at hsome
    exact (Option.some.inj hsome).symm
  have hcombo : (start.filled config scheds).schedCombo = (start'.filled config scheds).schedCombo := by
    unfold Startup.filled
    dsimp only
    rw [hsched]
  have hstart : w₀.desk = w₀'.desk := by
    rw [hdesk, hdesk', hcombo, hmode]
  have hend : w.desk = w'.desk := by
    rw [desk_run hrun, desk_run hrun', hstart, hinputs]
  have hrequest {v : SchedExtWindow S B} : v.applyRequest =
      ⟨v.desk.schedCombo.currentText, getScxModeFromStr v.desk.profileCombo.currentText,
        trimmed v.desk.flagsEdit⟩ := rfl
  have hflags {v : SchedExtWindow S B} : v.selectedFlags L =
      Config.scxFlagsForMode L v.desk.config v.desk.schedCombo.currentText
        (getScxModeFromStr v.desk.profileCombo.currentText) := rfl
  refine ⟨hend, ?_, ?_⟩
  · rw [hrequest, hrequest, hend]
  · rw [hflags, hflags, hend]

/-- The sample start without a catalog. -/
def bareStart : Startup SampleSched (Config SampleSched) :=
  { sampleStart with metadata := ⟨false, ∅, ∅⟩ }

/-- The window that is constructed then. -/
def bareWindow : SchedExtWindow SampleSched (Config SampleSched) :=
  (bareStart.modeSelected sampleLoader ⟨none, none, ∅⟩ ["scx_bpfland", "scx_rusty"]).onSchedChanged
    sampleLoader

/-- One window has a catalog and its copy is accepted; the other one has none, is shown, and its copy is
denied. -/
theorem desks_agree_denied :
    ∃ w w', Runs.run (step sampleLoader) sampleWindow
        [.edit "-m", .apply .succeed, .selectSched 1] = some w ∧
      Runs.run (step sampleLoader) bareWindow
        [.showWindow, .edit "-m", .apply .copyDenied, .selectSched 1] = some w' ∧
      w.desk = w'.desk := by
  have hconstruct : construct sampleLoader sampleStart = .completed sampleWindow := rfl
  have hconstruct' : construct sampleLoader bareStart = .completed bareWindow := rfl
  have hrun : Runs.run (step sampleLoader) sampleWindow
      [.edit "-m", .apply .succeed, .selectSched 1] = some _ := rfl
  have hrun' : Runs.run (step sampleLoader) bareWindow
      [.showWindow, .edit "-m", .apply .copyDenied, .selectSched 1] = some _ := rfl
  have hinputs : [.edit "-m", .apply .succeed, .selectSched 1].filterMap WindowEvent.input =
      [.showWindow, .edit "-m", .apply .copyDenied, .selectSched 1].filterMap WindowEvent.input := rfl
  exact ⟨_, _, hrun, hrun',
    (desks_agree hconstruct hconstruct' rfl rfl rfl rfl hinputs hrun hrun').1⟩

end SchedExtWindow

end ScxManager
