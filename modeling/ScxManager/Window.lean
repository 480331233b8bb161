import ScxManager.Flags
import ScxManager.InfoPanel
import ScxManager.Sessions

/-!
# The window

The window holds an app instance, the two combo boxes, the flags field and the card. A widget can
be seen if it is not hidden and the window is shown, so slots that ask whether the profile combo
box is visible get different answers before and after the window is shown. Slots run when an index
changes, and not when the window is shown or hidden.
-/

namespace ScxManager

variable {S B : Type}

/-- A combo box that cannot be edited; without items it has no current index. -/
structure ComboBox where
  items : List String
  currentIndex : Option ℕ
  hidden : Bool
  deriving DecidableEq

/-- A combo box as it comes from the form. -/
def ComboBox.empty : ComboBox := ⟨[], none, false⟩

/-- The text of the current item, empty if there is none. -/
def ComboBox.currentText (box : ComboBox) : String :=
  (box.currentIndex.bind fun i => box.items[i]?).getD ""

/-- Append items; the first item of an empty box becomes current. -/
def ComboBox.addItems (box : ComboBox) (texts : List String) : ComboBox :=
  { box with
    items := box.items ++ texts
    currentIndex := if box.items = [] ∧ texts ≠ [] then some 0 else box.currentIndex }

/-- Make the first item with this text current, if there is one. -/
def ComboBox.setCurrentText (box : ComboBox) (text : String) : ComboBox :=
  { box with currentIndex := (box.items.idxOf? text).or box.currentIndex }

def getScxModeFromStr (scxMode : String) : SchedMode :=
  if scxMode = "Gaming" then .gaming
  else if scxMode = "Lowlatency" then .lowLatency
  else if scxMode = "Powersave" then .powerSave
  else if scxMode = "Server" then .server
  else .auto

/-- The items of the profile combo box, in the order of the raw modes. -/
def schedProfiles : List String := ["Auto", "Gaming", "Powersave", "Lowlatency", "Server"]

/-- The schedulers the profile combo box is shown for. -/
def profileScheds : List String :=
  ["scx_bpfland", "scx_lavd", "scx_p2dq", "scx_tickless", "scx_cosmos"]

/-- The arguments of a call that applies a change. -/
structure ApplyRequest where
  scxSched : String
  schedMode : SchedMode
  extraFlags : String
  deriving DecidableEq

/-- The state of the window and of the app instance it holds, with the messages it has shown. -/
structure SchedExtWindow (S B : Type) where
  app : App S B
  schedCombo : ComboBox
  profileCombo : ComboBox
  flagsEdit : String
  metadata : SchedulerMetadata
  infoPanel : InfoPanel
  shown : Bool
  dialogs : List String

namespace SchedExtWindow

/-- Whether the profile combo box can be seen. -/
def profileComboVisible (w : SchedExtWindow S B) : Bool := w.shown && !w.profileCombo.hidden

def updateProfileSection (w : SchedExtWindow S B) : SchedExtWindow S B :=
  let comboVisible := w.profileComboVisible
  let profileName := w.profileCombo.currentText
  let info := w.metadata.profile profileName w.schedCombo.currentText
  let visible := comboVisible && w.metadata.isValid && info.found && !info.description.isEmpty
  { w with infoPanel := applyProfileInfo w.infoPanel profileName info visible }

def updateInfoPanel (w : SchedExtWindow S B) : SchedExtWindow S B :=
  let info := w.metadata.scheduler w.schedCombo.currentText
  updateProfileSection
    { w with infoPanel := applySchedulerInfo w.infoPanel info (w.metadata.isValid && info.found) }

/-- The arguments of the selected scheduler and profile, if the lookup succeeds. -/
def selectedFlags (L : ScxLoader S B) (w : SchedExtWindow S B) : Option (List String) :=
  Config.scxFlagsForMode L w.app.config w.schedCombo.currentText
    (getScxModeFromStr w.profileCombo.currentText)

def onSchedProfileChanged (L : ScxLoader S B) (w : SchedExtWindow S B) : SchedExtWindow S B :=
  let flags := w.selectedFlags L
  updateProfileSection
    { w with
      flagsEdit := joinArgs (flags.getD [])
      dialogs := if flags.isNone then
          w.dialogs ++ ["Cannot get scx flags from scx_loader configuration!"]
        else w.dialogs }

def onSchedChanged (L : ScxLoader S B) (w : SchedExtWindow S B) : SchedExtWindow S B :=
  let hidden := !profileScheds.contains w.schedCombo.currentText
  updateInfoPanel (onSchedProfileChanged L
    { w with profileCombo := { w.profileCombo with hidden := hidden } })

/-- What applying asks of the library. -/
def applyRequest (w : SchedExtWindow S B) : ApplyRequest where
  scxSched := w.schedCombo.currentText
  schedMode := getScxModeFromStr w.profileCombo.currentText
  extraFlags := trimmed w.flagsEdit

/-- Applying the selection; nothing is left of the window if the process aborts. -/
def onApply (L : ScxLoader S B) (o : Outcomes) (w : SchedExtWindow S B) :
    Option (SchedExtWindow S B) :=
  let request := w.applyRequest
  (Config.applySchedulerChange L o request.scxSched request.schedMode request.extraFlags w.app).map
    fun result =>
      { w with
        app := result.2
        dialogs := if result.1 then w.dialogs else
          w.dialogs ++ ["Cannot set default scx scheduler with mode! Scheduler " ++ request.scxSched
            ++ " with mode " ++ w.profileCombo.currentText] }

def onDisable (L : ScxLoader S B) (o : Outcomes) (w : SchedExtWindow S B) :
    Option (SchedExtWindow S B) :=
  (Config.disableScheduler L o w.app).map fun result =>
    { w with
      app := result.2
      dialogs := if result.1 then w.dialogs else w.dialogs ++ ["Cannot disable scx_loader"] }

/-- Make an item of the scheduler combo box current; the slot runs if that changes the index. -/
def selectSched (L : ScxLoader S B) (i : ℕ) (w : SchedExtWindow S B) : SchedExtWindow S B :=
  if w.schedCombo.currentIndex = some i then w
  else onSchedChanged L { w with schedCombo := { w.schedCombo with currentIndex := some i } }

/-- Make an item of the profile combo box current; the slot runs if that changes the index. -/
def selectProfile (L : ScxLoader S B) (i : ℕ) (w : SchedExtWindow S B) : SchedExtWindow S B :=
  if w.profileCombo.currentIndex = some i then w
  else onSchedProfileChanged L
    { w with profileCombo := { w.profileCombo with currentIndex := some i } }

end SchedExtWindow

/-- What the constructor finds around it. -/
structure Startup (S B : Type) where
  system : System S B
  metadata : SchedulerMetadata
  supportedScheds : Option (List String)
  currentSched : Option String
  currentMode : Option UInt8

/-- A constructed window. Without a configuration or without the list of schedulers the
constructor shows a message and returns before it connects any slot. -/
inductive Constructed (S B : Type) where
  | noConfig (dialog : String)
  | noScheds (window : SchedExtWindow S B) (dialog : String)
  | completed (window : SchedExtWindow S B)

/-- The window before the schedulers are known. -/
def Startup.unfilled (start : Startup S B) (config : Config S) : SchedExtWindow S B where
  app := ⟨config, start.system⟩
  schedCombo := .empty
  profileCombo := .empty
  flagsEdit := ""
  metadata := start.metadata
  infoPanel := buildInfoCard
  shown := false
  dialogs := []

/-- The window after both combo boxes are filled and the running scheduler is selected. No slot
has run yet. -/
def Startup.filled (start : Startup S B) (config : Config S) (scheds : List String) :
    SchedExtWindow S B :=
  let combo := ComboBox.empty.addItems scheds
  { start.unfilled config with
    schedCombo := match start.currentSched with
      | some name => combo.setCurrentText name
      | none => combo
    profileCombo := ComboBox.empty.addItems schedProfiles }

/-- The window after the running mode is selected. The slot of the profile combo box is connected by
then, the one of the scheduler combo box is not. -/
def Startup.modeSelected (L : ScxLoader S B) (start : Startup S B) (config : Config S)
    (scheds : List String) : SchedExtWindow S B :=
  match start.currentMode with
  | some rawMode =>
    (start.filled config scheds).selectProfile L (getScxModeFromRaw rawMode).toRaw.toNat
  | none => start.filled config scheds

/-- The constructor. At its end it runs the slot of the scheduler combo box once itself. -/
def SchedExtWindow.construct (L : ScxLoader S B) (start : Startup S B) : Constructed S B :=
  match Config.initConfig L start.system.configFile with
  | none => .noConfig "Cannot initialize scx_loader configuration"
  | some config =>
    match start.supportedScheds with
    | none =>
      .noScheds
        { start.unfilled config with
          schedCombo := { ComboBox.empty with hidden := true }
          profileCombo := { ComboBox.empty with hidden := true } }
        ("Cannot get information from scx_loader!\nIs it working?\n" ++
          "This is needed for the app to work properly")
    | some scheds => .completed ((start.modeSelected L config scheds).onSchedChanged L)

/-- What happens to a window: it is shown or hidden, the user selects an item, edits the field, or
presses one of the buttons. -/
inductive WindowEvent where
  | showWindow
  | hideWindow
  | selectSched (i : ℕ)
  | selectProfile (i : ℕ)
  | edit (text : String)
  | apply (o : Outcomes)
  | disable (o : Outcomes)

/-- One event at a window; there are only the items to select that a combo box has. -/
def SchedExtWindow.step (L : ScxLoader S B) (w : SchedExtWindow S B) :
    WindowEvent → Option (SchedExtWindow S B)
  | .showWindow => some { w with shown := true }
  | .hideWindow => some { w with shown := false }
  | .selectSched i => if i < w.schedCombo.items.length then some (w.selectSched L i) else none
  | .selectProfile i => if i < w.profileCombo.items.length then some (w.selectProfile L i) else none
  | .edit text => some { w with flagsEdit := text }
  | .apply o => w.onApply L o
  | .disable o => w.onDisable L o

/-- The mode that is selected at first: the running one, if the daemon reports it. -/
def Startup.initialMode (start : Startup S B) : SchedMode :=
  (start.currentMode.map getScxModeFromRaw).getD .auto

/-- The profile combo box lists its items in the order of the raw modes. -/
theorem getScxModeFromStr_schedProfiles (mode : SchedMode) :
    getScxModeFromStr ((schedProfiles[mode.toRaw.toNat]?).getD "") = mode := by
  cases mode <;> decide

/-- Selecting the running mode only moves the index of the profile combo box, for all that later
slots read. -/
theorem Startup.modeSelected_eq (L : ScxLoader S B) (start : Startup S B) (config : Config S)
    (scheds : List String) :
    (start.modeSelected L config scheds).app = ⟨config, start.system⟩ ∧
      (start.modeSelected L config scheds).shown = false ∧
      (start.modeSelected L config scheds).schedCombo = (start.filled config scheds).schedCombo ∧
      (start.modeSelected L config scheds).profileCombo =
        ⟨schedProfiles, some start.initialMode.toRaw.toNat, false⟩ := by
  unfold Startup.modeSelected Startup.initialMode
  cases start.currentMode with
  | none => exact ⟨rfl, rfl, rfl, rfl⟩
  | some rawMode =>
    dsimp only
    unfold SchedExtWindow.selectProfile
    by_cases hsame : (start.filled config scheds).profileCombo.currentIndex =
        some (getScxModeFromRaw rawMode).toRaw.toNat
    · rw [if_pos hsame]
      refine ⟨rfl, rfl, rfl, ?_⟩
      exact congrArg (fun i => (⟨schedProfiles, i, false⟩ : ComboBox)) hsame
    · rw [if_neg hsame]
      exact ⟨rfl, rfl, rfl, rfl⟩

namespace SchedExtWindow

/-- A window whose constructor completed has run its slots on a configuration and a list of
schedulers. -/
theorem construct_completed {L : ScxLoader S B} {start : Startup S B} {w : SchedExtWindow S B}
    (h : construct L start = .completed w) :
    ∃ config scheds, Config.initConfig L start.system.configFile = some config ∧
      start.supportedScheds = some scheds ∧
      w = (start.modeSelected L config scheds).onSchedChanged L := by
  unfold construct at h
  split at h
  next => cases h
  next config hconfig =>
    split at h
    next => cases h
    next scheds hscheds =>
      cases h
      exact ⟨config, scheds, hconfig, hscheds, rfl⟩

/-- What all windows have in common once their constructor has completed. -/
structure WellFormed (w : SchedExtWindow S B) : Prop where
  profileItems : w.profileCombo.items = schedProfiles
  profileIndex : ∃ mode : SchedMode, w.profileCombo.currentIndex = some mode.toRaw.toNat
  profileHidden : w.profileCombo.hidden = !profileScheds.contains w.schedCombo.currentText

/-- Every constructed window is well-formed. -/
theorem construct_wellFormed {L : ScxLoader S B} {start : Startup S B} {w : SchedExtWindow S B}
    (h : construct L start = .completed w) : w.WellFormed := by
  obtain ⟨config, scheds, -, -, rfl⟩ := construct_completed h
  obtain ⟨-, -, -, hprofile⟩ := start.modeSelected_eq L config scheds
  refine ⟨?_, ⟨start.initialMode, ?_⟩, rfl⟩
  · change (start.modeSelected L config scheds).profileCombo.items = _
    rw [hprofile]
  · change (start.modeSelected L config scheds).profileCombo.currentIndex = _
    rw [hprofile]

/-- Every index below the number of profiles is the raw value of a mode. -/
theorem exists_mode_of_lt {i : ℕ} (h : i < schedProfiles.length) :
    ∃ mode : SchedMode, i = mode.toRaw.toNat := by
  have hi : i < 5 := h
  obtain rfl | rfl | rfl | rfl | rfl : i = 0 ∨ i = 1 ∨ i = 2 ∨ i = 3 ∨ i = 4 := by omega
  · exact ⟨.auto, rfl⟩
  · exact ⟨.gaming, rfl⟩
  · exact ⟨.powerSave, rfl⟩
  · exact ⟨.lowLatency, rfl⟩
  · exact ⟨.server, rfl⟩

/-- The window with another scheduler selected, before the slot runs. -/
def withSched (i : ℕ) (w : SchedExtWindow S B) : SchedExtWindow S B :=
  { w with schedCombo := { w.schedCombo with currentIndex := some i } }

/-- The window with another profile selected, before the slot runs. -/
def withProfile (i : ℕ) (w : SchedExtWindow S B) : SchedExtWindow S B :=
  { w with profileCombo := { w.profileCombo with currentIndex := some i } }

/-- Every way an event can go. Selecting the current item changes nothing; the two buttons change the
app instance and the messages only. -/
inductive Takes (L : ScxLoader S B) (w : SchedExtWindow S B) :
    WindowEvent → SchedExtWindow S B → Prop
  | shown : w.Takes L .showWindow { w with shown := true }
  | hidden : w.Takes L .hideWindow { w with shown := false }
  | sameSched (i : ℕ) (hi : w.schedCombo.currentIndex = some i) : w.Takes L (.selectSched i) w
  | sched (i : ℕ) (hi : w.schedCombo.currentIndex ≠ some i) (hlt : i < w.schedCombo.items.length) :
      w.Takes L (.selectSched i) ((w.withSched i).onSchedChanged L)
  | sameProfile (i : ℕ) (hi : w.profileCombo.currentIndex = some i) :
      w.Takes L (.selectProfile i) w
  | profile (i : ℕ) (hi : w.profileCombo.currentIndex ≠ some i)
      (hlt : i < w.profileCombo.items.length) :
      w.Takes L (.selectProfile i) ((w.withProfile i).onSchedProfileChanged L)
  | edited (text : String) : w.Takes L (.edit text) { w with flagsEdit := text }
  | applied (o : Outcomes) (success : Bool) (app : App S B) (dialogs : List String)
      (happly : Config.applySchedulerChange L o w.applyRequest.scxSched w.applyRequest.schedMode
        w.applyRequest.extraFlags w.app = some (success, app)) :
      w.Takes L (.apply o) { w with app := app, dialogs := dialogs }
  | disabled (o : Outcomes) (success : Bool) (app : App S B) (dialogs : List String)
      (hdisable : Config.disableScheduler L o w.app = some (success, app)) :
      w.Takes L (.disable o) { w with app := app, dialogs := dialogs }

/-- An event that goes through goes in one of these ways. -/
theorem step_takes {L : ScxLoader S B} {w w' : SchedExtWindow S B} {event : WindowEvent}
    (h : w.step L event = some w') : w.Takes L event w' := by
  unfold step at h
  cases event with
  | showWindow =>
    obtain rfl := Option.some.inj h
    exact .shown
  | hideWindow =>
    obtain rfl := Option.some.inj h
    exact .hidden
  | selectSched i =>
    dsimp only at h
    by_cases hlt : i < w.schedCombo.items.length
    · rw [if_pos hlt] at h
      obtain rfl := Option.some.inj h
      unfold selectSched
      by_cases hi : w.schedCombo.currentIndex = some i
      · rw [if_pos hi]
        exact .sameSched i hi
      · rw [if_neg hi]
        exact .sched i hi hlt
    · rw [if_neg hlt] at h
      cases h
  | selectProfile i =>
    dsimp only at h
    by_cases hlt : i < w.profileCombo.items.length
    · rw [if_pos hlt] at h
      obtain rfl := Option.some.inj h
      unfold selectProfile
      by_cases hi : w.profileCombo.currentIndex = some i
      · rw [if_pos hi]
        exact .sameProfile i hi
      · rw [if_neg hi]
        exact .profile i hi hlt
    · rw [if_neg hlt] at h
      cases h
  | edit text =>
    obtain rfl := Option.some.inj h
    exact .edited text
  | apply o =>
    obtain ⟨⟨success, app⟩, happly, rfl⟩ := Option.map_eq_some_iff.mp h
    exact .applied o success app _ happly
  | disable o =>
    obtain ⟨⟨success, app⟩, hdisable, rfl⟩ := Option.map_eq_some_iff.mp h
    exact .disabled o success app _ hdisable

/-- Every event leaves a window well-formed. -/
theorem wellFormed_step (L : ScxLoader S B) (w : SchedExtWindow S B) (event : WindowEvent)
    (w' : SchedExtWindow S B) (hw : w.WellFormed) (h : w.step L event = some w') :
    w'.WellFormed := by
  obtain ⟨hitems, hindex, hhidden⟩ := hw
  cases step_takes h with
  | shown => exact ⟨hitems, hindex, hhidden⟩
  | hidden => exact ⟨hitems, hindex, hhidden⟩
  | sameSched i hi => exact ⟨hitems, hindex, hhidden⟩
  | sched i hi hlt => exact ⟨hitems, hindex, rfl⟩
  | sameProfile i hi => exact ⟨hitems, hindex, hhidden⟩
  | profile i hi hlt =>
    rw [hitems] at hlt
    obtain ⟨mode, hmode⟩ := exists_mode_of_lt hlt
    exact ⟨hitems, ⟨mode, congrArg some hmode⟩, hhidden⟩
  | edited text => exact ⟨hitems, hindex, hhidden⟩
  | applied o success app dialogs happly => exact ⟨hitems, hindex, hhidden⟩
  | disabled o success app dialogs hdisable => exact ⟨hitems, hindex, hhidden⟩

end SchedExtWindow

/-- A start with two schedulers, of which only the first one has profiles, and a catalog that
describes the first profile. -/
def sampleStart : Startup SampleSched (Config SampleSched) where
  system := (startedApp ⟨none, none, ∅⟩).system
  metadata := ⟨true, ∅, (∅ : Finmap fun _ : String => ProfileEntry).insert "Auto" ⟨"Balanced.", ∅⟩⟩
  supportedScheds := some ["scx_bpfland", "scx_rusty"]
  currentSched := none
  currentMode := none

/-- The window that is constructed then. -/
def sampleWindow : SchedExtWindow SampleSched (Config SampleSched) :=
  (sampleStart.modeSelected sampleLoader ⟨none, none, ∅⟩ ["scx_bpfland", "scx_rusty"]).onSchedChanged
    sampleLoader

end ScxManager
