import ScxManager.ActiveProfile
import ScxManager.Card
import ScxManager.Catalog

/-!
# The card and the document

Three layers lie between the document and the card: the tables it is flattened into, the lookups of the
slots, and the widgets. Taken together, the scheduler half of the card shows at every moment what the
document says about the selected scheduler, and the profile section shows only what it says about the
selected profile.
-/

namespace ScxManager

variable {S B : Type}

namespace SchedulerMetadata

/-- What a document says about a scheduler. -/
def documentScheduler (fromJson : List UInt8 → Option QJsonValue) (file : Option (List UInt8))
    (name : String) : Option SchedulerInfo :=
  (readObject fromJson file).bind fun root =>
    let schedulers := (root.value "schedulers").toObject
    if name ∈ schedulers.keys then some (schedulerEntry (schedulers.value name)) else none

/-- What a document says about a profile for the active scheduler. -/
def documentProfile (fromJson : List UInt8 → Option QJsonValue) (file : Option (List UInt8))
    (name active : String) : Option String :=
  (readObject fromJson file).bind fun root =>
    let profiles := (root.value "profiles").toObject
    let entry := (profiles.value name).toObject
    let byScheduler := (entry.value "byScheduler").toObject
    if name ∈ profiles.keys then
      some (if active ∈ byScheduler.keys then (byScheduler.value active).toString
        else (entry.value "description").toString)
    else none

variable {fromJson : List UInt8 → Option QJsonValue} {file : Option (List UInt8)}

/-- The lookup of a scheduler in a loaded catalog. -/
theorem load_scheduler (name : String) :
    (load fromJson file).scheduler name = (documentScheduler fromJson file name).getD {} := by
  unfold documentScheduler
  cases hread : readObject fromJson file with
  | none =>
    rw [load_of_not_readObject hread]
    rfl
  | some root =>
    rw [load_of_readObject hread, scheduler_eq rfl, Option.bind_some]
    dsimp only
    by_cases hname : name ∈ (root.value "schedulers").toObject.keys
    · rw [if_pos hname, if_pos hname]
      rfl
    · rw [if_neg hname, if_neg hname]
      rfl

/-- A loaded catalog is valid and finds a scheduler exactly if the document has it. -/
theorem load_found (name : String) :
    ((load fromJson file).isValid && ((load fromJson file).scheduler name).found) =
      (documentScheduler fromJson file name).isSome := by
  rw [load_scheduler]
  unfold documentScheduler
  cases hread : readObject fromJson file with
  | none =>
    rw [load_of_not_readObject hread]
    rfl
  | some root =>
    rw [load_of_readObject hread, Option.bind_some]
    dsimp only
    by_cases hname : name ∈ (root.value "schedulers").toObject.keys
    · rw [if_pos hname]
      rfl
    · rw [if_neg hname]
      rfl

/-- The lookup of a profile in a loaded catalog. -/
theorem load_profile {name active : String} (hfound : ((load fromJson file).profile name active).found) :
    documentProfile fromJson file name active =
      some ((load fromJson file).profile name active).description := by
  unfold documentProfile
  cases hread : readObject fromJson file with
  | none =>
    rw [load_of_not_readObject hread] at hfound
    cases hfound
  | some root =>
    have hlists : (load fromJson file).ListsProfiles (root.value "profiles").toObject := by
      rw [load_of_readObject hread]
      exact listsProfiles_of_eq rfl
    have hname := (hlists.found name active).mp hfound
    rw [Option.bind_some, hlists.description name hname active]
    exact if_pos hname

end SchedulerMetadata

namespace SchedExtWindow

/-- The scheduler half of the card is what the catalog makes of a new one for the selection. -/
def CardFollows (w : SchedExtWindow S B) : Prop :=
  let info := w.metadata.scheduler w.schedCombo.currentText
  w.infoPanel.schedulerHalf =
    (applySchedulerInfo buildInfoCard info (w.metadata.isValid && info.found)).schedulerHalf

/-- The card shows what a document says about the selection. A hidden profile section shows nothing. -/
structure ShowsDocument (fromJson : List UInt8 → Option QJsonValue) (file : Option (List UInt8))
    (w : SchedExtWindow S B) : Prop where
  scheduler : w.infoPanel.schedulerHalf.Shows
    ((SchedulerMetadata.documentScheduler fromJson file w.schedCombo.currentText).getD {})
    (SchedulerMetadata.documentScheduler fromJson file w.schedCombo.currentText).isSome
  profile : w.infoPanel.profileSection = true →
    w.infoPanel.profileName = w.profileCombo.currentText ∧
      SchedulerMetadata.documentProfile fromJson file w.profileCombo.currentText
        w.schedCombo.currentText = some w.infoPanel.profileDesc

/-- The slot of the profile combo box leaves the scheduler half of the card as it is. -/
theorem onSchedProfileChanged_schedulerHalf (L : ScxLoader S B) (w : SchedExtWindow S B) :
    (w.onSchedProfileChanged L).infoPanel.schedulerHalf = w.infoPanel.schedulerHalf :=
  applyProfileInfo_schedulerHalf _ _ _ _

/-- The slot of the scheduler combo box brings the card up to date. -/
theorem onSchedChanged_cardFollows (L : ScxLoader S B) (w : SchedExtWindow S B) :
    (w.onSchedChanged L).CardFollows := by
  unfold CardFollows onSchedChanged updateInfoPanel
  exact (applyProfileInfo_schedulerHalf _ _ _ _).trans (applySchedulerInfo_schedulerHalf _ _ _)

/-- Every event leaves the scheduler half of the card up to date, and the catalog alone. -/
theorem cardFollows_step {L : ScxLoader S B} {w w' : SchedExtWindow S B} {event : WindowEvent}
    (h : w.CardFollows) (hstep : w.step L event = some w') :
    w'.CardFollows ∧ w'.metadata = w.metadata := by
  cases step_takes hstep with
  | shown => exact ⟨h, rfl⟩
  | hidden => exact ⟨h, rfl⟩
  | sameSched i hi => exact ⟨h, rfl⟩
  | sched i hi hlt => exact ⟨onSchedChanged_cardFollows L (w.withSched i), rfl⟩
  | sameProfile i hi => exact ⟨h, rfl⟩
  | profile i hi hlt =>
    refine ⟨?_, rfl⟩
    unfold CardFollows
    rw [onSchedProfileChanged_schedulerHalf]
    exact h
  | edited text => exact ⟨h, rfl⟩
  | applied o success app dialogs happly => exact ⟨h, rfl⟩
  | disabled o success app dialogs hdisable => exact ⟨h, rfl⟩

/-- The constructor sets up the catalog it was given. -/
theorem construct_metadata {L : ScxLoader S B} {start : Startup S B} {w : SchedExtWindow S B}
    (h : construct L start = .completed w) : w.metadata = start.metadata := by
  obtain ⟨config, scheds, -, -, rfl⟩ := construct_completed h
  change (start.modeSelected L config scheds).metadata = start.metadata
  unfold Startup.modeSelected
  cases start.currentMode with
  | none => rfl
  | some rawMode =>
    dsimp only
    unfold selectProfile
    split <;> rfl

/-- In every state of a run of a window whose catalog was loaded from a document, the scheduler half of
the card shows the document's entry for the selected scheduler, or that there is none; and if the
profile section was asked to be shown, it shows the name of the selected profile and what the document
says about it for the selected scheduler. -/
theorem card_shows_document {L : ScxLoader S B} {start : Startup S B} {w₀ w : SchedExtWindow S B}
    {fromJson : List UInt8 → Option QJsonValue} {file : Option (List UInt8)}
    (hmetadata : start.metadata = .load fromJson file) (h : construct L start = .completed w₀)
    {events : List WindowEvent} (hrun : Runs.run (step L) w₀ events = some w) :
    ShowsDocument fromJson file w := by
  have hstart : w₀.CardFollows ∧ w₀.metadata = .load fromJson file := by
    refine ⟨?_, (construct_metadata h).trans hmetadata⟩
    obtain ⟨config, scheds, -, -, rfl⟩ := construct_completed h
    exact onSchedChanged_cardFollows L _
  have hend : w.CardFollows ∧ w.metadata = .load fromJson file := by
    refine Runs.run_invariant (I := fun w : SchedExtWindow S B =>
      w.CardFollows ∧ w.metadata = .load fromJson file) ?_ hstart hrun
    intro w event w' hw hstep
    obtain ⟨hfollows, hsame⟩ := cardFollows_step hw.1 hstep
    exact ⟨hfollows, hsame.trans hw.2⟩
  obtain ⟨hfollows, hload⟩ := hend
  constructor
  case scheduler =>
    unfold CardFollows at hfollows
    rw [hload] at hfollows
    dsimp only at hfollows
    rw [SchedulerMetadata.load_found, SchedulerMetadata.load_scheduler] at hfollows
    rw [hfollows]
    exact applySchedulerInfo_shows buildInfoCard _ _
  case profile =>
    intro hsection
    have hrecorded := Runs.run_recorded (step L) selectionShown w₀ false events
    rw [hrun] at hrecorded
    obtain ⟨st, hst, hfirst⟩ := Option.map_eq_some_iff.mp hrecorded
    have htracked := Runs.run_invariant (tracked_step L) (construct_tracked h).2 hst
    obtain ⟨w', shown⟩ := st
    obtain rfl : w' = w := hfirst
    have hleft := htracked.left
    obtain ⟨-, hdescription⟩ := hleft.profileSection.mp hsection
    obtain ⟨hname, hdesc⟩ := hleft.texts hsection
    refine ⟨hname, ?_⟩
    have hfound := hdescription.2.2.1
    unfold selectedProfile at hfound hdesc
    rw [hload] at hfound hdesc
    rw [hdesc]
    exact SchedulerMetadata.load_profile hfound

/-- A document that describes one scheduler by its title. -/
def sampleDocument : QJsonValue :=
  .object ["schedulers"] (List.nodup_singleton _) fun _ =>
    .object ["scx_rusty"] (List.nodup_singleton _) fun _ =>
      .object ["title"] (List.nodup_singleton _) fun _ => .string "Rusty"

/-- The sample start with the catalog of this document. -/
def documentStart : Startup SampleSched (Config SampleSched) :=
  { sampleStart with metadata := .load (fun _ => some sampleDocument) (some []) }

/-- The window that is constructed then. -/
def documentWindow : SchedExtWindow SampleSched (Config SampleSched) :=
  (documentStart.modeSelected sampleLoader ⟨none, none, ∅⟩ ["scx_bpfland", "scx_rusty"]).onSchedChanged
    sampleLoader

/-- The described scheduler is selected, and then the other profile of the combo box that is hidden. -/
theorem card_shows_document_rusty :
    ∃ w, Runs.run (step sampleLoader) documentWindow [.showWindow, .selectSched 1, .selectProfile 2] =
        some w ∧ w.schedCombo.currentText = "scx_rusty" ∧
      ShowsDocument (fun _ => some sampleDocument) (some []) w := by
  have hconstruct : construct sampleLoader documentStart = .completed documentWindow := rfl
  have hrun : Runs.run (step sampleLoader) documentWindow
      [.showWindow, .selectSched 1, .selectProfile 2] = some _ := rfl
  exact ⟨_, hrun, rfl, card_shows_document rfl hconstruct hrun⟩

end SchedExtWindow

end ScxManager
