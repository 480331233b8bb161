import ScxManager.Daemon
import ScxManager.Failures
import ScxManager.Settings
import ScxManager.Window

/-!
# The flags field and the configuration behind it

The field shows what the configuration in memory resolves for the selection. Applying reads the
trimmed text back as a list and stores that list if it differs from what was resolved. Joining
undoes the splitting of any text, so after applying, the field and the configuration agree but for
white space at the ends. Splitting undoes the joining of some lists only, so applying a text that
was never touched may still rewrite the configuration. A text passes between the languages as it is:
no argument begins with the byte order mark, which the conversion to the window's strings would drop.
-/

namespace ScxManager

open Actions

variable {S B : Type}

/-- A wrapped call that comes back has run to an outcome that is not a panic. -/
theorem wrapped_eq_some {call : LibCall S B Unit} {app app' : App S B} {success : Bool}
    (h : wrapped call app = some (success, app')) :
    (call.run app).state = app' ∧ caught (call.run app).outcome = some success := by
  obtain ⟨success', hcaught, hpair⟩ := Option.map_eq_some_iff.mp h
  obtain ⟨rfl, hstate⟩ := Prod.mk.inj hpair
  exact ⟨hstate, hcaught⟩

/-- A wrapped call that comes back leaves the configuration in memory that the call makes. -/
theorem memory_of_wrapped {L : ScxLoader S B} {call : Call} {o : Outcomes} {app app' : App S B}
    {success : Bool} (h : wrapped (call.action L o) app = some (success, app')) :
    app'.config = call.memory L app.config := by
  obtain ⟨rfl, hcaught⟩ := wrapped_eq_some h
  have hreturned (message : String) : ((call.action L o).run app).outcome ≠ .panic message := by
    intro hpanic
    rw [hpanic] at hcaught
    cases hcaught
  exact (Call.Ends.effect (call.action_ends L o app) hreturned).memory

/-- The window resolves flags exactly for the selections the library accepts. -/
theorem Config.scxFlagsForMode_eq (L : ScxLoader S B) (config : Config S) (scxSched : String)
    (schedMode : SchedMode) :
    Config.scxFlagsForMode L config scxSched schedMode =
      (accepted L scxSched schedMode.toRaw).map fun p => L.getScxFlagsForMode config p.1 p.2 := by
  unfold Config.scxFlagsForMode
  cases haccepted : accepted L scxSched schedMode.toRaw with
  | none =>
    obtain ⟨error, herror⟩ := getScxFlagsForMode_of_not_accepted haccepted
    rw [herror]
    rfl
  | some pair =>
    rw [getScxFlagsForMode_of_accepted haccepted]
    rfl

/-- An apply call that returns success was accepted. -/
theorem accepted_of_success {L : ScxLoader S B} {o : Outcomes} {scxSched : String}
    {schedMode : SchedMode} {extraFlags : String} {app app' : App S B}
    (h : Config.applySchedulerChange L o scxSched schedMode extraFlags app = some (true, app')) :
    (accepted L scxSched schedMode.toRaw).isSome := by
  obtain ⟨-, hcaught⟩ := wrapped_eq_some h
  have hanswers := (Call.apply scxSched schedMode.toRaw extraFlags).action_answers L o app
  change Call.Answers L o (.apply scxSched schedMode.toRaw extraFlags) app
    ((ScxManager.applySchedulerChange L o scxSched schedMode.toRaw extraFlags).run app).outcome _
    at hanswers
  generalize ((ScxManager.applySchedulerChange L o scxSched schedMode.toRaw extraFlags).run
    app).outcome = outcome at hcaught hanswers
  cases hanswers with
  | aborted => cases hcaught
  | failed => cases hcaught
  | done _ hcopy => exact hcopy.1

/-- An apply call for the arguments its configuration resolves leaves the stored lists alone, however
it ends. -/
theorem ApplyEnds.scheds {L : ScxLoader S B} {o : Outcomes} {scxName : String} {scxMode : UInt32}
    {extraFlags : String} {app app' : App S B} {outcome} {log} {scxSched : S} {schedMode : SchedMode}
    (h : ApplyEnds L o scxName scxMode extraFlags app outcome app' log)
    (haccepted : accepted L scxName scxMode = some (scxSched, schedMode))
    (hmode : SwitchesByMode L scxSched schedMode (schedArgsOf extraFlags) app.config) :
    app'.config.scheds = app.config.scheds := by
  have happlied : (applied L scxSched schedMode (schedArgsOf extraFlags) app.config).scheds =
      app.config.scheds := by
    unfold applied
    rw [if_pos hmode]
    rfl
  cases h with
  | legacyPanics hlegacy => rw [hlegacy.config]
  | rejected hlegacy hflags => rw [hlegacy.config]
  | enablePanics hlegacy haccepted' henable => rw [(ApplyEnds.prepared hlegacy henable).1]
  | notWritten hlegacy haccepted' henable hwrite =>
    obtain ⟨rfl, rfl⟩ := accepted_unique haccepted haccepted'
    rw [hwrite.frame.1, App.mapConfig_config, (ApplyEnds.prepared hlegacy henable).1, happlied]
  | written hlegacy haccepted' henable hwrite hcopy =>
    obtain ⟨rfl, rfl⟩ := accepted_unique haccepted haccepted'
    rw [hcopy.copied.1, hwrite.frame.1, App.mapConfig_config,
      (ApplyEnds.prepared hlegacy henable).1, happlied]

namespace SchedExtWindow

/-- The scheduler and the mode that are selected, if the library accepts them. -/
def selection (L : ScxLoader S B) (w : SchedExtWindow S B) : Option (S × SchedMode) :=
  accepted L w.applyRequest.scxSched w.applyRequest.schedMode.toRaw

/-- The arguments of the selection are those its configuration resolves. -/
theorem selectedFlags_eq (L : ScxLoader S B) (w : SchedExtWindow S B) :
    w.selectedFlags L =
      (w.selection L).map fun p => L.getScxFlagsForMode w.app.config p.1 p.2 :=
  Config.scxFlagsForMode_eq L w.app.config _ _

/-- A supported scheduler is accepted in every mode. -/
theorem selection_of_parse {L : ScxLoader S B} {w : SchedExtWindow S B} {sched : S}
    (h : L.parse w.schedCombo.currentText = .ok sched) :
    w.selection L = some (sched, w.applyRequest.schedMode) :=
  accepted_eq_some.mpr ⟨h, convertFromRawMode_toRaw _⟩

/-- The field shows the arguments of the selection. -/
def Shows (L : ScxLoader S B) (w : SchedExtWindow S B) : Prop :=
  w.flagsEdit = joinArgs ((w.selectedFlags L).getD [])

/-- The field shows the arguments of the selection, but for white space at the ends. -/
def Mirrors (L : ScxLoader S B) (w : SchedExtWindow S B) : Prop :=
  trimmed w.flagsEdit = trimmed (joinArgs ((w.selectedFlags L).getD []))

/-- Whether an event selects another scheduler or another profile. -/
def changesSelection (w : SchedExtWindow S B) : WindowEvent → Bool
  | .selectSched i => w.schedCombo.currentIndex != some i
  | .selectProfile i => w.profileCombo.currentIndex != some i
  | _ => false

/-- Whether applying returns success. -/
def applySucceeds (L : ScxLoader S B) (o : Outcomes) (w : SchedExtWindow S B) : Bool :=
  (Config.applySchedulerChange L o w.applyRequest.scxSched w.applyRequest.schedMode
    w.applyRequest.extraFlags w.app).map Prod.fst == some true

/-- Whether the field was edited since the selection last changed or applying last returned
success, given whether it was before. -/
def editedSince (L : ScxLoader S B) (w : SchedExtWindow S B) (before : Bool) (event : WindowEvent) :
    Bool :=
  match event with
  | .edit _ => true
  | .apply o => before && !w.applySucceeds L o
  | _ => before && !w.changesSelection event

/-- Whether an event neither edits the field nor applies. -/
def leavesField : WindowEvent → Bool
  | .edit _ => false
  | .apply _ => false
  | _ => true

/-- An event that leaves the field alone counts as an edit no more than before. -/
theorem editedSince_of_leavesField {L : ScxLoader S B} {w : SchedExtWindow S B} {before : Bool}
    {event : WindowEvent} (h : leavesField event = true) :
    w.editedSince L before event = (before && !w.changesSelection event) := by
  cases event with
  | edit text => cases h
  | apply o => cases h
  | _ => rfl

/-- A constructed window shows the arguments of its selection. -/
theorem construct_shows {L : ScxLoader S B} {start : Startup S B} {w : SchedExtWindow S B}
    (h : construct L start = .completed w) : w.Shows L := by
  obtain ⟨config, scheds, -, -, rfl⟩ := construct_completed h
  rfl

/-- A window that has changed its selection shows the arguments of the new one. -/
theorem shows_of_changesSelection {L : ScxLoader S B} {w w' : SchedExtWindow S B}
    {event : WindowEvent} (hchanges : w.changesSelection event = true)
    (h : w.step L event = some w') : w'.Shows L := by
  unfold changesSelection at hchanges
  cases step_takes h with
  | shown => cases hchanges
  | hidden => cases hchanges
  | sameSched i hi => simp [hi] at hchanges
  | sched i hi hlt => rfl
  | sameProfile i hi => simp [hi] at hchanges
  | profile i hi hlt => rfl
  | edited text => cases hchanges
  | applied o success app dialogs happly => cases hchanges
  | disabled o success app dialogs hdisable => cases hchanges

/-- A field that shows the arguments of the selection mirrors the configuration. -/
theorem Shows.mirrors {L : ScxLoader S B} {w : SchedExtWindow S B} (h : w.Shows L) : w.Mirrors L :=
  congrArg trimmed h

/-- What an apply makes of the configuration in memory, whatever it returns. -/
theorem config_applied {L : ScxLoader S B} {o : Outcomes} {w : SchedExtWindow S B} {success : Bool}
    {app : App S B}
    (h : Config.applySchedulerChange L o w.applyRequest.scxSched w.applyRequest.schedMode
      w.applyRequest.extraFlags w.app = some (success, app)) :
    app.config = match w.selection L with
      | some (sched, mode) =>
        applied L sched mode (schedArgsOf w.applyRequest.extraFlags) w.app.config
      | none => w.app.config :=
  have hmemory : app.config = (Call.apply w.applyRequest.scxSched w.applyRequest.schedMode.toRaw
      w.applyRequest.extraFlags).memory L w.app.config := memory_of_wrapped h
  hmemory

/-- After an accepted apply the selection resolves to the arguments applied. -/
theorem flags_applied {L : ScxLoader S B} {o : Outcomes} {w : SchedExtWindow S B} {success : Bool}
    {app : App S B} {sched : S} {mode : SchedMode}
    (h : Config.applySchedulerChange L o w.applyRequest.scxSched w.applyRequest.schedMode
      w.applyRequest.extraFlags w.app = some (success, app))
    (hselection : w.selection L = some (sched, mode)) :
    L.getScxFlagsForMode app.config sched mode = schedArgsOf w.applyRequest.extraFlags := by
  classical
  have hconfig := config_applied h
  rw [hselection] at hconfig
  rw [hconfig, getScxFlagsForMode_applied, if_pos ⟨rfl, rfl⟩]

/-- An apply leaves what it was not accepted for as it was. -/
theorem flags_applied_of_ne {L : ScxLoader S B} {o : Outcomes} {w : SchedExtWindow S B}
    {success : Bool} {app : App S B} {sched : S} {mode : SchedMode}
    (h : Config.applySchedulerChange L o w.applyRequest.scxSched w.applyRequest.schedMode
      w.applyRequest.extraFlags w.app = some (success, app))
    (hselection : w.selection L ≠ some (sched, mode)) :
    L.getScxFlagsForMode app.config sched mode = L.getScxFlagsForMode w.app.config sched mode := by
  classical
  have hconfig := config_applied h
  cases haccepted : w.selection L with
  | none =>
    rw [haccepted] at hconfig
    rw [hconfig]
  | some pair =>
    have hother : ¬ (sched = pair.1 ∧ mode = pair.2) := by
      intro hsame
      rw [haccepted, hsame.1, hsame.2] at hselection
      exact hselection rfl
    rw [haccepted] at hconfig
    rw [hconfig, getScxFlagsForMode_applied, if_neg hother]

/-- Disabling leaves all flags as they were. -/
theorem flags_disabled {L : ScxLoader S B} {o : Outcomes} {app app' : App S B} {success : Bool}
    (h : Config.disableScheduler L o app = some (success, app')) (sched : S) (mode : SchedMode) :
    L.getScxFlagsForMode app'.config sched mode = L.getScxFlagsForMode app.config sched mode := by
  have hmemory : app'.config = Call.disable.memory L app.config := memory_of_wrapped h
  rw [hmemory]
  exact getScxFlagsForMode_congr rfl

/-- After an apply the field mirrors the configuration if it did before, or if the apply returned
success. -/
theorem mirrors_applied {L : ScxLoader S B} {o : Outcomes} {w : SchedExtWindow S B} {success : Bool}
    {app : App S B} {dialogs : List String}
    (h : Config.applySchedulerChange L o w.applyRequest.scxSched w.applyRequest.schedMode
      w.applyRequest.extraFlags w.app = some (success, app))
    (hbefore : success = false → w.Mirrors L) : Mirrors L { w with app := app, dialogs := dialogs } := by
  have hflags := selectedFlags_eq L { w with app := app, dialogs := dialogs }
  change _ = (w.selection L).map _ at hflags
  unfold Mirrors
  rw [hflags]
  cases hselection : w.selection L with
  | none =>
    have hfailed : success = false := by
      cases success with
      | false => rfl
      | true =>
        have hsome := accepted_of_success h
        change (w.selection L).isSome at hsome
        rw [hselection] at hsome
        cases hsome
    have hmirrors := hbefore hfailed
    unfold Mirrors at hmirrors
    rwa [selectedFlags_eq, hselection] at hmirrors
  | some pair =>
    rw [Option.map_some, Option.getD_some, flags_applied h hselection, joinArgs_schedArgsOf]
    exact (trimmed_trimmed w.flagsEdit).symm

/-- Only an edit, an apply or another selection touches the field or what the selection resolves
to. -/
theorem field_step {L : ScxLoader S B} {w w' : SchedExtWindow S B} {event : WindowEvent}
    (hleaves : leavesField event = true) (hchanges : w.changesSelection event = false)
    (h : w.step L event = some w') :
    w'.flagsEdit = w.flagsEdit ∧ w'.selectedFlags L = w.selectedFlags L := by
  cases step_takes h with
  | shown => exact ⟨rfl, rfl⟩
  | hidden => exact ⟨rfl, rfl⟩
  | sameSched i hi => exact ⟨rfl, rfl⟩
  | sched i hi hlt => simp [changesSelection, hi] at hchanges
  | sameProfile i hi => exact ⟨rfl, rfl⟩
  | profile i hi hlt => simp [changesSelection, hi] at hchanges
  | edited text => cases hleaves
  | applied o success app dialogs happly => cases hleaves
  | disabled o success app dialogs hdisable =>
    have hflags := selectedFlags_eq L { w with app := app, dialogs := dialogs }
    simp only [flags_disabled hdisable] at hflags
    exact ⟨rfl, hflags.trans (selectedFlags_eq L w).symm⟩

/-- Every event keeps a field that was not edited since with the configuration. -/
theorem mirrors_step (L : ScxLoader S B) (st : SchedExtWindow S B × Bool) (event : WindowEvent)
    (st' : SchedExtWindow S B × Bool) (h : st.2 = false → st.1.Mirrors L)
    (hstep : Runs.recorded (step L) (editedSince L) st event = some st') :
    st'.2 = false → st'.1.Mirrors L := by
  obtain ⟨w, before⟩ := st
  obtain ⟨w', hw', rfl⟩ := Option.map_eq_some_iff.mp hstep
  intro hedited
  change w.editedSince L before event = false at hedited
  cases hchanges : w.changesSelection event with
  | true => exact (shows_of_changesSelection hchanges hw').mirrors
  | false =>
    cases hleaves : leavesField event with
    | true =>
      rw [editedSince_of_leavesField hleaves, hchanges] at hedited
      have hmirrors := h (by simpa using hedited)
      obtain ⟨htext, hflags⟩ := field_step hleaves hchanges hw'
      unfold Mirrors at hmirrors ⊢
      rw [htext, hflags, hmirrors]
    | false =>
      cases event with
      | edit text => cases hedited
      | apply o =>
        obtain ⟨⟨success, app⟩, happlied, rfl⟩ := Option.map_eq_some_iff.mp hw'
        refine mirrors_applied happlied fun hfailed => h ?_
        simpa [editedSince, applySucceeds, happlied, hfailed] using hedited
      | _ => cases hleaves

/-- If the event applies flags for the selection of this window, with or without success, they are the
same flags. -/
def KeepsApplied (L : ScxLoader S B) (w v : SchedExtWindow S B) (event : WindowEvent) : Prop :=
  ∀ o, event = .apply o → v.selection L = w.selection L → trimmed v.flagsEdit = trimmed w.flagsEdit

/-- Flags that were applied for a scheduler and a mode stay unless others are applied for them. -/
theorem flags_step {L : ScxLoader S B} {w v v' : SchedExtWindow S B} {event : WindowEvent}
    {sched : S} {mode : SchedMode} (hselection : w.selection L = some (sched, mode))
    (hkeeps : KeepsApplied L w v event)
    (hflags : L.getScxFlagsForMode v.app.config sched mode = schedArgsOf (trimmed w.flagsEdit))
    (h : v.step L event = some v') :
    L.getScxFlagsForMode v'.app.config sched mode = schedArgsOf (trimmed w.flagsEdit) := by
  cases step_takes h with
  | shown => exact hflags
  | hidden => exact hflags
  | sameSched i hi => exact hflags
  | sched i hi hlt => exact hflags
  | sameProfile i hi => exact hflags
  | profile i hi hlt => exact hflags
  | edited text => exact hflags
  | applied o success app dialogs happly =>
    by_cases hsame : v.selection L = some (sched, mode)
    · have htext := hkeeps o rfl (hsame.trans hselection.symm)
      rw [flags_applied happly hsame]
      exact congrArg schedArgsOf htext
    · rw [flags_applied_of_ne happly hsame, hflags]
  | disabled o success app dialogs hdisable => rw [flags_disabled hdisable, hflags]

/-- If applying returns success and, after other events that applied no other flags for the same
scheduler and mode, the selection changes to them, then the text is shown again without the white
space at its ends. -/
def ShowsAgain (L : ScxLoader S B) (w : SchedExtWindow S B) : Prop :=
  ∀ o w₁ between w₂ event w₃, w.applySucceeds L o = true → w.step L (.apply o) = some w₁ →
    Runs.run (step L) w₁ between = some w₂ → Runs.AllSteps (step L) (KeepsApplied L w) w₁ between →
      w₂.changesSelection event = true → w₂.step L event = some w₃ →
        w₃.selection L = w.selection L → w₃.flagsEdit = trimmed w.flagsEdit

/-- Every window shows again what was applied. -/
theorem showsAgain (L : ScxLoader S B) (w : SchedExtWindow S B) : w.ShowsAgain L := by
  intro o w₁ between w₂ event w₃ hsucceeds happly hrun hkeeps hchanges hstep hback
  obtain ⟨⟨success, app⟩, happlied, rfl⟩ := Option.map_eq_some_iff.mp happly
  have hsuccess : success = true := by simpa [applySucceeds, happlied] using hsucceeds
  subst hsuccess
  obtain ⟨⟨sched, mode⟩, hselection⟩ := Option.isSome_iff_exists.mp (accepted_of_success happlied)
  change w.selection L = some (sched, mode) at hselection
  have hbetween : L.getScxFlagsForMode w₂.app.config sched mode =
      schedArgsOf (trimmed w.flagsEdit) := by
    refine Runs.run_invariant_under (I := fun v : SchedExtWindow S B =>
      L.getScxFlagsForMode v.app.config sched mode = schedArgsOf (trimmed w.flagsEdit))
      ?_ (flags_applied happlied hselection) hkeeps hrun
    intro v e v' hflags hkeeps hstep
    exact flags_step hselection hkeeps hflags hstep
  have hselects : KeepsApplied L w w₂ event := by
    intro o' hevent
    rw [hevent] at hchanges
    cases hchanges
  have hflags := flags_step hselection hselects hbetween hstep
  have hshows := shows_of_changesSelection hchanges hstep
  unfold Shows at hshows
  rw [hshows, selectedFlags_eq, hback, hselection, Option.map_some, Option.getD_some, hflags,
    joinArgs_schedArgsOf]

/-- In every state of a run in which the field was not edited since the selection last changed or
applying last returned success, the field mirrors the configuration; and what was applied is shown
again. -/
theorem flagsField_mirrors {L : ScxLoader S B} {start : Startup S B} {w₀ : SchedExtWindow S B}
    (h : construct L start = .completed w₀) {events : List WindowEvent} {w : SchedExtWindow S B}
    {edited : Bool}
    (hrun : Runs.run (Runs.recorded (step L) (editedSince L)) (w₀, false) events =
      some (w, edited)) : (edited = false → w.Mirrors L) ∧ w.ShowsAgain L := by
  have hfirst : (w₀, false).2 = false → (w₀, false).1.Mirrors L := by
    intro _
    exact (construct_shows h).mirrors
  refine ⟨?_, showsAgain L w⟩
  exact Runs.run_invariant (I := fun st : SchedExtWindow S B × Bool => st.2 = false → st.1.Mirrors L)
    (mirrors_step L) hfirst hrun

/-- The sample window with the scheduler without profiles selected and flags typed for it. -/
def rustyWindow (text : String) : SchedExtWindow SampleSched (Config SampleSched) :=
  { sampleWindow.selectSched sampleLoader 1 with flagsEdit := text }

/-- Flags are typed with blanks around them for the scheduler without profiles and applied; when it is
selected again, they are shown without the blanks. -/
theorem flagsField_mirrors_rusty :
    ∃ w, Runs.run (Runs.recorded (step sampleLoader) (editedSince sampleLoader)) (sampleWindow, false)
        [.selectSched 1, .edit " -v ", .apply .succeed, .disable .succeed, .selectSched 0,
          .selectSched 1] = some (w, false) ∧
      w.Mirrors sampleLoader ∧ w.flagsEdit = "-v" := by
  have hconstruct : construct sampleLoader sampleStart = .completed sampleWindow := rfl
  have htyped : Runs.run (Runs.recorded (step sampleLoader) (editedSince sampleLoader))
      (sampleWindow, false) [.selectSched 1, .edit " -v "] = some (rustyWindow " -v ", true) := rfl
  have hrun : Runs.run (Runs.recorded (step sampleLoader) (editedSince sampleLoader))
      (sampleWindow, false) [.selectSched 1, .edit " -v ", .apply .succeed, .disable .succeed,
        .selectSched 0, .selectSched 1] = some (_, false) := rfl
  refine ⟨_, hrun, (flagsField_mirrors hconstruct hrun).1 rfl, ?_⟩
  -- nothing is applied between the first apply and the last selection
  refine (flagsField_mirrors hconstruct htyped).2 .succeed _ [.disable .succeed, .selectSched 0] _
    (.selectSched 1) _ rfl rfl rfl ⟨?_, fun _ _ => ⟨?_, fun _ _ => trivial⟩⟩ rfl rfl rfl
  · intro o h
    cases h
  · intro o h
    cases h

/-- Flags are applied with success, then other flags without: when the scheduler is selected again, the
latter are shown. -/
theorem failed_apply_shown_again :
    ∃ v w, Runs.run (step sampleLoader) sampleWindow [.selectSched 1, .edit "-v"] =
        some (rustyWindow "-v") ∧
      (rustyWindow "-v").applySucceeds sampleLoader .succeed = true ∧
      Runs.run (step sampleLoader) (rustyWindow "-v") [.apply .succeed, .edit "-k"] = some v ∧
      v.applySucceeds sampleLoader
        { Outcomes.succeed with create := .error ⟨["No space left on device"]⟩ } = false ∧
      Runs.run (step sampleLoader) v
        [.apply { Outcomes.succeed with create := .error ⟨["No space left on device"]⟩ },
          .selectSched 0, .selectSched 1] = some w ∧
      w.selection sampleLoader = (rustyWindow "-v").selection sampleLoader ∧
      w.flagsEdit ≠ trimmed (rustyWindow "-v").flagsEdit ∧ w.flagsEdit = "-k" :=
  ⟨_, _, rfl, rfl, rfl, rfl, rfl, rfl, by decide, rfl⟩

/-- The selection was made, by the constructor or by the user, and since then the field was not
edited and nothing was applied. -/
inductive Unedited (L : ScxLoader S B) : SchedExtWindow S B → Prop
  | constructed {start : Startup S B} {w : SchedExtWindow S B}
      (h : construct L start = .completed w) : Unedited L w
  | selected {w w' : SchedExtWindow S B} {event : WindowEvent}
      (hchanges : w.changesSelection event = true) (h : w.step L event = some w') : Unedited L w'
  | later {w w' : SchedExtWindow S B} {event : WindowEvent} (hw : Unedited L w)
      (hleaves : leavesField event = true) (h : w.step L event = some w') : Unedited L w'

/-- An unedited field shows exactly the arguments of the selection. -/
theorem Unedited.shows {L : ScxLoader S B} {w : SchedExtWindow S B} (hw : w.Unedited L) :
    w.Shows L := by
  induction hw with
  | constructed h => exact construct_shows h
  | selected hchanges h => exact shows_of_changesSelection hchanges h
  | @later w w' event _ hleaves h ih =>
    cases hchanges : w.changesSelection event with
    | true => exact shows_of_changesSelection hchanges h
    | false =>
      obtain ⟨htext, hflags⟩ := field_step hleaves hchanges h
      unfold Shows at ih ⊢
      rw [htext, hflags, ih]

/-- The call that applying makes. -/
def applying (L : ScxLoader S B) (o : Outcomes) (w : SchedExtWindow S B) :
    Ended (App S B) (Performed S) Error Unit :=
  (applySchedulerChange L o w.applyRequest.scxSched w.applyRequest.schedMode.toRaw
    w.applyRequest.extraFlags).run w.app

/-- Applying asks for the arguments the configuration resolves, so it switches by mode and leaves
the stored lists as they are. -/
structure AppliesNeutrally (L : ScxLoader S B) (w : SchedExtWindow S B) (sched : S) : Prop where
  args : schedArgsOf w.applyRequest.extraFlags =
    L.getScxFlagsForMode w.app.config sched w.applyRequest.schedMode
  switched : ∀ o, Spawns (legacyCommand o w.app.system) o.scxService →
    switches (w.applying L o).log =
      [⟨.switchScheduler sched w.applyRequest.schedMode, o.switch.isOk⟩]
  scheds : ∀ o, (w.applying L o).state.config.scheds = w.app.config.scheds

/-- Applying an unedited field for a supported scheduler, in whichever mode, is neutral exactly if
the arguments it shows are read back from their text. -/
theorem appliesNeutrally_iff {L : ScxLoader S B} {w : SchedExtWindow S B} {sched : S}
    (hw : w.Unedited L) (hparse : L.parse w.schedCombo.currentText = .ok sched) :
    AppliesNeutrally L w sched ↔
      ReadBackArgs (L.getScxFlagsForMode w.app.config sched w.applyRequest.schedMode) := by
  have hselection := selection_of_parse hparse
  have hshows := hw.shows
  unfold Shows at hshows
  rw [selectedFlags_eq, hselection, Option.map_some, Option.getD_some] at hshows
  rw [← schedArgsOf_trimmed_joinArgs_iff, ← hshows]
  constructor
  · intro h
    exact h.args
  · intro hargs
    have hmode : SwitchesByMode L sched w.applyRequest.schedMode
      (schedArgsOf w.applyRequest.extraFlags) w.app.config := hargs
    have hends (o : Outcomes) := applySchedulerChange_ends L o w.applyRequest.scxSched
      w.applyRequest.schedMode.toRaw w.applyRequest.extraFlags w.app
    refine ⟨hmode, fun o hspawns => ?_, fun o => (hends o).scheds hselection hmode⟩
    obtain ⟨hswitches, -⟩ := (hends o).requested hselection hspawns
    have hperformed : switchPerformed L o sched w.applyRequest.schedMode
        (schedArgsOf w.applyRequest.extraFlags) w.app.config =
          ⟨.switchScheduler sched w.applyRequest.schedMode, o.switch.isOk⟩ := by
      unfold switchPerformed
      rw [if_pos hmode]
    rw [← hperformed]
    exact hswitches

/-- The sample start with arguments stored for the scheduler with profiles. -/
def flagsStart (args : List String) : Startup SampleSched (Config SampleSched) :=
  { sampleStart with
    system := (startedApp ⟨none, none,
      (∅ : Finmap fun _ : String => SchedConfig).insert "scx_bpfland" { autoMode := some args }⟩).system }

/-- Two stored arguments are shown and applied as they are. -/
theorem two_args_apply_neutrally :
    ∃ w, construct sampleLoader (flagsStart ["-m", "performance"]) = .completed w ∧
      w.AppliesNeutrally sampleLoader .bpfland := by
  have hconstruct : construct sampleLoader (flagsStart ["-m", "performance"]) = .completed _ := rfl
  refine ⟨_, hconstruct, (appliesNeutrally_iff (.constructed hconstruct) rfl).mpr ?_⟩
  exact (schedArgsOf_trimmed_joinArgs_iff _).mp (by decide)

/-- One stored argument with a space in it is shown as two, and applying it stores two. -/
theorem spaced_arg_not_neutral :
    ∃ w, construct sampleLoader (flagsStart ["-m performance"]) = .completed w ∧
      sampleLoader.parse w.schedCombo.currentText = .ok .bpfland ∧
        ¬ w.AppliesNeutrally sampleLoader .bpfland := by
  refine ⟨_, rfl, rfl, ?_⟩
  intro h
  have hargs := h.args
  revert hargs
  decide

end SchedExtWindow

end ScxManager
