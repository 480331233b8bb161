import ScxManager.FlagsField

/-!
# The messages of a window

A window shows a message when a lookup or one of its two calls comes back without success. Told by what
goes in: a lookup fails if the library does not accept the selection, and a call if it does not get as
far as the copy to `config_path`. There are no other messages, and no failure of another step is told
to the user.
-/

namespace ScxManager

variable {S B : Type}

/-- A wrapped call that comes back returns success exactly if it got as far as the copy. -/
theorem wrapped_success_iff {L : ScxLoader S B} {o : Outcomes} (call : Call) {app app' : App S B}
    {success : Bool} (h : wrapped (call.action L o) app = some (success, app')) :
    success = true ↔ call.ReachesCopy L o app.config := by
  obtain ⟨-, hcaught⟩ := wrapped_eq_some h
  have hanswers := call.action_answers L o app
  generalize ((call.action L o).run app).outcome = outcome at hcaught hanswers
  cases hanswers with
  | aborted => cases hcaught
  | failed _ hcopy =>
    have hfailed : success = false := (Option.some.inj hcaught).symm
    rw [hfailed]
    exact iff_of_false Bool.false_ne_true hcopy
  | done _ hcopy =>
    have hdone : success = true := (Option.some.inj hcaught).symm
    exact iff_of_true hdone hcopy

namespace SchedExtWindow

/-- The message of a slot for a selection, if it has one. -/
def lookupMessages (L : ScxLoader S B) (w : SchedExtWindow S B) : List String :=
  if (w.selection L).isSome then [] else ["Cannot get scx flags from scx_loader configuration!"]

/-- The call that applying makes. -/
def applyCall (w : SchedExtWindow S B) : Call :=
  .apply w.applyRequest.scxSched w.applyRequest.schedMode.toRaw w.applyRequest.extraFlags

/-- The messages an event leads to. -/
def messages (L : ScxLoader S B) (w : SchedExtWindow S B) : WindowEvent → List String
  | .showWindow => []
  | .hideWindow => []
  | .selectSched i =>
    if w.schedCombo.currentIndex = some i then [] else (w.withSched i).lookupMessages L
  | .selectProfile i =>
    if w.profileCombo.currentIndex = some i then [] else (w.withProfile i).lookupMessages L
  | .edit _ => []
  | .apply o =>
    if w.applyCall.ReachesCopy L o w.app.config then []
    else ["Cannot set default scx scheduler with mode! Scheduler " ++ w.schedCombo.currentText
      ++ " with mode " ++ w.profileCombo.currentText]
  | .disable o =>
    if Call.disable.ReachesCopy L o w.app.config then [] else ["Cannot disable scx_loader"]

/-- The slot of the profile combo box adds the message of its selection. -/
theorem dialogs_onSchedProfileChanged (L : ScxLoader S B) (w : SchedExtWindow S B) :
    (w.onSchedProfileChanged L).dialogs = w.dialogs ++ w.lookupMessages L := by
  have hdialogs : (w.onSchedProfileChanged L).dialogs =
      if (w.selectedFlags L).isNone then
        w.dialogs ++ ["Cannot get scx flags from scx_loader configuration!"]
      else w.dialogs := rfl
  rw [hdialogs, selectedFlags_eq]
  unfold lookupMessages
  cases w.selection L with
  | none => rfl
  | some pair => exact (List.append_nil _).symm

/-- So does the slot of the scheduler combo box. -/
theorem dialogs_onSchedChanged (L : ScxLoader S B) (w : SchedExtWindow S B) :
    (w.onSchedChanged L).dialogs = w.dialogs ++ w.lookupMessages L :=
  dialogs_onSchedProfileChanged L
    { w with profileCombo :=
      { w.profileCombo with hidden := !profileScheds.contains w.schedCombo.currentText } }

/-- A message for a call that may have failed. -/
theorem append_messages {success : Bool} {P : Prop} [Decidable P] (h : success = true ↔ P)
    (dialogs : List String) (message : String) :
    (if success then dialogs else dialogs ++ [message]) =
      dialogs ++ if P then [] else [message] := by
  by_cases hP : P
  · rw [if_pos (h.mpr hP), if_pos hP, List.append_nil]
  · rw [if_neg fun hsuccess => hP (h.mp hsuccess), if_neg hP]

/-- An event adds its messages to those that were shown. -/
theorem dialogs_step {L : ScxLoader S B} {w w' : SchedExtWindow S B} {event : WindowEvent}
    (h : w.step L event = some w') : w'.dialogs = w.dialogs ++ w.messages L event := by
  have hnone : w.dialogs = w.dialogs ++ [] := (List.append_nil _).symm
  cases event with
  | apply o =>
    obtain ⟨⟨success, app⟩, happly, rfl⟩ := Option.map_eq_some_iff.mp h
    have hsuccess : success = true ↔ w.applyCall.ReachesCopy L o w.app.config :=
      wrapped_success_iff w.applyCall happly
    exact append_messages hsuccess w.dialogs _
  | disable o =>
    obtain ⟨⟨success, app⟩, hdisable, rfl⟩ := Option.map_eq_some_iff.mp h
    have hsuccess : success = true ↔ Call.disable.ReachesCopy L o w.app.config :=
      wrapped_success_iff .disable hdisable
    exact append_messages hsuccess w.dialogs _
  | showWindow =>
    obtain rfl := Option.some.inj h
    exact hnone
  | hideWindow =>
    obtain rfl := Option.some.inj h
    exact hnone
  | edit text =>
    obtain rfl := Option.some.inj h
    exact hnone
  | selectSched i =>
    unfold messages
    cases step_takes h with
    | sameSched _ hi =>
      dsimp only
      rw [if_pos hi]
      exact hnone
    | sched _ hi hlt =>
      dsimp only
      rw [if_neg hi]
      exact dialogs_onSchedChanged L (w.withSched i)
  | selectProfile i =>
    unfold messages
    cases step_takes h with
    | sameProfile _ hi =>
      dsimp only
      rw [if_pos hi]
      exact hnone
    | profile _ hi hlt =>
      dsimp only
      rw [if_neg hi]
      exact dialogs_onSchedProfileChanged L (w.withProfile i)

/-- Selecting the mode that runs leads to a message if that is not the first one. -/
theorem dialogs_selectProfile_filled (L : ScxLoader S B) (start : Startup S B) (config : Config S)
    (scheds : List String) (mode : SchedMode) :
    ((start.filled config scheds).selectProfile L mode.toRaw.toNat).dialogs =
      if mode = .auto then []
      else ((start.filled config scheds).selectProfile L mode.toRaw.toNat).lookupMessages L := by
  cases mode with
  | auto => rfl
  | _ => exact dialogs_onSchedProfileChanged L _

/-- A constructed window has shown a message for each slot that ran, if its scheduler is not accepted:
one for the mode that runs, unless that is the first one, and one for the scheduler. -/
theorem construct_dialogs {L : ScxLoader S B} {start : Startup S B} {w : SchedExtWindow S B}
    (h : construct L start = .completed w) :
    w.dialogs =
      (if start.initialMode = .auto then [] else w.lookupMessages L) ++ w.lookupMessages L := by
  obtain ⟨config, scheds, -, -, rfl⟩ := construct_completed h
  obtain ⟨happ, -, hsched, hprofile⟩ := start.modeSelected_eq L config scheds
  rw [dialogs_onSchedChanged]
  have hlookup : ((start.modeSelected L config scheds).onSchedChanged L).lookupMessages L =
      (start.modeSelected L config scheds).lookupMessages L := rfl
  rw [hlookup]
  congr 1
  unfold Startup.modeSelected Startup.initialMode
  cases start.currentMode with
  | none => rfl
  | some rawMode => exact dialogs_selectProfile_filled L start config scheds _

/-- In every run of a window the messages that are shown are those of its construction and, in order,
one for each new selection that the library does not accept and one for each call that does not get as
far as its copy. -/
theorem window_dialogs {L : ScxLoader S B} {start : Startup S B} {w₀ w : SchedExtWindow S B}
    (h : construct L start = .completed w₀) {events : List WindowEvent} {trace : List String}
    (hrun : Runs.run (Runs.recorded (step L) fun w shown event => shown ++ w.messages L event)
      (w₀, []) events = some (w, trace)) :
    w.dialogs =
      (if start.initialMode = .auto then [] else w₀.lookupMessages L) ++ w₀.lookupMessages L ++
        trace := by
  rw [← construct_dialogs h]
  refine Runs.run_invariant (I := fun st : SchedExtWindow S B × List String =>
    st.1.dialogs = w₀.dialogs ++ st.2) ?_ (List.append_nil _).symm hrun
  intro st event st' hst hst'
  obtain ⟨w', hw', rfl⟩ := Option.map_eq_some_iff.mp hst'
  rw [dialogs_step hw', hst, List.append_assoc]

/-- The staging file cannot be created at the first press, and the copy is denied at the second one: only
the first failure is told. -/
theorem window_dialogs_rusty :
    ∃ w, Runs.run (Runs.recorded (step sampleLoader)
        fun w shown event => shown ++ w.messages sampleLoader event) (sampleWindow, [])
        [.selectSched 1, .apply { Outcomes.succeed with create := .error ⟨["No space left"]⟩ },
          .apply .copyDenied] =
          some (w, ["Cannot set default scx scheduler with mode! Scheduler scx_rusty with mode Auto"]) ∧
      w.dialogs =
        ["Cannot set default scx scheduler with mode! Scheduler scx_rusty with mode Auto"] := by
  have hconstruct : construct sampleLoader sampleStart = .completed sampleWindow := rfl
  have hrun : Runs.run (Runs.recorded (step sampleLoader)
      fun w shown event => shown ++ w.messages sampleLoader event) (sampleWindow, [])
      [.selectSched 1, .apply { Outcomes.succeed with create := .error ⟨["No space left"]⟩ },
        .apply .copyDenied] =
        some (_, ["Cannot set default scx scheduler with mode! Scheduler scx_rusty with mode Auto"]) :=
    rfl
  exact ⟨_, hrun, window_dialogs hconstruct hrun⟩

end SchedExtWindow

end ScxManager
