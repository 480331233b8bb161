import ScxManager.Library.Polling
import ScxManager.Window

/-!
# The label of the running scheduler

What runs is read from the kernel, not from the service: the constructor sets the label at its end, and a
timer does every second, also where the service did not answer. The kernel goes on between the two files
that are read, so that the label may show the state of one moment and the scheduler of a later one.
-/

namespace ScxManager

open Polling

variable {S B : Type}

/-- A file of the kernel as the window meets it. -/
inductive KernelFile where
  | missing
  | unreadable
  | text (content : String)

/-- The first line without its end, unless there is nothing to read. -/
def getline (content : String) : Option String :=
  if content = "" then none else some (String.ofList (content.toList.takeWhile (· ≠ '\n')))

/-- A file that cannot be opened or read counts as empty. -/
def readKernelFile : KernelFile → String
  | .missing => ""
  | .unreadable => ""
  | .text content => (getline content).getD ""

/-- The files `state` and `root/ops` of the kernel's extensible scheduler class. -/
structure KernelFiles where
  state : KernelFile
  ops : KernelFile

/-- The second file is opened after the first one was read, and only in one state. -/
def getCurrentScheduler : Procedure KernelFiles String :=
  .read fun files =>
    let currentState := readKernelFile files.state
    if currentState ≠ "enabled" then .done currentState
    else .read fun files =>
      let currentSched := readKernelFile files.ops
      if currentSched.isEmpty then .done "unknown" else .done currentSched

/-- The label before it is set for the first time, with the text that the form has where it is not
translated. -/
def labelStart (files : KernelFiles) : State KernelFiles String where
  env := files
  reading := none
  view := "unknown"

/-- How often the label is set after each end of the constructor: without a configuration no timer is
started, and a constructor that completes has set the label itself. -/
def Constructed.SetsLabel : Constructed S B → List (Polling.Event KernelFiles) → Prop
  | .noConfig _, events => .update ∉ events
  | .noScheds _ _, _ => True
  | .completed _, events => .update ∈ events

/-- What the label shows if the state is read from some files and the scheduler from others. -/
def shownScheduler (first second : KernelFiles) : String :=
  if readKernelFile first.state = "enabled" then
    if readKernelFile second.ops = "" then "unknown" else readKernelFile second.ops
  else readKernelFile first.state

/-- In the enabled state the procedure reads on, in any other it shows the state. -/
theorem getCurrentScheduler_after_cons (first : KernelFiles) (reads : List KernelFiles) :
    getCurrentScheduler.after (first :: reads) =
      if readKernelFile first.state = "enabled" then
        (Procedure.read fun second => .done (shownScheduler first second)).after reads
      else (Procedure.done (readKernelFile first.state)).after reads := by
  unfold getCurrentScheduler
  rw [Procedure.after_read_cons]
  by_cases henabled : readKernelFile first.state = "enabled"
  · have hread : ∀ second : KernelFiles,
        (if (readKernelFile second.ops).isEmpty then Procedure.done "unknown"
          else Procedure.done (readKernelFile second.ops)) =
        (Procedure.done (shownScheduler first second) : Procedure KernelFiles String) := by
      intro second
      unfold shownScheduler
      by_cases hempty : readKernelFile second.ops = ""
      · simp [henabled, hempty]
      · simp [henabled, hempty]
    simp only [henabled, ne_eq, not_true_eq_false, if_false, if_true, hread]
  · simp only [henabled, ne_eq, not_false_eq_true, if_true, if_false]

/-- The state is read from some files that were there, and the scheduler from these or later ones. -/
theorem getCurrentScheduler_inOrder_iff {seen : List KernelFiles} {text : String} :
    (∃ reads, InOrder seen reads ∧ getCurrentScheduler.after reads = some (.done text)) ↔
      ∃ before first since, seen = before ++ first :: since ∧
        ∃ second ∈ first :: since, text = shownScheduler first second := by
  constructor
  · rintro ⟨reads, horder, hafter⟩
    cases reads with
    | nil => cases hafter
    | cons first reads =>
      obtain ⟨before, since, rfl, hlater⟩ := inOrder_cons.mp horder
      refine ⟨before, first, since, rfl, ?_⟩
      rw [getCurrentScheduler_after_cons] at hafter
      by_cases henabled : readKernelFile first.state = "enabled"
      · rw [if_pos henabled] at hafter
        cases reads with
        | nil => cases hafter
        | cons second reads =>
          cases reads with
          | nil =>
            exact ⟨second, inOrder_singleton.mp hlater,
              (Procedure.done.inj (Option.some.inj hafter)).symm⟩
          | cons third reads => cases hafter
      · rw [if_neg henabled] at hafter
        cases reads with
        | nil =>
          refine ⟨first, List.mem_cons_self, ?_⟩
          rw [shownScheduler, if_neg henabled]
          exact (Procedure.done.inj (Option.some.inj hafter)).symm
        | cons second reads => cases hafter
  · rintro ⟨before, first, since, rfl, second, hsecond, rfl⟩
    by_cases henabled : readKernelFile first.state = "enabled"
    · refine ⟨[first, second], inOrder_cons.mpr ⟨before, since, rfl, inOrder_singleton.mpr hsecond⟩, ?_⟩
      rw [getCurrentScheduler_after_cons, if_pos henabled]
      rfl
    · refine ⟨[first], inOrder_cons.mpr ⟨before, since, rfl, .nil _⟩, ?_⟩
      rw [getCurrentScheduler_after_cons, if_neg henabled, shownScheduler, if_neg henabled]
      rfl

/-- Only the files that are there are shown if they do not change. -/
theorem shown_settled {files : KernelFiles} {text : String}
    (h : ∃ before first since, [files] = before ++ first :: since ∧
      ∃ second ∈ first :: since, text = shownScheduler first second) :
    text = shownScheduler files files := by
  obtain ⟨before, first, since, hseen, second, hsecond, rfl⟩ := h
  have hfirst : first ∈ [files] := hseen ▸ List.mem_append_right before List.mem_cons_self
  have hsecond' : second ∈ [files] := hseen ▸ List.mem_append_right before hsecond
  rw [List.mem_singleton.mp hfirst, List.mem_singleton.mp hsecond']

/-- After each end of the constructor and whatever the kernel and the timer do: the label is what it was
at first, where it was never set, which is not so if the constructor completed. Otherwise it shows the
state from some files and the scheduler from the same or later ones, all of them there since it was last
set began; so it shows the present files if the kernel did not change since. -/
theorem label_run {constructed : Constructed S B} {files : KernelFiles}
    {events : List (Polling.Event KernelFiles)} {s : State KernelFiles String}
    (hsets : constructed.SetsLabel events)
    (hrun : Runs.run (step getCurrentScheduler) (labelStart files) events = some s)
    (hidle : s.reading = none) :
    ((∀ w, constructed ≠ .completed w) ∧ Polling.Event.update ∉ events ∧ s.view = "unknown") ∨
      ((∀ dialog, constructed ≠ .noConfig dialog) ∧ ∃ earlier rest,
        events = earlier ++ .update :: rest ∧ Polling.Event.update ∉ rest ∧
        (∃ before first since,
          (changes earlier).getLast?.getD files :: changes rest = before ++ first :: since ∧
            ∃ second ∈ first :: since, s.view = shownScheduler first second) ∧
        (changes rest = [] → s.view = shownScheduler s.env s.env)) := by
  by_cases hupdate : Polling.Event.update ∈ events
  · right
    obtain ⟨earlier, rest, reads, hsplit, hrest, horder, hafter⟩ := view_of_run hrun hidle hupdate
    have hshown := getCurrentScheduler_inOrder_iff.mp ⟨reads, horder, hafter⟩
    refine ⟨?_, earlier, rest, hsplit, hrest, hshown, ?_⟩
    · rintro dialog rfl
      exact hsets hupdate
    · intro hchanges
      have henv : s.env = (changes earlier).getLast?.getD (labelStart files).env := by
        have h := run_env hrun
        rwa [hsplit, changes_append_update, hchanges, List.append_nil] at h
      rw [hchanges, ← henv] at hshown
      exact shown_settled hshown
  · left
    obtain ⟨-, hview⟩ := run_view_of_no_update rfl hupdate hrun
    refine ⟨?_, hupdate, hview⟩
    rintro w rfl
    exact hupdate hsets

/-- The files while the scheduler `rusty` runs. -/
def rustyFiles : KernelFiles := ⟨.text "enabled\n", .text "rusty\n"⟩

/-- The files after it was disabled. -/
def stoppedFiles : KernelFiles := ⟨.text "disabled\n", .missing⟩

/-- The scheduler stops between the two reads, and the label names neither it nor the state. -/
theorem label_run_stopped :
    ∃ s, Runs.run (step getCurrentScheduler) (labelStart rustyFiles)
        [.update, .read, .change stoppedFiles, .read] = some s ∧ s.view = "unknown" ∧
      ∃ first second, s.view = shownScheduler first second := by
  have hrun : Runs.run (step getCurrentScheduler) (labelStart rustyFiles)
      [.update, .read, .change stoppedFiles, .read] =
        some { env := stoppedFiles, reading := none, view := "unknown" } := rfl
  refine ⟨_, hrun, rfl, ?_⟩
  have hsets : (Constructed.completed sampleWindow).SetsLabel
      [.update, .read, .change stoppedFiles, .read] := List.mem_cons_self
  rcases label_run hsets hrun rfl with h | h
  · exact absurd List.mem_cons_self h.2.1
  · obtain ⟨-, earlier, rest, -, -, ⟨before, first, since, -, second, -, hview⟩, -⟩ := h
    exact ⟨first, second, hview⟩

/-- What the label can show once it is set, while the kernel goes on to some files, is exactly this. -/
theorem label_shows_iff {s : State KernelFiles String} {later : List KernelFiles} {text : String}
    (hidle : s.reading = none) :
    (∃ rest, Polling.Event.update ∉ rest ∧ changes rest = later ∧
        ∃ t, Runs.run (step getCurrentScheduler) s (.update :: rest) = some t ∧ t.reading = none ∧
          t.view = text) ↔
      ∃ before first since, s.env :: later = before ++ first :: since ∧
        ∃ second ∈ first :: since, text = shownScheduler first second := by
  rw [update_shows_iff hidle, getCurrentScheduler_inOrder_iff]

/-- Where the scheduler stops, one update can show neither its name nor the state. -/
theorem label_shows_iff_stopped :
    ∃ rest, Polling.Event.update ∉ rest ∧ changes rest = [stoppedFiles] ∧
      ∃ t, Runs.run (step getCurrentScheduler) (labelStart rustyFiles) (.update :: rest) = some t ∧
        t.reading = none ∧ t.view = "unknown" := by
  refine (label_shows_iff rfl).mpr ?_
  exact ⟨[], rustyFiles, [stoppedFiles], rfl, stoppedFiles, by simp, rfl⟩

end ScxManager
