import ScxManager.Coherence

/-!
# Calls that overlap on the staging file

All instances stage at the same path. Here a call is broken into the steps in which it touches the
staging file, and the steps of different instances interleave. A copy installs whatever the staging
file holds by then: the writes since it was last truncated, laid over one another.
-/

namespace ScxManager

variable {ι S B : Type}

/-- A configuration and what it is serialised to. -/
structure Serialised (L : ScxLoader S B) where
  config : Config S
  content : List B
  serialised : L.toToml config = .ok content

/-- The two calls that stage: a disable call stops the scheduler between its write and its copy. -/
inductive SaveKind where
  | apply
  | disable
  deriving DecidableEq

/-- How far an instance has come in saving a configuration. -/
inductive Phase (L : ScxLoader S B) where
  | idle
  | created (kind : SaveKind) (saved : Serialised L)
  | written (kind : SaveKind) (saved : Serialised L)
  | stopped (saved : Serialised L)

/-- What an instance that has come to its copy is about to install. -/
def Phase.toCopy {L : ScxLoader S B} : Phase L → Option (Serialised L)
  | .written .apply saved => some saved
  | .stopped saved => some saved
  | _ => none

/-- Instances that save at the same time. `writes` records the writes since the staging file was
last truncated, each with the instance that made it; nothing reads it. -/
structure Staging (ι : Type) (L : ScxLoader S B) where
  system : System S B
  phase : ι → Phase L
  writes : Option (List (ι × List B))

/-- One step of one instance, with its success. -/
inductive StagingEvent (ι : Type) (L : ScxLoader S B) where
  | create (i : ι) (kind : SaveKind) (saved : Serialised L) (succeeded : Bool)
  | write (i : ι) (result : Written)
  | stop (i : ι) (succeeded : Bool)
  | copy (i : ι) (succeeded : Bool)

/-- The record holds exactly what the instance has written since it truncated the file. -/
def Staging.OnlyWrites {L : ScxLoader S B} (i : ι) (st : Staging ι L) : Prop :=
  match st.phase i with
  | .idle => True
  | .created _ _ => st.writes = some []
  | .written _ saved => st.writes = some [(i, saved.content)]
  | .stopped saved => st.writes = some [(i, saved.content)]

/-- A step of another instance that leaves the record alone leaves it alone for this one. -/
theorem Staging.OnlyWrites.congr {L : ScxLoader S B} {i : ι} {st st' : Staging ι L}
    (h : st.OnlyWrites i) (hphase : st'.phase i = st.phase i) (hwrites : st'.writes = st.writes) :
    st'.OnlyWrites i := by
  unfold Staging.OnlyWrites at *
  rwa [hphase, hwrites]

/-- An instance that comes to its copy has made the one recorded write. -/
theorem Staging.OnlyWrites.of_toCopy {L : ScxLoader S B} {i : ι} {st : Staging ι L}
    {saved : Serialised L} (h : st.OnlyWrites i) (hcopy : (st.phase i).toCopy = some saved) :
    st.writes = some [(i, saved.content)] := by
  unfold Staging.OnlyWrites at h
  unfold Phase.toCopy at hcopy
  split at hcopy
  next saved' hphase =>
    rw [hphase] at h
    cases hcopy
    exact h
  next saved' hphase =>
    rw [hphase] at h
    cases hcopy
    exact h
  next => cases hcopy

variable [DecidableEq ι]

/-- The instance truncates the staging file. -/
def Staging.create {L : ScxLoader S B} (i : ι) (kind : SaveKind) (saved : Serialised L)
    (st : Staging ι L) : Staging ι L where
  system := st.system.createStaging
  phase := Function.update st.phase i (.created kind saved)
  writes := some []

/-- The instance writes units to the staging file, and is in a new phase then. -/
def Staging.write {L : ScxLoader S B} (i : ι) (units : List B) (phase : Phase L)
    (st : Staging ι L) : Staging ι L where
  system := st.system.writeStaging units
  phase := Function.update st.phase i phase
  writes := st.writes.map fun writes => writes ++ [(i, units)]

/-- The instance is in a new phase, and the system may have changed outside the staging file. -/
def Staging.proceed {L : ScxLoader S B} (i : ι) (phase : Phase L) (system : System S B)
    (st : Staging ι L) : Staging ι L :=
  { st with system := system, phase := Function.update st.phase i phase }

/-- One step, if the instance has come to it. A step that fails ends the call. -/
def Staging.step {L : ScxLoader S B} (st : Staging ι L) :
    StagingEvent ι L → Option (Staging ι L)
  | .create i kind saved succeeded =>
    match st.phase i with
    | .idle => some (if succeeded then st.create i kind saved else st)
    | _ => none
  | .write i result =>
    match st.phase i with
    | .created kind saved =>
      match result with
      | .done => some (st.write i saved.content (.written kind saved))
      | .failed _ units => some (st.write i (saved.content.take units) .idle)
    | _ => none
  | .stop i succeeded =>
    match st.phase i with
    | .written .disable saved =>
      if succeeded then
        some (st.proceed i (.stopped saved) { st.system with
          daemon := { st.system.daemon with running := none } })
      else some (st.proceed i .idle st.system)
    | _ => none
  | .copy i succeeded =>
    match (st.phase i).toCopy with
    | some _ => some (st.proceed i .idle
        (if succeeded then Command.copyConfig.effect st.system else st.system))
    | none => none

/-- Every way to take a step. -/
inductive Staging.Takes {L : ScxLoader S B} (st : Staging ι L) :
    StagingEvent ι L → Staging ι L → Prop
  | created (i : ι) (kind : SaveKind) (saved : Serialised L) (hphase : st.phase i = .idle) :
      st.Takes (.create i kind saved true) (st.create i kind saved)
  | notCreated (i : ι) (kind : SaveKind) (saved : Serialised L) (hphase : st.phase i = .idle) :
      st.Takes (.create i kind saved false) st
  | written (i : ι) (kind : SaveKind) (saved : Serialised L)
      (hphase : st.phase i = .created kind saved) :
      st.Takes (.write i .done) (st.write i saved.content (.written kind saved))
  | cut (i : ι) (kind : SaveKind) (saved : Serialised L) (error : Error) (units : ℕ)
      (hphase : st.phase i = .created kind saved) :
      st.Takes (.write i (.failed error units)) (st.write i (saved.content.take units) .idle)
  | stopped (i : ι) (saved : Serialised L) (hphase : st.phase i = .written .disable saved) :
      st.Takes (.stop i true) (st.proceed i (.stopped saved) { st.system with
        daemon := { st.system.daemon with running := none } })
  | notStopped (i : ι) (saved : Serialised L) (hphase : st.phase i = .written .disable saved) :
      st.Takes (.stop i false) (st.proceed i .idle st.system)
  | copied (i : ι) (saved : Serialised L) (hcopy : (st.phase i).toCopy = some saved) :
      st.Takes (.copy i true) (st.proceed i .idle (Command.copyConfig.effect st.system))
  | notCopied (i : ι) (saved : Serialised L) (hcopy : (st.phase i).toCopy = some saved) :
      st.Takes (.copy i false) (st.proceed i .idle st.system)

/-- A step is taken in one of these ways. -/
theorem Staging.step_takes {L : ScxLoader S B} {st st' : Staging ι L} {event : StagingEvent ι L}
    (hstep : st.step event = some st') : st.Takes event st' := by
  cases event with
  | create i kind saved succeeded =>
    unfold Staging.step at hstep
    dsimp only at hstep
    split at hstep
    next hphase =>
      obtain rfl := Option.some.inj hstep
      cases succeeded with
      | true => exact .created i kind saved hphase
      | false => exact .notCreated i kind saved hphase
    next => cases hstep
  | write i result =>
    unfold Staging.step at hstep
    dsimp only at hstep
    split at hstep
    next kind saved hphase =>
      cases result with
      | done =>
        obtain rfl := Option.some.inj hstep
        exact .written i kind saved hphase
      | failed error units =>
        obtain rfl := Option.some.inj hstep
        exact .cut i kind saved error units hphase
    next => cases hstep
  | stop i succeeded =>
    unfold Staging.step at hstep
    dsimp only at hstep
    split at hstep
    next saved hphase =>
      cases succeeded with
      | true =>
        obtain rfl := Option.some.inj hstep
        exact .stopped i saved hphase
      | false =>
        obtain rfl := Option.some.inj hstep
        exact .notStopped i saved hphase
    next => cases hstep
  | copy i succeeded =>
    unfold Staging.step at hstep
    dsimp only at hstep
    split at hstep
    next saved hcopy =>
      obtain rfl := Option.some.inj hstep
      cases succeeded with
      | true => exact .copied i saved hcopy
      | false => exact .notCopied i saved hcopy
    next => cases hstep

/-- Each of these ways is a step. -/
theorem Staging.Takes.step {L : ScxLoader S B} {st st' : Staging ι L} {event : StagingEvent ι L}
    (h : st.Takes event st') : st.step event = some st' := by
  unfold Staging.step
  cases h with
  | created i kind saved hphase => simp [hphase]
  | notCreated i kind saved hphase => simp [hphase]
  | written i kind saved hphase => simp [hphase]
  | cut i kind saved error units hphase => simp [hphase]
  | stopped i saved hphase => simp [hphase]
  | notStopped i saved hphase => simp [hphase]
  | copied i saved hcopy => simp [hcopy]
  | notCopied i saved hcopy => simp [hcopy]

/-- Every instance idle, and nothing recorded. -/
def Staging.start {L : ScxLoader S B} (system : System S B) : Staging ι L :=
  ⟨system, fun _ => .idle, none⟩

/-- The record accounts for the content of the staging file, from the first truncation on. -/
structure Staging.Recorded {L : ScxLoader S B} (st : Staging ι L) : Prop where
  content : ∀ writes, st.writes = some writes →
    st.system.stagingFile = some (Overlay.layAll (writes.map Prod.snd))
  staged : ∀ i, st.phase i ≠ .idle → st.writes.isSome = true

/-- Truncating starts the record afresh. -/
theorem Staging.Recorded.create {L : ScxLoader S B} (i : ι) (kind : SaveKind) (saved : Serialised L)
    (st : Staging ι L) : (st.create i kind saved).Recorded where
  content := by
    intro writes hwrites
    obtain rfl : [] = writes := Option.some.inj hwrites
    rfl
  staged := fun _ _ => rfl

/-- A write is recorded. -/
theorem Staging.Recorded.write {L : ScxLoader S B} {st : Staging ι L} (h : st.Recorded) (i : ι)
    (units : List B) {phase : Phase L} (hi : st.phase i ≠ .idle) :
    (st.write i units phase).Recorded where
  content := by
    intro writes hwrites
    obtain ⟨earlier, hearlier, rfl⟩ := Option.map_eq_some_iff.mp hwrites
    change st.system.stagingFile.map (Overlay.lay units) = _
    rw [h.content earlier hearlier, List.map_append, List.map_singleton,
      Overlay.layAll_append_singleton]
    rfl
  staged := by
    intro j hj
    have hsome := h.staged i hi
    change (st.writes.map _).isSome = true
    rwa [Option.isSome_map]

/-- A step outside the staging file leaves the record as it is. -/
theorem Staging.Recorded.proceed {L : ScxLoader S B} {st : Staging ι L} (h : st.Recorded) (i : ι)
    {phase : Phase L} {system : System S B} (hi : st.phase i ≠ .idle)
    (hsystem : system.stagingFile = st.system.stagingFile) :
    (st.proceed i phase system).Recorded where
  content := by
    intro writes hwrites
    exact hsystem.trans (h.content writes hwrites)
  staged := fun _ _ => h.staged i hi

/-- An instance has a phase for a reason: it is idle only if it has nothing to copy. -/
theorem Phase.ne_idle_of_toCopy {L : ScxLoader S B} {phase : Phase L} {saved : Serialised L}
    (h : phase.toCopy = some saved) : phase ≠ .idle := by
  intro hidle
  rw [hidle] at h
  cases h

/-- Every step keeps the record. -/
theorem Staging.recorded_step {L : ScxLoader S B} (st : Staging ι L) (event : StagingEvent ι L)
    (st' : Staging ι L) (h : st.Recorded) (hstep : st.step event = some st') : st'.Recorded := by
  cases Staging.step_takes hstep with
  | created i kind saved => exact Staging.Recorded.create i kind saved st
  | notCreated => exact h
  | written i kind saved hphase => exact h.write i saved.content (by simp [hphase])
  | cut i kind saved error units hphase => exact h.write i _ (by simp [hphase])
  | stopped i saved hphase => exact h.proceed i (by simp [hphase]) rfl
  | notStopped i saved hphase => exact h.proceed i (by simp [hphase]) rfl
  | copied i saved hcopy => exact h.proceed i (Phase.ne_idle_of_toCopy hcopy) rfl
  | notCopied i saved hcopy => exact h.proceed i (Phase.ne_idle_of_toCopy hcopy) rfl

/-- Whether no other instance has truncated or written the staging file since this one truncated
it, given whether that was so before. -/
def StagingEvent.leavesAlone {L : ScxLoader S B} (i : ι) (alone : Bool) : StagingEvent ι L → Bool
  | .create j _ _ succeeded => if succeeded then j == i else alone
  | .write j _ => alone && j == i
  | _ => alone

/-- An instance that becomes idle has no claim on the record. -/
theorem Staging.OnlyWrites.idle {L : ScxLoader S B} {i : ι} {st : Staging ι L}
    (h : st.OnlyWrites i) (j : ι) {system : System S B} : (st.proceed j .idle system).OnlyWrites i := by
  by_cases hji : j = i
  · subst hji
    simp [Staging.OnlyWrites, Staging.proceed]
  · exact h.congr (Function.update_of_ne (Ne.symm hji) ..) rfl

/-- As long as an instance is left alone, the record holds exactly its own writes. -/
theorem Staging.onlyWrites_step {L : ScxLoader S B} {i : ι} {alone : Bool} {st st' : Staging ι L}
    {event : StagingEvent ι L} (h : alone = true → st.OnlyWrites i)
    (hstep : st.step event = some st') (halone : event.leavesAlone i alone = true) :
    st'.OnlyWrites i := by
  cases Staging.step_takes hstep with
  | created j kind saved =>
    have hji : j = i := by simpa [StagingEvent.leavesAlone] using halone
    subst hji
    simp [Staging.OnlyWrites, Staging.create]
  | notCreated => exact h halone
  | written j kind saved hphase =>
    obtain ⟨hbefore, hji⟩ : alone = true ∧ j = i := by
      simpa [StagingEvent.leavesAlone] using halone
    subst hji
    have hwrites := h hbefore
    unfold Staging.OnlyWrites at hwrites
    rw [hphase] at hwrites
    dsimp only at hwrites
    simp [Staging.OnlyWrites, Staging.write, hwrites]
  | cut j kind saved error units hphase =>
    obtain ⟨-, hji⟩ : alone = true ∧ j = i := by
      simpa [StagingEvent.leavesAlone] using halone
    subst hji
    simp [Staging.OnlyWrites, Staging.write]
  | stopped j saved hphase =>
    have hwrites := h halone
    by_cases hji : j = i
    · subst hji
      unfold Staging.OnlyWrites at hwrites
      rw [hphase] at hwrites
      simpa [Staging.OnlyWrites, Staging.proceed] using hwrites
    · exact hwrites.congr (Function.update_of_ne (Ne.symm hji) ..) rfl
  | notStopped j saved hphase => exact (h halone).idle j
  | copied j saved hcopy => exact (h halone).idle j
  | notCopied j saved hcopy => exact (h halone).idle j

/-- The copy installs exactly the serialisation of the configuration its instance is saving. -/
def CopiesItsOwn {L : ScxLoader S B} (i : ι) (st st' : Staging ι L) : Prop :=
  ∀ saved, (st.phase i).toCopy = some saved → st'.system.configFile = some saved.content

/-- In every run of overlapping calls, a copy installs the writes since the staging file was last
truncated, by whichever instances, laid over one another: every position holds the unit of the last
write that reaches it. It installs exactly its own configuration if no other instance has truncated
or written the staging file since its instance truncated it. -/
theorem copy_installs_writes {L : ScxLoader S B} {system : System S B} {st st' : Staging ι L}
    {events : List (StagingEvent ι L)} {i : ι}
    (hrun : Runs.run Staging.step (Staging.start system) events = some st)
    (hcopy : st.step (.copy i true) = some st') :
    (∃ writes content, st.writes = some writes ∧ st'.system.configFile = some content ∧
        ∀ n, content[n]? = (((writes.map Prod.snd).filter fun units => n < units.length).getLast?).bind
          fun units => units[n]?) ∧
      (events.foldl (StagingEvent.leavesAlone i) false = true → CopiesItsOwn i st st') := by
  have hrecorded : st.Recorded := by
    refine Runs.run_invariant Staging.recorded_step ?_ hrun
    exact ⟨fun _ h => (nomatch h), fun _ h => absurd rfl h⟩
  cases Staging.step_takes hcopy with
  | copied _ saved hsaved =>
    obtain ⟨writes, hwrites⟩ := Option.isSome_iff_exists.mp
      (hrecorded.staged i (Phase.ne_idle_of_toCopy hsaved))
    have hfile : (Command.copyConfig.effect st.system).configFile =
        some (Overlay.layAll (writes.map Prod.snd)) := by
      change st.system.stagingFile.or st.system.configFile = _
      rw [hrecorded.content writes hwrites]
      rfl
    refine ⟨⟨writes, _, hwrites, hfile, Overlay.layAll_getElem? _⟩, ?_⟩
    intro halone saved' hsaved'
    obtain rfl := Option.some.inj (hsaved.symm.trans hsaved')
    have hsimulates : events.foldl (StagingEvent.leavesAlone i) false = true → st.OnlyWrites i := by
      have hstart : false = true → (Staging.start system : Staging ι L).OnlyWrites i :=
        fun h => by cases h
      refine Runs.run_simulates (R := fun st alone => alone = true → st.OnlyWrites i) ?_
        hstart hrun
      intro st alone event st' hst hstep halone'
      exact Staging.onlyWrites_step hst hstep halone'
    have honly := (hsimulates halone).of_toCopy hsaved
    obtain rfl := Option.some.inj (hwrites.symm.trans honly)
    change (Command.copyConfig.effect st.system).configFile = _
    rw [hfile, List.map_singleton, Overlay.layAll_singleton]

/-- The steps from a complete write to the copy, if nothing goes wrong. -/
def finishEvents {L : ScxLoader S B} (i : ι) : SaveKind → List (StagingEvent ι L)
  | .apply => [.copy i true]
  | .disable => [.stop i true, .copy i true]

/-- The steps of a call that saves without anything going wrong. -/
def saveEvents {L : ScxLoader S B} (i : ι) (kind : SaveKind) (saved : Serialised L) :
    List (StagingEvent ι L) :=
  .create i kind saved true :: .write i .done :: finishEvents i kind

/-- An instance that finds its own configuration staged can finish and installs it. -/
theorem finishEvents_run {L : ScxLoader S B} {st : Staging ι L} {i : ι} {kind : SaveKind}
    {saved : Serialised L} (hphase : st.phase i = .written kind saved)
    (hstaged : st.system.stagingFile = some saved.content) :
    ∃ st', Runs.run Staging.step st (finishEvents i kind) = some st' ∧
      st'.system.configFile = some saved.content := by
  have hfile (system : System S B) (h : system.stagingFile = some saved.content) :
      (Command.copyConfig.effect system).configFile = some saved.content := by
    change system.stagingFile.or system.configFile = _
    rw [h]
    rfl
  cases kind with
  | apply =>
    have hcopy : st.Takes (.copy i true) _ := .copied i saved (by rw [hphase]; rfl)
    exact ⟨_, Runs.run_cons_eq_some.mpr ⟨_, hcopy.step, rfl⟩, hfile st.system hstaged⟩
  | disable =>
    have hstop := Staging.Takes.stopped i saved hphase
    have hcopy : (st.proceed i (.stopped saved) { st.system with
        daemon := { st.system.daemon with running := none } }).Takes (.copy i true) _ :=
      .copied i saved (by simp [Staging.proceed, Phase.toCopy])
    exact ⟨_, Runs.run_cons_eq_some.mpr ⟨_, hstop.step, Runs.run_cons_eq_some.mpr
      ⟨_, hcopy.step, rfl⟩⟩, hfile _ hstaged⟩

/-- The steps of a call on its own can all be taken and install its configuration. -/
theorem saveEvents_run {L : ScxLoader S B} (system : System S B) (i : ι) (kind : SaveKind)
    (saved : Serialised L) :
    ∃ st, Runs.run Staging.step (Staging.start system) (saveEvents i kind saved) = some st ∧
      st.system.configFile = some saved.content := by
  have hcreate : (Staging.start system).Takes (.create i kind saved true) _ :=
    .created i kind saved rfl
  have hwrite : ((Staging.start system).create i kind saved).Takes (.write i .done) _ :=
    .written i kind saved (Function.update_self ..)
  have hstaged : (((Staging.start system).create i kind saved).write i saved.content
      (.written kind saved)).system.stagingFile = some saved.content := by
    change some (Overlay.lay saved.content []) = _
    simp [Overlay.lay]
  obtain ⟨st, hrun, hfile⟩ := finishEvents_run (Function.update_self ..) hstaged
  exact ⟨st, Runs.run_cons_eq_some.mpr ⟨_, hcreate.step, Runs.run_cons_eq_some.mpr
    ⟨_, hwrite.step, hrun⟩⟩, hfile⟩

/-- The kind of a call. -/
def Call.saveKind : Call → SaveKind
  | .apply _ _ _ => .apply
  | .disable => .disable

/-- A call that installs its configuration leaves at `config_path` what its steps, taken without
another instance in between, leave there. -/
theorem call_installs_as_saveEvents {L : ScxLoader S B} {app app' : App S B} {call : Call}
    {o : Outcomes} (i : ι) (hstep : app.step L (.call call o) = some app')
    (hinstalls : call.Installs L o app.config) :
    ∃ (saved : Serialised L) (st : Staging ι L), saved.config = app'.config ∧
      Runs.run Staging.step (Staging.start app.system) (saveEvents i call.saveKind saved) = some st ∧
      st.system.configFile = app'.system.configFile := by
  obtain ⟨toml, htoml, hinstalled⟩ := (App.step_call hstep).installed hinstalls
  obtain ⟨st, hrun, hfile⟩ :=
    saveEvents_run app.system i call.saveKind ⟨app'.config, toml, htoml⟩
  exact ⟨_, st, rfl, hrun, hfile.trans hinstalled.symm⟩

/-- A configuration that starts this scheduler, serialised. -/
def sampleSaved (sched : SampleSched) : Serialised sampleLoader :=
  ⟨⟨some sched, some .auto, ∅⟩, [⟨some sched, some .auto, ∅⟩], rfl⟩

/-- A call that has to itself the time from its truncation to its copy, though another call was cut
off before. -/
theorem copy_after_cut_write :
    ∃ st st', Runs.run Staging.step (Staging.start (startedApp ⟨none, none, ∅⟩).system)
        [.create false .apply (sampleSaved .rusty) true, .write false (.failed ⟨["disk full"]⟩ 1),
          .create true .disable (sampleSaved .bpfland) true, .write true .done, .stop true true] =
          some st ∧
      st.step (.copy true true) = some st' ∧ CopiesItsOwn true st st' := by
  obtain ⟨st', h⟩ := Option.isSome_iff_exists.mp (show ((Runs.run Staging.step
    (Staging.start (startedApp ⟨none, none, ∅⟩).system) [.create false .apply (sampleSaved .rusty) true,
      .write false (.failed ⟨["disk full"]⟩ 1), .create true .disable (sampleSaved .bpfland) true,
      .write true .done, .stop true true]).bind fun st => st.step (.copy true true)).isSome from rfl)
  obtain ⟨st, hrun, hcopy⟩ := Option.bind_eq_some_iff.mp h
  exact ⟨st, st', hrun, hcopy, (copy_installs_writes hrun hcopy).2 rfl⟩

/-- A second instance truncates the staging file while the copy of the first one waits: the copy
installs an empty file. -/
theorem copy_after_truncation :
    ∃ st st', Runs.run Staging.step (Staging.start (startedApp ⟨none, none, ∅⟩).system)
        [.create false .apply (sampleSaved .rusty) true, .write false .done,
          .create true .apply (sampleSaved .bpfland) true] = some st ∧
      st.step (.copy false true) = some st' ∧ st'.system.configFile = some [] ∧
      ¬ CopiesItsOwn false st st' := by
  refine ⟨_, _, rfl, rfl, rfl, ?_⟩
  intro h
  have hcontent := h (sampleSaved .rusty) rfl
  cases hcontent

end ScxManager
