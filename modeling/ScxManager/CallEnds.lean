import ScxManager.Bridge

/-!
# Everything a call into the library can do

Each stage of a call is described once, with all the ways it can end and the guard of each.
`ApplyEnds` and `DisableEnds` put the stages together. Later results argue by cases on these
relations and never unfold a call.
-/

namespace ScxManager

open Actions

variable {S B : Type}

@[simp] theorem App.mapConfig_config (change : Config S → Config S) (app : App S B) :
    (app.mapConfig change).config = change app.config := rfl

@[simp] theorem App.mapConfig_system (change : Config S → Config S) (app : App S B) :
    (app.mapConfig change).system = app.system := rfl

/-- A shell that cannot ask counts as a negative answer. -/
theorem isScxLoaderServiceEnabled_eq (o : Outcomes) (system : System S B) :
    isScxLoaderServiceEnabled o system =
      (o.shell .scxLoaderEnabled && system.scxLoader.enabled) := by
  unfold isScxLoaderServiceEnabled Service.isEnabled
  cases o.shell .scxLoaderEnabled <;> cases system.scxLoader.enabled <;> decide

/-- The child process that gets the legacy service out of the way, if one is needed. -/
def legacyCommand (o : Outcomes) (system : System S B) : Option Command :=
  if isScxServiceEnabled o system then some .disableScx
  else if isScxServiceActive o system then some .stopScx
  else none

/-- The child process that enables the loader service, if one is needed. -/
def enableCommand (o : Outcomes) (system : System S B) : Option Command :=
  if !isScxLoaderServiceEnabled o system then some .enableScxLoader else none

/-- The ends of a child process that is spawned only if it is needed. -/
inductive ChildEnds (needed : Option Command) (result : Spawned) (app : App S B) :
    Outcome Error Unit → App S B → List (Performed S) → Prop
  | notNeeded (hneeded : needed = none) : ChildEnds needed result app (.ok ()) app []
  | exited (command : Command) (success : Bool) (hneeded : needed = some command)
      (hresult : result = .exited success) :
      ChildEnds needed result app (.ok ())
        (if success then app.mapSystem command.effect else app) [⟨.command command, success⟩]
  | panicked (command : Command) (hneeded : needed = some command)
      (hresult : result = .notSpawned) :
      ChildEnds needed result app (.panic "failed to execute child process") app
        [⟨.command command, false⟩]

/-- A system after a child process that is spawned only if it is needed. -/
def System.afterChild (needed : Option Command) (result : Spawned) (system : System S B) :
    System S B :=
  match needed, result with
  | some command, .exited true => command.effect system
  | _, _ => system

/-- A stage that is one child process leaves the system as that does. -/
theorem ChildEnds.system {needed : Option Command} {result : Spawned} {app app' : App S B}
    {outcome} {log} (h : ChildEnds needed result app outcome app' log) :
    app'.system = app.system.afterChild needed result := by
  cases h with
  | notNeeded hneeded => rw [hneeded]; rfl
  | exited command success hneeded hresult =>
    rw [hneeded, hresult]
    cases success <;> rfl
  | panicked command hneeded hresult => rw [hneeded, hresult]; rfl

/-- A child process leaves alone what its command does not change. -/
theorem System.afterChild_frame {X : Type} {needed : Option Command} {system : System S B}
    (f : System S B → X)
    (h : ∀ command, needed = some command → f (command.effect system) = f system)
    (result : Spawned) : f (system.afterChild needed result) = f system := by
  unfold System.afterChild
  split
  next command => exact h command rfl
  next => rfl

/-- Only two commands get the legacy service out of the way. -/
theorem legacyCommand_eq_some {o : Outcomes} {system : System S B} {command : Command}
    (h : legacyCommand o system = some command) : command = .disableScx ∨ command = .stopScx := by
  unfold legacyCommand at h
  split at h
  · exact Or.inl (Option.some.inj h).symm
  · split at h
    · exact Or.inr (Option.some.inj h).symm
    · cases h

/-- Only one command enables the loader service. -/
theorem enableCommand_eq_some {o : Outcomes} {system : System S B} {command : Command}
    (h : enableCommand o system = some command) : command = .enableScxLoader := by
  unfold enableCommand at h
  split at h
  · exact (Option.some.inj h).symm
  · cases h

/-- Every step of a log succeeded. -/
def AllSucceeded (log : List (Performed S)) : Prop := ∀ p ∈ log, p.succeeded = true

@[simp] theorem allSucceeded_append (first rest : List (Performed S)) :
    AllSucceeded (first ++ rest) ↔ AllSucceeded first ∧ AllSucceeded rest :=
  List.forall_mem_append

@[simp] theorem allSucceeded_cons (p : Performed S) (rest : List (Performed S)) :
    AllSucceeded (p :: rest) ↔ p.succeeded = true ∧ AllSucceeded rest :=
  List.forall_mem_cons

/-- A child process that is needed can be spawned. -/
def Spawns (needed : Option Command) (result : Spawned) : Prop :=
  needed ≠ none → result ≠ .notSpawned

/-- A child process that is needed succeeds. -/
def Succeeds (needed : Option Command) (result : Spawned) : Prop :=
  needed ≠ none → result = .exited true

@[simp] theorem succeeds_some (command : Command) (result : Spawned) :
    Succeeds (some command) result ↔ result = .exited true := by
  simp [Succeeds]

/-- A child process that cannot be spawned is a panic, and nothing else is. -/
theorem ChildEnds.outcome_eq {needed : Option Command} {result : Spawned} {app app' : App S B}
    {outcome} {log} (h : ChildEnds needed result app outcome app' log) :
    (Spawns needed result ∧ outcome = .ok ()) ∨
      (¬ Spawns needed result ∧ ∃ message, outcome = .panic message) := by
  unfold Spawns
  cases h with
  | notNeeded hneeded => exact .inl ⟨fun h => absurd hneeded h, rfl⟩
  | exited command success hneeded hresult => exact .inl ⟨by simp [hresult], rfl⟩
  | panicked command hneeded hresult => exact .inr ⟨by simp [hneeded, hresult], _, rfl⟩

/-- A call goes on after a child process exactly if the child process was spawned. -/
theorem ChildEnds.spawns {needed : Option Command} {result : Spawned} {app app' : App S B} {log}
    (h : ChildEnds needed result app (.ok ()) app' log) : Spawns needed result := by
  obtain ⟨hspawns, -⟩ | ⟨-, message, hmessage⟩ := h.outcome_eq
  · exact hspawns
  · cases hmessage

/-- A call ends in a child process only if the child process was not spawned. -/
theorem ChildEnds.not_spawns {needed : Option Command} {result : Spawned} {app app' : App S B}
    {message} {log} (h : ChildEnds needed result app (.panic message) app' log) :
    ¬ Spawns needed result := by
  obtain ⟨-, hok⟩ | ⟨hnot, -⟩ := h.outcome_eq
  · cases hok
  · exact hnot

/-- The log of a child process shows whether it succeeded. -/
theorem ChildEnds.succeeded_iff {needed : Option Command} {result : Spawned} {app app' : App S B}
    {outcome} {log} (h : ChildEnds needed result app outcome app' log) :
    AllSucceeded log ↔ Succeeds needed result := by
  unfold AllSucceeded Succeeds
  cases h with
  | notNeeded hneeded => simp [hneeded]
  | exited command success hneeded hresult => simp [hneeded, hresult]
  | panicked command hneeded hresult => simp [hneeded, hresult]

/-- A spawned child process ends as `ChildEnds` says. -/
theorem spawnChildProcess_ends (result : Spawned) (command : Command) (app : App S B) :
    wp (spawnChildProcess result command) (ChildEnds (some command) result app) app := by
  cases result with
  | notSpawned => exact .panicked command rfl rfl
  | exited success =>
    cases success with
    | false => exact .exited command false rfl rfl
    | true => exact .exited command true rfl rfl

/-- Stopping or disabling the legacy service. -/
theorem disableScxService_ends (o : Outcomes) (app : App S B) :
    wp (disableScxService o) (ChildEnds (legacyCommand o app.system) o.scxService app) app := by
  unfold disableScxService legacyCommand
  rw [wp_bind, wp_get]
  simp only [List.nil_append]
  split
  · exact spawnChildProcess_ends o.scxService .disableScx app
  · split
    · exact spawnChildProcess_ends o.scxService .stopScx app
    · exact .notNeeded rfl

/-- Enabling the loader service. -/
theorem enableScxLoader_ends (o : Outcomes) (app : App S B) :
    wp (Action.when (!isScxLoaderServiceEnabled o app.system)
        (spawnChildProcess o.enableLoader .enableScxLoader))
      (ChildEnds (enableCommand o app.system) o.enableLoader app) app := by
  unfold Action.when enableCommand
  split
  · exact spawnChildProcess_ends o.enableLoader .enableScxLoader app
  · exact .notNeeded rfl

/-- The ends of serialising the configuration in memory into the staging file. -/
inductive WriteEnds (L : ScxLoader S B) (o : Outcomes) (app : App S B) :
    Outcome Error Unit → App S B → List (Performed S) → Prop
  | notSerialised (error : Error) (htoml : L.toToml app.config = .error error) :
      WriteEnds L o app (.err error) app []
  | notCreated (toml : List B) (error : Error) (htoml : L.toToml app.config = .ok toml)
      (hcreate : o.create = .error error) :
      WriteEnds L o app (.err error) app [⟨.createStaging, false⟩]
  | cut (toml : List B) (error : Error) (units : ℕ) (htoml : L.toToml app.config = .ok toml)
      (hcreate : o.create = .ok ()) (hwrite : o.writeAll = .failed error units) :
      WriteEnds L o app (.err error)
        (app.mapSystem fun system => { system with stagingFile := some (toml.take units) })
        [⟨.createStaging, true⟩, ⟨.writeStaging, false⟩]
  | written (toml : List B) (htoml : L.toToml app.config = .ok toml)
      (hcreate : o.create = .ok ()) (hwrite : o.writeAll = .done) :
      WriteEnds L o app (.ok ())
        (app.mapSystem fun system => { system with stagingFile := some toml })
        [⟨.createStaging, true⟩, ⟨.writeStaging, true⟩]

/-- The configuration is serialised and staged in full. -/
def Stages (L : ScxLoader S B) (o : Outcomes) (config : Config S) : Prop :=
  (L.toToml config).isOk ∧ o.create = .ok () ∧ o.writeAll = .done

instance (L : ScxLoader S B) (o : Outcomes) (config : Config S) : Decidable (Stages L o config) := by
  unfold Stages
  infer_instance

/-- Staging that ends in an error has not staged in full. -/
theorem WriteEnds.not_stages {L : ScxLoader S B} {o : Outcomes} {app app' : App S B} {error} {log}
    (h : WriteEnds L o app (.err error) app' log) : ¬ Stages L o app.config := by
  intro hstages
  obtain ⟨htoml, hcreate, hwrite⟩ := hstages
  cases h with
  | notSerialised error hnone => simp [hnone, Except.isOk, Except.toBool] at htoml
  | notCreated toml error _ hfail => simp [hfail] at hcreate
  | cut toml error units _ _ hfail => simp [hfail] at hwrite

/-- Staging that succeeds leaves the serialised configuration in the staging file. -/
theorem WriteEnds.staged {L : ScxLoader S B} {o : Outcomes} {app app' : App S B} {log}
    (h : WriteEnds L o app (.ok ()) app' log) :
    Stages L o app.config ∧
      ∃ toml, L.toToml app.config = .ok toml ∧ app'.system.stagingFile = some toml := by
  cases h with
  | written toml htoml hcreate hwrite =>
    exact ⟨⟨by rw [htoml]; rfl, hcreate, hwrite⟩, toml, htoml, rfl⟩

/-- Staging in full performs only steps that succeed. -/
theorem WriteEnds.succeeded {L : ScxLoader S B} {o : Outcomes} {app app' : App S B} {log}
    (h : WriteEnds L o app (.ok ()) app' log) : AllSucceeded log := by
  cases h with
  | written => simp [AllSucceeded]

/-- Writing right after truncating leaves exactly what was written. -/
theorem System.writeStaging_createStaging (units : List B) (system : System S B) :
    system.createStaging.writeStaging units = { system with stagingFile := some units } := by
  simp [System.writeStaging, System.createStaging, Overlay.lay]

/-- The staging step ends as `WriteEnds` says. -/
theorem writeConfigFile_ends (L : ScxLoader S B) (o : Outcomes) (app : App S B) :
    wp (writeConfigFile L o) (WriteEnds L o app) app := by
  unfold writeConfigFile
  rw [wp_bind, wp_get]
  dsimp only
  rw [wp_bind, wp_lift]
  cases htoml : L.toToml app.config with
  | error error => exact .notSerialised error htoml
  | ok toml =>
    dsimp only
    unfold createFile writeAll
    cases hcreate : o.create with
    | error error => exact .notCreated toml error htoml hcreate
    | ok _ =>
      rw [wp_bind, wp_perform]
      dsimp only
      cases hwrite : o.writeAll with
      | done =>
        have hend := WriteEnds.written toml htoml hcreate hwrite
        rw [wp_perform]
        simpa only [List.nil_append, List.cons_append, App.mapSystem,
          System.writeStaging_createStaging] using hend
      | failed error units =>
        have hend := WriteEnds.cut toml error units htoml hcreate hwrite
        rw [wp_bind, wp_perform]
        simpa only [wp_fail, List.nil_append, List.append_nil, List.cons_append, App.mapSystem,
          System.writeStaging_createStaging] using hend

/-- The scheduler and the mode an apply call names, if the call accepts both. -/
def accepted (L : ScxLoader S B) (scxName : String) (scxMode : UInt32) : Option (S × SchedMode) :=
  match L.parse scxName, convertFromRawMode scxMode with
  | .ok scxSched, .ok schedMode => some (scxSched, schedMode)
  | _, _ => none

/-- The configuration an accepted apply call leaves in memory. -/
def applied (L : ScxLoader S B) (scxSched : S) (scxMode : SchedMode) (schedArgs : List String)
    (config : Config S) : Config S :=
  if schedArgs = L.getScxFlagsForMode config scxSched scxMode then
    setScxSchedWithMode scxSched scxMode config
  else
    setScxArgs L scxSched scxMode schedArgs (setScxSchedWithMode scxSched scxMode config)

/-- The configuration a disable call leaves in memory. -/
def disabled (config : Config S) : Config S := { config with defaultSched := none }

/-- Whether an apply call switches by mode: the arguments are those its configuration gives. -/
abbrev SwitchesByMode (L : ScxLoader S B) (scxSched : S) (scxMode : SchedMode)
    (schedArgs : List String) (config : Config S) : Prop :=
  schedArgs = L.getScxFlagsForMode config scxSched scxMode

/-- The arguments the daemon runs after a successful switch. -/
def switchedArgs (L : ScxLoader S B) (scxSched : S) (scxMode : SchedMode)
    (schedArgs : List String) (app : App S B) : List String :=
  if SwitchesByMode L scxSched scxMode schedArgs app.config then
    L.getScxFlagsForMode app.system.daemon.config scxSched scxMode
  else schedArgs

/-- The instance and its system after the switch request. -/
def App.switched (L : ScxLoader S B) (o : Outcomes) (scxSched : S) (scxMode : SchedMode)
    (schedArgs : List String) (app : App S B) : App S B :=
  if o.switch.isOk then
    app.mapSystem fun system => { system with
      daemon := { system.daemon with
        running := some (scxSched, switchedArgs L scxSched scxMode schedArgs app) } }
  else app

/-- The switch request of an apply call, as it is logged. -/
def switchPerformed (L : ScxLoader S B) (o : Outcomes) (scxSched : S) (scxMode : SchedMode)
    (schedArgs : List String) (config : Config S) : Performed S :=
  ⟨if SwitchesByMode L scxSched scxMode schedArgs config then .switchScheduler scxSched scxMode
    else .switchSchedulerWithArgs scxSched schedArgs, o.switch.isOk⟩

/-- The switch never ends the call: its failure is only printed. -/
theorem switch_ends (L : ScxLoader S B) (o : Outcomes) (scxSched : S) (scxMode : SchedMode)
    (schedArgs : List String) (app : App S B) :
    wp (if schedArgs = L.getScxFlagsForMode app.config scxSched scxMode then
        (switchSchedulerWithMode L o scxSched scxMode).swallow
      else (switchSchedulerWithArgs o scxSched schedArgs).swallow)
      (fun outcome app' log => outcome = .ok () ∧
        app' = app.switched L o scxSched scxMode schedArgs ∧
        log = [switchPerformed L o scxSched scxMode schedArgs app.config]) app := by
  unfold App.switched switchPerformed switchedArgs SwitchesByMode switchSchedulerWithMode
    switchSchedulerWithArgs callLoader
  by_cases hmode : schedArgs = L.getScxFlagsForMode app.config scxSched scxMode
  · simp only [if_pos hmode]
    rw [wp_swallow]
    cases o.switch with
    | ok _ => exact ⟨rfl, rfl, rfl⟩
    | error error => exact ⟨rfl, rfl, rfl⟩
  · simp only [if_neg hmode]
    rw [wp_swallow]
    cases o.switch with
    | ok _ => exact ⟨rfl, rfl, rfl⟩
    | error error => exact ⟨rfl, rfl, rfl⟩

/-- The ends of an apply call. The constructors follow the stages of the call. -/
inductive ApplyEnds (L : ScxLoader S B) (o : Outcomes) (scxName : String) (scxMode : UInt32)
    (extraFlags : String) (app : App S B) :
    Outcome Error Unit → App S B → List (Performed S) → Prop
  | legacyPanics {message app' log}
      (hlegacy : ChildEnds (legacyCommand o app.system) o.scxService app (.panic message) app' log) :
      ApplyEnds L o scxName scxMode extraFlags app (.panic message) app' log
  | rejected {app' log error}
      (hlegacy : ChildEnds (legacyCommand o app.system) o.scxService app (.ok ()) app' log)
      (hflags : getScxFlagsForMode L app.config scxName scxMode = .error error) :
      ApplyEnds L o scxName scxMode extraFlags app (.err error) app' log
  | enablePanics {app₁ app₂ log₁ log₂ message} {scxSched : S} {schedMode : SchedMode}
      (hlegacy : ChildEnds (legacyCommand o app.system) o.scxService app (.ok ()) app₁ log₁)
      (haccepted : accepted L scxName scxMode = some (scxSched, schedMode))
      (henable : ChildEnds (enableCommand o app.system) o.enableLoader
        (app₁.switched L o scxSched schedMode (schedArgsOf extraFlags)) (.panic message) app₂ log₂) :
      ApplyEnds L o scxName scxMode extraFlags app (.panic message) app₂
        (log₁ ++ switchPerformed L o scxSched schedMode (schedArgsOf extraFlags) app.config :: log₂)
  | notWritten {app₁ app₂ app₃ log₁ log₂ log₃ error} {scxSched : S} {schedMode : SchedMode}
      (hlegacy : ChildEnds (legacyCommand o app.system) o.scxService app (.ok ()) app₁ log₁)
      (haccepted : accepted L scxName scxMode = some (scxSched, schedMode))
      (henable : ChildEnds (enableCommand o app.system) o.enableLoader
        (app₁.switched L o scxSched schedMode (schedArgsOf extraFlags)) (.ok ()) app₂ log₂)
      (hwrite : WriteEnds L o (app₂.mapConfig (applied L scxSched schedMode (schedArgsOf extraFlags)))
        (.err error) app₃ log₃) :
      ApplyEnds L o scxName scxMode extraFlags app
        (.err (error.context "Cannot write scx_loader config to file")) app₃
        (log₁ ++ switchPerformed L o scxSched schedMode (schedArgsOf extraFlags) app.config ::
          (log₂ ++ log₃))
  | written {app₁ app₂ app₃ app₄ log₁ log₂ log₃ log₄ outcome} {scxSched : S} {schedMode : SchedMode}
      (hlegacy : ChildEnds (legacyCommand o app.system) o.scxService app (.ok ()) app₁ log₁)
      (haccepted : accepted L scxName scxMode = some (scxSched, schedMode))
      (henable : ChildEnds (enableCommand o app.system) o.enableLoader
        (app₁.switched L o scxSched schedMode (schedArgsOf extraFlags)) (.ok ()) app₂ log₂)
      (hwrite : WriteEnds L o (app₂.mapConfig (applied L scxSched schedMode (schedArgsOf extraFlags)))
        (.ok ()) app₃ log₃)
      (hcopy : ChildEnds (some .copyConfig) o.copy app₃ outcome app₄ log₄) :
      ApplyEnds L o scxName scxMode extraFlags app outcome app₄
        (log₁ ++ switchPerformed L o scxSched schedMode (schedArgsOf extraFlags) app.config ::
          (log₂ ++ (log₃ ++ log₄)))

/-- A configuration resolves flags exactly for the calls that are accepted. -/
theorem getScxFlagsForMode_of_accepted {L : ScxLoader S B} {scxName : String} {scxMode : UInt32}
    {scxSched : S} {schedMode : SchedMode} (h : accepted L scxName scxMode = some (scxSched, schedMode))
    (config : Config S) :
    getScxFlagsForMode L config scxName scxMode =
      .ok (L.getScxFlagsForMode config scxSched schedMode) := by
  unfold accepted at h
  unfold getScxFlagsForMode
  split at h
  next sched mode hparse hmode =>
    obtain ⟨rfl, rfl⟩ := Prod.mk.inj (Option.some.inj h)
    rw [hparse, hmode]
    rfl
  next => cases h

/-- An accepted call names a scheduler and a mode the library knows. -/
theorem accepted_eq_some {L : ScxLoader S B} {scxName : String} {scxMode : UInt32} {scxSched : S}
    {schedMode : SchedMode} : accepted L scxName scxMode = some (scxSched, schedMode) ↔
      L.parse scxName = .ok scxSched ∧ convertFromRawMode scxMode = .ok schedMode := by
  unfold accepted
  split
  next sched mode hparse hmode => simp [hparse, hmode]
  next h =>
    refine iff_of_false (by simp) ?_
    rintro ⟨hparse, hmode⟩
    exact h _ _ hparse hmode

/-- A call is accepted as one scheduler and mode only. -/
theorem accepted_unique {L : ScxLoader S B} {scxName : String} {scxMode : UInt32} {scxSched sched : S}
    {schedMode mode : SchedMode} (h : accepted L scxName scxMode = some (scxSched, schedMode))
    (h' : accepted L scxName scxMode = some (sched, mode)) : scxSched = sched ∧ schedMode = mode :=
  Prod.mk.inj (Option.some.inj (h.symm.trans h'))

/-- A call for which no flags can be resolved is not accepted. -/
theorem not_accepted_of_error {L : ScxLoader S B} {scxName : String} {scxMode : UInt32}
    {config : Config S} {error : Error}
    (h : getScxFlagsForMode L config scxName scxMode = .error error) :
    accepted L scxName scxMode = none := by
  cases haccepted : accepted L scxName scxMode with
  | none => rfl
  | some pair =>
    rw [getScxFlagsForMode_of_accepted haccepted] at h
    cases h

/-- A call that is not accepted resolves no flags, on any configuration. -/
theorem getScxFlagsForMode_of_not_accepted {L : ScxLoader S B} {scxName : String} {scxMode : UInt32}
    (h : accepted L scxName scxMode = none) :
    ∃ error, ∀ config, getScxFlagsForMode L config scxName scxMode = .error error := by
  unfold getScxFlagsForMode
  cases hparse : L.parse scxName with
  | error error => exact ⟨error, fun _ => rfl⟩
  | ok scxSched =>
    cases hmode : convertFromRawMode scxMode with
    | error error => exact ⟨error, fun _ => rfl⟩
    | ok schedMode =>
      rw [accepted_eq_some.mpr ⟨hparse, hmode⟩] at h
      cases h

/-- The two updates of the configuration in memory amount to `applied`. -/
theorem wp_applied (L : ScxLoader S B) (scxSched : S) (scxMode : SchedMode)
    (schedArgs : List String) (rest : LibCall S B Unit)
    (post : Outcome Error Unit → App S B → List (Performed S) → Prop) {app : App S B}
    {config : Config S} (hconfig : app.config = config) :
    wp (do
        Action.modify (App.mapConfig (setScxSchedWithMode scxSched scxMode))
        Action.when (schedArgs ≠ L.getScxFlagsForMode config scxSched scxMode)
          (Action.modify (App.mapConfig (setScxArgs L scxSched scxMode schedArgs)))
        rest) post app ↔
      wp rest post (app.mapConfig (applied L scxSched scxMode schedArgs)) := by
  subst hconfig
  rw [wp_bind, wp_modify]
  dsimp only
  rw [wp_bind]
  unfold Action.when applied App.mapConfig
  by_cases hmode : schedArgs = L.getScxFlagsForMode app.config scxSched scxMode
  · simp only [hmode, ne_eq, not_true_eq_false, ↓reduceIte]
    exact Iff.rfl
  · simp only [hmode, ne_eq, not_false_eq_true, ↓reduceIte, wp_modify]
    exact Iff.rfl

/-- Before the switch an apply call has not touched what decides whether to enable the loader. -/
theorem ChildEnds.scxLoader_legacy {o : Outcomes} {app app' : App S B} {outcome} {log}
    (h : ChildEnds (legacyCommand o app.system) o.scxService app outcome app' log) :
    app'.system.scxLoader = app.system.scxLoader := by
  rw [h.system]
  refine System.afterChild_frame System.scxLoader (fun command hcommand => ?_) o.scxService
  obtain rfl | rfl := legacyCommand_eq_some hcommand
  · rfl
  · rfl

/-- A child process does not change the configuration in memory. -/
theorem ChildEnds.config {needed : Option Command} {result : Spawned} {app app' : App S B} {outcome}
    {log} (h : ChildEnds needed result app outcome app' log) : app'.config = app.config := by
  cases h with
  | notNeeded => rfl
  | panicked => rfl
  | exited command success => cases success <;> rfl

@[simp] theorem App.switched_config (L : ScxLoader S B) (o : Outcomes) (scxSched : S)
    (scxMode : SchedMode) (schedArgs : List String) (app : App S B) :
    (app.switched L o scxSched scxMode schedArgs).config = app.config := by
  unfold App.switched
  split <;> rfl

@[simp] theorem App.switched_scxLoader (L : ScxLoader S B) (o : Outcomes) (scxSched : S)
    (scxMode : SchedMode) (schedArgs : List String) (app : App S B) :
    (app.switched L o scxSched scxMode schedArgs).system.scxLoader = app.system.scxLoader := by
  unfold App.switched
  split <;> rfl

/-- An apply call ends as `ApplyEnds` says. -/
theorem applySchedulerChange_ends (L : ScxLoader S B) (o : Outcomes) (scxName : String)
    (scxMode : UInt32) (extraFlags : String) (app : App S B) :
    wp (applySchedulerChange L o scxName scxMode extraFlags)
      (ApplyEnds L o scxName scxMode extraFlags app) app := by
  unfold applySchedulerChange
  refine wp_seq (disableScxService_ends o app) ?_ (fun _ _ _ h => by cases h)
    (fun _ _ _ h => .legacyPanics h)
  rintro ⟨⟩ app₁ log₁ hlegacy
  have hconfig : app₁.config = app.config := hlegacy.config
  rw [wp_bind, wp_get]
  dsimp only
  rw [wp_bind, wp_lift, hconfig]
  cases haccepted : accepted L scxName scxMode with
  | none =>
    obtain ⟨error, herror⟩ := getScxFlagsForMode_of_not_accepted haccepted
    rw [herror]
    simpa only [List.append_nil] using ApplyEnds.rejected hlegacy (herror app.config)
  | some pair =>
    obtain ⟨scxSched, schedMode⟩ := pair
    obtain ⟨hparse, hmode⟩ := accepted_eq_some.mp haccepted
    rw [getScxFlagsForMode_of_accepted haccepted]
    dsimp only
    rw [wp_bind, wp_lift, hparse]
    dsimp only
    rw [wp_bind, wp_lift, hmode]
    dsimp only
    rw [← hconfig]
    refine wp_seq (switch_ends L o scxSched schedMode (schedArgsOf extraFlags) app₁) ?_
      (fun _ _ _ h => by cases h.1) (fun _ _ _ h => by cases h.1)
    rintro ⟨⟩ _ _ ⟨-, rfl, rfl⟩
    rw [wp_bind, wp_get]
    dsimp only
    have hneeded : enableCommand o
        (app₁.switched L o scxSched schedMode (schedArgsOf extraFlags)).system =
          enableCommand o app.system := by
      unfold enableCommand
      rw [isScxLoaderServiceEnabled_eq, isScxLoaderServiceEnabled_eq, App.switched_scxLoader,
        hlegacy.scxLoader_legacy]
    have henableEnds :=
      enableScxLoader_ends o (app₁.switched L o scxSched schedMode (schedArgsOf extraFlags))
    rw [hneeded] at henableEnds
    simp only [List.nil_append, List.cons_append, hconfig]
    refine wp_seq henableEnds ?_ (fun _ _ _ h => by cases h)
      (fun _ _ _ h => .enablePanics hlegacy haccepted h)
    rintro ⟨⟩ app₂ log₂ henable
    have hconfig₂ : app₂.config = app.config := by
      rw [henable.config, App.switched_config, hconfig]
    rw [wp_applied L scxSched schedMode (schedArgsOf extraFlags) _ _ hconfig₂]
    have hwriteEnds := writeConfigFile_ends L o
      (app₂.mapConfig (applied L scxSched schedMode (schedArgsOf extraFlags)))
    rw [wp_bind, wp_mapError]
    refine wp_mono ?_ hwriteEnds
    rintro (⟨⟩ | error | message) app₃ log₃ hwrite
    · refine wp_mono ?_ (spawnChildProcess_ends o.copy .copyConfig app₃)
      intro outcome app₄ log₄ hcopy
      exact .written hlegacy haccepted henable hwrite hcopy
    · exact .notWritten hlegacy haccepted henable hwrite
    · cases hwrite

/-- The daemon after a successful stop request. -/
def App.stopped (app : App S B) : App S B :=
  app.mapSystem fun system => { system with daemon := { system.daemon with running := none } }

/-- The ends of a disable call. -/
inductive DisableEnds (L : ScxLoader S B) (o : Outcomes) (app : App S B) :
    Outcome Error Unit → App S B → List (Performed S) → Prop
  | notWritten {app' log error}
      (hwrite : WriteEnds L o (app.mapConfig disabled) (.err error) app' log) :
      DisableEnds L o app
        (.err ((error.context "Failed to edit config file").context "Cannot disable scx_loader"))
        app' log
  | notStopped {app₁ log₁ error}
      (hwrite : WriteEnds L o (app.mapConfig disabled) (.ok ()) app₁ log₁)
      (hstop : o.stop = .error error) :
      DisableEnds L o app (.err (error.context "Cannot disable scx_loader")) app₁
        (log₁ ++ [⟨.stopScheduler, false⟩])
  | stopped {app₁ app₂ log₁ log₂ outcome}
      (hwrite : WriteEnds L o (app.mapConfig disabled) (.ok ()) app₁ log₁)
      (hstop : o.stop = .ok ())
      (hcopy : ChildEnds (some .copyConfig) o.copy app₁.stopped outcome app₂ log₂) :
      DisableEnds L o app outcome app₂ (log₁ ++ ⟨.stopScheduler, true⟩ :: log₂)

/-- A disable call ends as `DisableEnds` says. -/
theorem disableScheduler_ends (L : ScxLoader S B) (o : Outcomes) (app : App S B) :
    wp (disableScheduler L o) (DisableEnds L o app) app := by
  unfold disableScheduler
  rw [wp_bind, wp_mapError]
  unfold disableScxSched
  rw [wp_bind, wp_modify]
  dsimp only
  rw [wp_bind, wp_mapError]
  refine wp_mono ?_ (writeConfigFile_ends L o (app.mapConfig disabled))
  rintro (⟨⟩ | error | message) app₁ log₁ hwrite
  · dsimp only
    unfold callLoader
    cases hstop : o.stop with
    | error error =>
      rw [wp_bind, wp_perform]
      exact .notStopped hwrite hstop
    | ok _ =>
      rw [wp_perform]
      refine wp_mono ?_ (spawnChildProcess_ends o.copy .copyConfig app₁.stopped)
      intro outcome app₂ log₂ hcopy
      simpa only [List.nil_append, List.append_assoc, List.cons_append]
        using DisableEnds.stopped hwrite hstop hcopy
  · exact .notWritten hwrite
  · cases hwrite

end ScxManager
