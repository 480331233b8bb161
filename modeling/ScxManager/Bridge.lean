import ScxManager.Library.Actions
import ScxManager.Library.Overlay
import ScxManager.Loader

/-!
# The Rust library behind the window

A call into the library runs on one app instance and the system around it: the staging file
`/tmp/scx_loader.toml`, the file at `config_path` (the window always passes the same path), the
loader daemon and two systemd units. How each external step of the call turns out is an input.
A step that fails leaves what it would have changed as it was, except that a write may stop
halfway; what `cp` may leave of the file at `config_path` when it fails is added to a call in
`Leftovers`. The log lists the external steps a call performed, with their success.
-/

namespace ScxManager

open Actions

variable {S B : Type}

/-- A systemd unit: whether it is enabled at boot, and whether it is active now. -/
structure Service where
  enabled : Bool
  active : Bool
  deriving DecidableEq

/-- The loader daemon: the configuration it read at its last start, and what it runs. -/
structure Daemon (S : Type) where
  config : Config S
  running : Option (S × List String)

/-- The system outside the app; a file that does not exist has no content. -/
structure System (S B : Type) where
  stagingFile : Option (List B)
  configFile : Option (List B)
  daemon : Daemon S
  scx : Service
  scxLoader : Service

/-- One app instance, which holds a configuration in memory, in its system. -/
structure App (S B : Type) where
  config : Config S
  system : System S B

/-- The child processes the library spawns. -/
inductive Command where
  /-- `/usr/bin/systemctl disable --now -f scx` -/
  | disableScx
  /-- `/usr/bin/systemctl stop -f scx` -/
  | stopScx
  /-- `/usr/bin/systemctl enable -f scx_loader` -/
  | enableScxLoader
  /-- `/usr/bin/pkexec /usr/bin/cp /tmp/scx_loader.toml <config_path>` -/
  | copyConfig
  deriving DecidableEq

/-- The external steps of a call. -/
inductive Step (S : Type) where
  | command (command : Command)
  | switchScheduler (sched : S) (mode : SchedMode)
  | switchSchedulerWithArgs (sched : S) (args : List String)
  | stopScheduler
  | createStaging
  | writeStaging
  deriving DecidableEq

/-- A step that was performed, and whether it succeeded. -/
structure Performed (S : Type) where
  step : Step S
  succeeded : Bool
  deriving DecidableEq

/-- A spawned child process, or the failure to spawn it. -/
inductive Spawned where
  | notSpawned
  | exited (success : Bool)
  deriving DecidableEq

/-- Writing the whole content, or failing after some units of it. -/
inductive Written where
  | done
  | failed (error : Error) (units : ℕ)
  deriving DecidableEq

/-- The questions asked of systemd through a shell. -/
inductive Query where
  | scxLoaderEnabled
  | scxEnabled
  | scxActive
  deriving DecidableEq

/-- How the external steps of one call turn out, should the call come to them. -/
structure Outcomes where
  shell : Query → Bool
  scxService : Spawned
  switch : Except Error Unit
  enableLoader : Spawned
  create : Except Error Unit
  writeAll : Written
  stop : Except Error Unit
  copy : Spawned

/-- Every external step succeeds. -/
def Outcomes.succeed : Outcomes where
  shell _ := true
  scxService := .exited true
  switch := .ok ()
  enableLoader := .exited true
  create := .ok ()
  writeAll := .done
  stop := .ok ()
  copy := .exited true

/-- Every external step succeeds but the copy, as when the permission for it is denied. -/
def Outcomes.copyDenied : Outcomes := { Outcomes.succeed with copy := .exited false }

/-- A call into the library. -/
abbrev LibCall (S B A : Type) := Action (App S B) (Performed S) Error A

/-- What a finished shell command printed, and whether it exited with success. -/
structure Output where
  success : Bool
  stdout : String

/-- The printed text without its final newline, or `-1` for a command that failed or did not run. -/
def exec : Option Output → String
  | none => "-1"
  | some output =>
    if !output.success then "-1"
    else if output.stdout.toList.getLast? = some '\n' then
      String.ofList output.stdout.toList.dropLast
    else output.stdout

/-- The answer of `systemctl is-enabled`. -/
def Service.isEnabled (service : Service) : Output :=
  if service.enabled then ⟨true, "enabled\n"⟩ else ⟨false, "disabled\n"⟩

/-- The answer of `systemctl is-active`. -/
def Service.isActive (service : Service) : Output :=
  if service.active then ⟨true, "active\n"⟩ else ⟨false, "inactive\n"⟩

def isScxLoaderServiceEnabled (o : Outcomes) (system : System S B) : Bool :=
  exec (if o.shell .scxLoaderEnabled then some system.scxLoader.isEnabled else none) == "enabled"

def isScxServiceEnabled (o : Outcomes) (system : System S B) : Bool :=
  exec (if o.shell .scxEnabled then some system.scx.isEnabled else none) == "enabled"

def isScxServiceActive (o : Outcomes) (system : System S B) : Bool :=
  exec (if o.shell .scxActive then some system.scx.isActive else none) == "active"

/-- Truncate the staging file, creating it if needed. -/
def System.createStaging (system : System S B) : System S B :=
  { system with stagingFile := some [] }

/-- Write units from the start of the staging file; what lies beyond them stays. -/
def System.writeStaging (units : List B) (system : System S B) : System S B :=
  { system with stagingFile := system.stagingFile.map (Overlay.lay units) }

/-- The effect of a child process that succeeds. -/
def Command.effect (system : System S B) : Command → System S B
  | .disableScx => { system with scx := ⟨false, false⟩ }
  | .stopScx => { system with scx := { system.scx with active := false } }
  | .enableScxLoader => { system with scxLoader := { system.scxLoader with enabled := true } }
  | .copyConfig => { system with configFile := system.stagingFile.or system.configFile }

/-- Change the system around an instance. -/
def App.mapSystem (change : System S B → System S B) (app : App S B) : App S B :=
  { app with system := change app.system }

/-- Change the configuration in memory. -/
def App.mapConfig (change : Config S → Config S) (app : App S B) : App S B :=
  { app with config := change app.config }

/-- An unsuccessful exit is only printed, and the command is taken to have changed nothing then; a command
that cannot be spawned is a panic. -/
def spawnChildProcess (result : Spawned) (command : Command) : LibCall S B Unit :=
  match result with
  | .notSpawned => do
    Action.perform ⟨.command command, false⟩ id
    Action.panics "failed to execute child process"
  | .exited true => Action.perform ⟨.command command, true⟩ (App.mapSystem command.effect)
  | .exited false => Action.perform ⟨.command command, false⟩ id

/-- One request to the daemon over D-Bus. One that fails is taken to have changed nothing. -/
def callLoader (answer : Except Error Unit) (step : Step S) (effect : Daemon S → Daemon S) :
    LibCall S B Unit :=
  match answer with
  | .ok _ => Action.perform ⟨step, true⟩ (App.mapSystem fun system =>
      { system with daemon := effect system.daemon })
  | .error error => do
    Action.perform ⟨step, false⟩ id
    Action.fail error

def disableScxService (o : Outcomes) : LibCall S B Unit := do
  let app ← Action.get
  if isScxServiceEnabled o app.system then
    spawnChildProcess o.scxService .disableScx
  else if isScxServiceActive o app.system then
    spawnChildProcess o.scxService .stopScx
  else
    pure ()

def convertFromRawMode (rawMode : UInt32) : Except Error SchedMode :=
  if rawMode = 0 then .ok .auto
  else if rawMode = 1 then .ok .gaming
  else if rawMode = 2 then .ok .powerSave
  else if rawMode = 3 then .ok .lowLatency
  else if rawMode = 4 then .ok .server
  else .error ⟨["SchedMode with such value doesn't exist"]⟩

/-- The configuration at a path, or the default one if there is no such file. -/
def initConfig (L : ScxLoader S B) : Option (List B) → Except Error (Config S)
  | some content => L.parseConfigFile content
  | none => .ok L.getDefaultConfig

def initConfigFile (L : ScxLoader S B) (file : Option (List B)) : Except Error (Config S) :=
  (initConfig L file).mapError (Error.context "Failed to initialize config")

def getScxFlagsForMode (L : ScxLoader S B) (config : Config S) (supportedSched : String)
    (schedMode : UInt32) : Except Error (List String) := do
  let scxSched ← L.parse supportedSched
  let schedMode ← convertFromRawMode schedMode
  return L.getScxFlagsForMode config scxSched schedMode

def setScxSchedWithMode (scxSched : S) (schedMode : SchedMode) (config : Config S) : Config S :=
  { config with defaultSched := some scxSched, defaultMode := some schedMode }

/-- Store a list in the entry's field for a mode. -/
def SchedConfig.set (entry : SchedConfig) (mode : SchedMode) (args : List String) : SchedConfig :=
  match mode with
  | .gaming => { entry with gamingMode := some args }
  | .lowLatency => { entry with lowlatencyMode := some args }
  | .powerSave => { entry with powersaveMode := some args }
  | .server => { entry with serverMode := some args }
  | .auto => { entry with autoMode := some args }

def setScxArgs (L : ScxLoader S B) (scxSched : S) (schedMode : SchedMode) (schedArgs : List String)
    (config : Config S) : Config S :=
  let scxName := L.intoStr scxSched
  let sched := (config.scheds.lookup scxName).getD {}
  { config with scheds := config.scheds.insert scxName (sched.set schedMode schedArgs) }

def createFile (o : Outcomes) : LibCall S B Unit :=
  match o.create with
  | .ok _ => Action.perform ⟨.createStaging, true⟩ (App.mapSystem System.createStaging)
  | .error error => do
    Action.perform ⟨.createStaging, false⟩ id
    Action.fail error

def writeAll (o : Outcomes) (content : List B) : LibCall S B Unit :=
  match o.writeAll with
  | .done => Action.perform ⟨.writeStaging, true⟩ (App.mapSystem (System.writeStaging content))
  | .failed error units => do
    Action.perform ⟨.writeStaging, false⟩ (App.mapSystem (System.writeStaging (content.take units)))
    Action.fail error

/-- Serialise the configuration in memory into the staging file. -/
def writeConfigFile (L : ScxLoader S B) (o : Outcomes) : LibCall S B Unit := do
  let app ← Action.get
  let tomlContent ← Action.lift (L.toToml app.config)
  createFile o
  writeAll o tomlContent

def switchSchedulerWithArgs (o : Outcomes) (scxSched : S) (scxArgs : List String) :
    LibCall S B Unit :=
  callLoader o.switch (.switchSchedulerWithArgs scxSched scxArgs) fun daemon =>
    { daemon with running := some (scxSched, scxArgs) }

/-- The daemon resolves the mode on the configuration it has read itself. -/
def switchSchedulerWithMode (L : ScxLoader S B) (o : Outcomes) (scxSched : S) (scxMode : SchedMode) :
    LibCall S B Unit :=
  callLoader o.switch (.switchScheduler scxSched scxMode) fun daemon =>
    { daemon with running := some (scxSched, L.getScxFlagsForMode daemon.config scxSched scxMode) }

/-- The pieces of a text between the occurrences of a character. -/
def splitChar (sep : Char) (text : String) : List String :=
  (text.toList.splitOn sep).map String.ofList

/-- The argument list built from the text of the flags field. -/
def schedArgsOf (extraFlags : String) : List String :=
  if extraFlags = "" then [] else splitChar ' ' extraFlags

def applySchedulerChange (L : ScxLoader S B) (o : Outcomes) (scxName : String) (scxMode : UInt32)
    (extraFlags : String) : LibCall S B Unit := do
  disableScxService o
  let app ← Action.get
  let defaultArgs ← Action.lift (getScxFlagsForMode L app.config scxName scxMode)
  let scxSched ← Action.lift (L.parse scxName)
  let scxMode ← Action.lift (convertFromRawMode scxMode)
  let schedArgs := schedArgsOf extraFlags
  (if schedArgs = defaultArgs then
    (switchSchedulerWithMode L o scxSched scxMode).swallow
  else
    (switchSchedulerWithArgs o scxSched schedArgs).swallow)
  let app ← Action.get
  Action.when (!isScxLoaderServiceEnabled o app.system)
    (spawnChildProcess o.enableLoader .enableScxLoader)
  Action.modify (App.mapConfig (setScxSchedWithMode scxSched scxMode))
  Action.when (schedArgs ≠ defaultArgs)
    (Action.modify (App.mapConfig (setScxArgs L scxSched scxMode schedArgs)))
  (writeConfigFile L o).mapError (Error.context "Cannot write scx_loader config to file")
  spawnChildProcess o.copy .copyConfig

def disableScxSched (L : ScxLoader S B) (o : Outcomes) : LibCall S B Unit := do
  Action.modify (App.mapConfig fun config => { config with defaultSched := none })
  (writeConfigFile L o).mapError (Error.context "Failed to edit config file")
  callLoader o.stop .stopScheduler fun daemon => { daemon with running := none }

def disableScheduler (L : ScxLoader S B) (o : Outcomes) : LibCall S B Unit := do
  (disableScxSched L o).mapError (Error.context "Cannot disable scx_loader")
  spawnChildProcess o.copy .copyConfig

end ScxManager
