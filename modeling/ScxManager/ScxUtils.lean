import ScxManager.Bridge

/-!
# The wrappers the window calls

Each wrapper forwards to the library. An error comes back as an exception, which the wrapper
prints and turns into an empty or negative result. A panic does not come back at all: the
language bridge aborts the process.
-/

namespace ScxManager

open Actions

variable {S B : Type}

/-- The result of a wrapper that reports success or failure, unless the process aborts. -/
def caught : Outcome Error Unit → Option Bool
  | .ok _ => some true
  | .err _ => some false
  | .panic _ => none

/-- Make a library call through its wrapper. -/
def wrapped (call : LibCall S B Unit) (app : App S B) : Option (Bool × App S B) :=
  let ended := call.run app
  (caught ended.outcome).map fun success => (success, ended.state)

def Config.initConfig (L : ScxLoader S B) (file : Option (List B)) : Option (Config S) :=
  (initConfigFile L file).toOption

/-- Only a computation without an error has a value. -/
theorem toOption_eq_some {A : Type} {result : Except Error A} {value : A} :
    result.toOption = some value ↔ result = .ok value := by
  cases result with
  | error error => simp [Except.toOption]
  | ok value' => simp [Except.toOption]

/-- The wrapper only loses the error. -/
theorem Config.initConfig_eq (L : ScxLoader S B) (file : Option (List B)) :
    Config.initConfig L file = (ScxManager.initConfig L file).toOption := by
  unfold Config.initConfig initConfigFile
  cases ScxManager.initConfig L file <;> rfl

/-- A configuration that the wrapper gives is the one at the path. -/
theorem Config.initConfig_eq_some {L : ScxLoader S B} {file : Option (List B)} {config : Config S} :
    Config.initConfig L file = some config ↔ ScxManager.initConfig L file = .ok config := by
  rw [Config.initConfig_eq, toOption_eq_some]

/-- The arguments as the window gets them. The conversion to its strings keeps every text but for a byte
order mark at the start, which no argument is taken to have. -/
def Config.scxFlagsForMode (L : ScxLoader S B) (config : Config S) (scxSched : String)
    (schedMode : SchedMode) : Option (List String) :=
  (getScxFlagsForMode L config scxSched schedMode.toRaw).toOption

def Config.applySchedulerChange (L : ScxLoader S B) (o : Outcomes) (scxSched : String)
    (schedMode : SchedMode) (extraFlags : String) (app : App S B) : Option (Bool × App S B) :=
  wrapped (ScxManager.applySchedulerChange L o scxSched schedMode.toRaw extraFlags) app

def Config.disableScheduler (L : ScxLoader S B) (o : Outcomes) (app : App S B) :
    Option (Bool × App S B) :=
  wrapped (ScxManager.disableScheduler L o) app

/-- Values without a mode are read as the first one. -/
def getScxModeFromRaw (rawMode : UInt8) : SchedMode :=
  if rawMode = 0 then .auto
  else if rawMode = 1 then .gaming
  else if rawMode = 2 then .powerSave
  else if rawMode = 3 then .lowLatency
  else if rawMode = 4 then .server
  else .auto

/-- The raw value of a mode is accepted and gives the mode back. -/
@[simp] theorem convertFromRawMode_toRaw (mode : SchedMode) :
    convertFromRawMode mode.toRaw = .ok mode := by
  cases mode <;> rfl

end ScxManager
