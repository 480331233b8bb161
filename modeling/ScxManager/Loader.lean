import Mathlib.Data.Finmap

/-!
# What the library uses of the `scx_loader` crate

The configuration record is the one the library reads and writes field by field. The crate's
own functions are not part of this repository: they are parameters, bundled with the few
facts about them that the library relies on. File contents are lists over an arbitrary type
of units, since only the crate reads or writes inside them.
-/

namespace ScxManager

/-- An error with its contexts, the outermost one first. -/
structure Error where
  chain : List String
  deriving DecidableEq

/-- Put a context in front of an error. -/
def Error.context (message : String) (error : Error) : Error := ⟨message :: error.chain⟩

/-- The tuning modes, in the order of their raw values. -/
inductive SchedMode where
  | auto
  | gaming
  | powerSave
  | lowLatency
  | server
  deriving DecidableEq

/-- The raw value under which a mode crosses the language bridge. -/
def SchedMode.toRaw : SchedMode → UInt32
  | .auto => 0
  | .gaming => 1
  | .powerSave => 2
  | .lowLatency => 3
  | .server => 4

/-- The per-mode argument lists stored for one scheduler; the default entry stores none. -/
structure SchedConfig where
  autoMode : Option (List String) := none
  gamingMode : Option (List String) := none
  lowlatencyMode : Option (List String) := none
  powersaveMode : Option (List String) := none
  serverMode : Option (List String) := none
  deriving DecidableEq

/-- The list stored for a mode. -/
def SchedConfig.get (entry : SchedConfig) : SchedMode → Option (List String)
  | .auto => entry.autoMode
  | .gaming => entry.gamingMode
  | .powerSave => entry.powersaveMode
  | .lowLatency => entry.lowlatencyMode
  | .server => entry.serverMode

/-- The default entry stores no list for any mode. -/
@[simp] theorem SchedConfig.get_default (mode : SchedMode) : ({} : SchedConfig).get mode = none := by
  cases mode <;> rfl

/-- The loader configuration: the scheduler and mode started by default, and per-scheduler lists. -/
structure Config (S : Type) where
  defaultSched : Option S
  defaultMode : Option SchedMode
  scheds : Finmap fun _ : String => SchedConfig
  deriving DecidableEq

/-- The list a configuration stores under a scheduler name and a mode. -/
def Config.stored {S : Type} (config : Config S) (name : String) (mode : SchedMode) :
    Option (List String) :=
  (config.scheds.lookup name).bind fun entry => entry.get mode

/-- The crate's functions over supported schedulers `S` and file units `B`.

A list stored for a scheduler and mode is used as it is, and otherwise a list that does not
depend on the configuration; schedulers have different names; and reading back a serialised
configuration gives that configuration. -/
structure ScxLoader (S B : Type) where
  /-- The name of a scheduler, under which its lists are stored. -/
  intoStr : S → String
  /-- The scheduler of that name, if the crate supports it. -/
  parse : String → Except Error S
  defaultFlags : S → SchedMode → List String
  getScxFlagsForMode : Config S → S → SchedMode → List String
  getDefaultConfig : Config S
  parseConfigFile : List B → Except Error (Config S)
  toToml : Config S → Except Error (List B)
  intoStr_injective : Function.Injective intoStr
  getScxFlagsForMode_eq : ∀ config sched mode,
    getScxFlagsForMode config sched mode =
      (config.stored (intoStr sched) mode).getD (defaultFlags sched mode)
  parseConfigFile_toToml : ∀ config toml, toToml config = .ok toml → parseConfigFile toml = .ok config

/-- Two of the supported schedulers, enough to evaluate the model on. -/
inductive SampleSched where
  | bpfland
  | rusty
  deriving DecidableEq

/-- The names of the two schedulers. -/
def SampleSched.intoStr : SampleSched → String
  | .bpfland => "scx_bpfland"
  | .rusty => "scx_rusty"

/-- A loader of the two schedulers without built-in flags. A document is one unit of a file, so a
file holds a configuration if it holds exactly one unit. -/
def sampleLoader : ScxLoader SampleSched (Config SampleSched) where
  intoStr := SampleSched.intoStr
  parse name :=
    if name = "scx_bpfland" then .ok .bpfland
    else if name = "scx_rusty" then .ok .rusty
    else .error ⟨[name ++ " is not supported"]⟩
  defaultFlags _ _ := []
  getScxFlagsForMode config sched mode := (config.stored sched.intoStr mode).getD []
  getDefaultConfig := ⟨none, none, ∅⟩
  parseConfigFile
    | [config] => .ok config
    | _ => .error ⟨["The config file is empty!"]⟩
  toToml config := .ok [config]
  intoStr_injective := by
    intro sched sched'
    cases sched <;> cases sched' <;> decide
  getScxFlagsForMode_eq _ _ _ := rfl
  parseConfigFile_toToml := by
    intro config toml h
    cases h
    rfl

end ScxManager
