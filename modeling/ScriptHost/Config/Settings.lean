import ScriptHost.Config.Document
import ScriptHost.Files

/-!
# Runtime settings

The settings of an interpreter: where printed lines go, how many bytes its heap may
count, and which host types it exposes under which names. Names that are not
settings are refused. The runtime section can also be given by its values in order,
and a choice by a table with the choice as its one name.
-/

namespace ScriptHost.Config

/-- Where printed lines go. -/
inductive PrintStream where
  | stdout | stderr | log
deriving DecidableEq, Repr

/-- The name of a target in answers. -/
def PrintStream.label : PrintStream → String
  | .stdout => "Stdout"
  | .stderr => "Stderr"
  | .log => "Log"

/-- The target of a name in settings. -/
def PrintStream.ofName? : String → Option PrintStream
  | "stdout" => some .stdout
  | "stderr" => some .stderr
  | "log" => some .log
  | _ => none

/-- Settings. -/
structure Settings where
  print : PrintStream := .stdout
  maxHeapBytes : Option UInt64 := none
  /-- Full names of host types under global names, in order of these. -/
  packages : List (String × String) := []
deriving DecidableEq

/-- Why settings cannot be had. -/
inductive SettingsError where
  | unreadable (path : String) (fault : FileFault)
  /-- The text is not well formed, or holds something else than settings. -/
  | invalid (origin : String)
deriving DecidableEq, Repr

/-- The wording of an unreadable file. -/
def SettingsError.message : SettingsError → String
  | .unreadable path fault => "failed to read config file " ++ path ++ ": " ++ fault.message
  | .invalid origin => "invalid config in " ++ origin

/-- Whether an item is empty where a choice has nothing more to say. -/
def isEmptyItem : Item → Bool
  | .array items => items.isEmpty
  | .tables items => items.isEmpty
  | .table _ entries => entries.isEmpty
  | _ => false

/-- The target that an item chooses. -/
def printStream? : Item → Option PrintStream
  | .text name => PrintStream.ofName? name
  | .table _ [(name, content)] =>
    if isEmptyItem content then PrintStream.ofName? name else none
  | _ => none

/-- The number of bytes that an item gives. -/
def byteLimit? : Item → Option UInt64
  | .integer value => if 0 ≤ value then some (UInt64.ofNat value.toNat) else none
  | _ => none

/-- Settings with those of one name in the runtime section. -/
def addRuntime? (settings : Settings) : String × Item → Option Settings
  | ("print", item) => do return { settings with print := ← printStream? item }
  | ("max_heap_bytes", item) => do return { settings with maxHeapBytes := ← byteLimit? item }
  | _ => none

/-- The names of the runtime section in order. -/
def runtimeNames : List String := ["print", "max_heap_bytes"]

/-- Settings with those of a runtime section. -/
def runtime? (settings : Settings) : Item → Option Settings
  | .table _ entries => entries.foldlM addRuntime? settings
  | .array items => (runtimeNames.zip items).foldlM addRuntime? settings
  | .tables items => (runtimeNames.zip items).foldlM addRuntime? settings
  | _ => none

/-- The one name of the table that a date or time is read as. -/
def momentName : String := "$__toml_private_datetime"

/-- The packages of a section. -/
def packages? : Item → Option (List (String × String))
  | .moment moment => some [(momentName, moment.text)]
  | .table _ entries => do
    let packages ← entries.mapM fun (name, item) =>
      match item with
      | .text fullName => some (name, fullName)
      | _ => none
    return packages.mergeSort fun left right => left.1 ≤ right.1
  | _ => none

/-- Settings with those of one section. -/
def addSection? (settings : Settings) : String × Item → Option Settings
  | ("runtime", item) => runtime? settings item
  | ("packages", item) => do return { settings with packages := ← packages? item }
  | _ => none

/-- The settings of a text. -/
def Settings.parse? (text : String) : Option Settings := do
  (← document? text.toList).entries.foldlM addSection? {}

/-- How errors name settings that come from no file. -/
def inlineOrigin : String := "<inline>"

/-- The settings of a text that comes from somewhere. -/
def Settings.parse (text : String) (origin : String) : Except SettingsError Settings :=
  match Settings.parse? text with
  | some settings => .ok settings
  | none => .error (.invalid origin)

/-- The settings of a file. -/
def Settings.load (files : Files) (path : String) : Except SettingsError Settings :=
  match files.text path with
  | .ok text => Settings.parse text path
  | .error fault => .error (.unreadable path fault)

end ScriptHost.Config
