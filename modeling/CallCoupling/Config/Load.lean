import CallCoupling.Config.Basic
import CallCoupling.Config.Flags
import CallCoupling.Config.Toml

/-!
# Loading the configuration

Four layers of settings lie over each other: the built-in ones, those of the file, those of the environment
and those of the command line.  For each key the topmost layer that has it wins.  A flag that the user leaves
alone is in the top layer only if no other layer knows its name.
-/

set_option autoImplicit false

namespace CallCoupling.Config

/-- The parts of a dotted name. -/
def parts (name : String) : List String := (Text.splitOn '.' name.toList).map String.ofList

/-- The key that a variable of the environment sets, if it sets one. -/
def environmentKey? (name : String) : Option String :=
  match Text.dropStart? environmentStart.toList name.toList with
  | none => none
  | some rest =>
    let key := (Text.lower (String.ofList rest)).map fun c => if c = '_' then '-' else c
    if key = "" then none else some key

/-- Values under dotted names as one layer.  A value for a name hides values for names below it. -/
def layer (values : List (String × Setting)) : Setting :=
  let deepest := values.mergeSort fun a b => (parts b.1).length ≤ (parts a.1).length
  deepest.foldl (fun base (key, v) => (Setting.nested (parts key) v).covering base) (.group [])

/-- The layer of the environment. -/
def environment (vars : List (String × String)) : Setting :=
  layer (vars.filterMap fun (name, value) => (environmentKey? name).map fun key => (key, .text value))

/-- The layer of the command line above the settings `below`. -/
def commandLine (flags : Flags.Parsed) (below : Setting) : Setting :=
  layer (flags.values.reverse ++ flags.untouched.filter fun (name, _) => !below.holds name)

/-- The field of a key, read by `f`. -/
def field {α : Type} (f : Setting → Option α) (s : Setting) (key : String) : Except ConfigError α :=
  match s with
  | .group fields =>
    match (Setting.find? fields key).bind f with
    | some a => .ok a
    | none => .error (.misfit key)
  | _ => .error (.misfit key)

/-- The configuration that the settings make. -/
def ofSettings (s : Setting) : Except ConfigError Config := do
  pure
    { source := ← field Setting.text? s "source"
      output := ← field Setting.text? s "output"
      graphOutput := ← field Setting.text? s "graph-output"
      outOfSet := ← field Setting.text? s "out-of-set"
      top := ← field Setting.int? s "top"
      debug := ← field Setting.bool? s "debug"
      web := ← field Setting.bool? s "web"
      port := ← field Setting.int? s "port"
      watch := ← field Setting.bool? s "watch"
      openBrowser := ← field Setting.bool? s "open"
      verbosity := ← field Setting.text? s "verbosity"
      verbose := ← field Setting.int? s "verbose"
      logFormat := ← field Setting.text? s "log-format" }

/-- The layer of the file, empty if there is no file. -/
def fileLayer (file : Option String) : Except ConfigError Setting :=
  match file with
  | none => .ok (.group [])
  | some text =>
    match Toml.parse? text with
    | some s => .ok s
    | none => .error .brokenFile

/-- The configuration of a file, the environment and the flags that the user has set. -/
def load (file : Option String) (vars : List (String × String)) (flags : Flags.Parsed) :
    Except ConfigError Config := do
  let fromFile ← fileLayer file
  let below := (environment vars).covering (fromFile.covering standard.settings)
  let config ← ofSettings ((commandLine flags below).covering below)
  config.validate
  pure config

end CallCoupling.Config
