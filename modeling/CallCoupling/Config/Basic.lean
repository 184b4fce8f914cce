import CallCoupling.Config.Setting
import CallCoupling.Coupling.Build

/-!
# The configuration

`Config` holds all that a user can set.  `Config.validate` checks what the types of the fields do not say.
-/

set_option autoImplicit false

namespace CallCoupling

/-- All that a user can set. -/
structure Config where
  /-- The file with the model. -/
  source : String := ""
  /-- The file for the report, empty to skip it. -/
  output : String := ""
  /-- The file for the call graph, empty to skip it. -/
  graphOutput : String := ""
  /-- What happens to calls to types outside the model. -/
  outOfSet : String := ""
  /-- The number of strongest couplings listed, zero for all. -/
  top : Int := 0
  debug : Bool := false
  web : Bool := false
  port : Int := 0
  watch : Bool := false
  openBrowser : Bool := false
  verbosity : String := ""
  verbose : Int := 0
  logFormat : String := ""
deriving DecidableEq, Repr, Inhabited

/-- Why there is no configuration. -/
inductive ConfigError where
  /-- The file is no settings document. -/
  | brokenFile
  /-- A setting does not fit its field. -/
  | misfit (key : String)
  | policy (e : PolicyError)
  | top (n : Int)
  | port (n : Int)
  | logFormat (s : String)
deriving DecidableEq, Repr

namespace Config

/-- The name of the optional file with settings. -/
def fileName : String := "coupling-analyzer.toml"

/-- What the variables of the environment that hold settings start with. -/
def environmentStart : String := "COUPLING_ANALYZER_"

end Config

namespace ConfigError

/-- The error as seen by callers. -/
def failure : ConfigError → Failure
  | .brokenFile => .other ("failed to load " ++ Config.fileName ++ ": the text is no settings document")
  | .misfit key => .other ("failed to unmarshal config: " ++ Text.quoted key ++ " does not fit")
  | .policy e => e.failure
  | .top n => .other ("invalid top " ++ Integer.text n)
  | .port n => .other ("invalid port " ++ Integer.text n)
  | .logFormat s =>
    .other ("invalid log format " ++ Text.quoted s ++ " (want compact or json)")

end ConfigError

namespace Config

/-- The built-in settings. -/
def standard : Config :=
  { output := "results.md"
    graphOutput := "class-call-output.json"
    outOfSet := Policy.drop.name
    top := 10
    port := 8080
    logFormat := "compact" }

/-- A configuration as a layer of settings. -/
def settings (c : Config) : Setting :=
  .group
    [("source", .text c.source), ("output", .text c.output), ("graph-output", .text c.graphOutput),
      ("out-of-set", .text c.outOfSet), ("top", .int c.top), ("debug", .bool c.debug),
      ("web", .bool c.web), ("port", .int c.port), ("watch", .bool c.watch),
      ("open", .bool c.openBrowser), ("verbosity", .text c.verbosity), ("verbose", .int c.verbose),
      ("log-format", .text c.logFormat)]

/-- The policy for calls to types outside the model. -/
def policy (c : Config) : Except PolicyError Policy := Policy.parse c.outOfSet

/-- Check a configuration: the policy first, then the number of couplings, the port and the format of the
log. -/
def validate (c : Config) : Except ConfigError Unit :=
  match c.policy with
  | .error e => .error (.policy e)
  | .ok _ =>
    if c.top < 0 then .error (.top c.top)
    else if c.port ≤ 0 || c.port > 65535 then .error (.port c.port)
    else if ["", "compact", "json"].contains (Text.lower c.logFormat) then .ok ()
    else .error (.logFormat c.logFormat)

end Config

end CallCoupling
