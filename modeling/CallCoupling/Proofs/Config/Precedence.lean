import Mathlib.Tactic.FinCases
import CallCoupling.CommandLine
import CallCoupling.Proofs.Config.Environment
import CallCoupling.Proofs.Config.Flags
import CallCoupling.Proofs.Config.Toml

/-!
# Precedence of the layers

What the user gives is a file, variables of the environment and flags (`Config.Given`).  A field of the
configuration is the decoded setting of its key, and that setting comes from the topmost layer that has the
key (`Config.Given.chosen`): the command line, the environment, the file, the built-in settings.

The layers do not mix, since only groups merge and no layer but that of the file can hold one.  So a key of
the settings that `Config.load` decodes is looked up in one layer after the other (`Config.Given.Regular.at?_laid`).
-/

set_option autoImplicit false

namespace CallCoupling.Config

open Setting

/-! ## 1. Decoding -/

/-- Every field of the configuration is the decoded setting of its key. -/
structure Reads (c : Config) (setting : String → Option Setting) : Prop where
  source : (setting "source").bind text? = some c.source
  output : (setting "output").bind text? = some c.output
  graphOutput : (setting "graph-output").bind text? = some c.graphOutput
  outOfSet : (setting "out-of-set").bind text? = some c.outOfSet
  top : (setting "top").bind int? = some c.top
  debug : (setting "debug").bind bool? = some c.debug
  web : (setting "web").bind bool? = some c.web
  port : (setting "port").bind int? = some c.port
  watch : (setting "watch").bind bool? = some c.watch
  openBrowser : (setting "open").bind bool? = some c.openBrowser
  verbosity : (setting "verbosity").bind text? = some c.verbosity
  verbose : (setting "verbose").bind int? = some c.verbose
  logFormat : (setting "log-format").bind text? = some c.logFormat

theorem Reads.congr {c : Config} {setting setting' : String → Option Setting}
    (h : ∀ key ∈ keys, setting key = setting' key) : c.Reads setting ↔ c.Reads setting' := by
  constructor
  · rintro ⟨⟩
    constructor <;> rw [← h] <;> first | assumption | decide
  · rintro ⟨⟩
    constructor <;> rw [h] <;> first | assumption | decide

/-- A setting decoded to the kind of value that another one is. -/
def decodeLike : Setting → Option Setting → Option Setting
  | .text _, v => (v.bind text?).map .text
  | .int _, v => (v.bind int?).map .int
  | .bool _, v => (v.bind bool?).map .bool
  | _, _ => none

/-- The field of a key is the setting of the key, decoded to the kind of the built-in setting. -/
theorem Reads.at?_settings {c : Config} {setting : String → Option Setting} (h : c.Reads setting)
    (key : String) :
    c.settings.at? key = (standard.settings.at? key).bind fun v => decodeLike v (setting key) := by
  by_cases hkey : key ∈ keys
  · simp only [keys, List.mem_cons, List.not_mem_nil, or_false] at hkey
    rcases hkey with rfl | rfl | rfl | rfl | rfl | rfl | rfl | rfl | rfl | rfl | rfl | rfl | rfl
    all_goals simp [settings, find?_cons, decodeLike, -Option.map_bind, h.source, h.output, h.graphOutput, h.outOfSet,
      h.top, h.debug, h.web, h.port, h.watch, h.openBrowser, h.verbosity, h.verbose, h.logFormat]
  · have hnone (c : Config) : c.settings.at? key = none := find?_eq_none.2 hkey
    rw [hnone, hnone, Option.bind_none]

theorem field_eq_ok {α : Type} {f : Setting → Option α} {s : Setting} {key : String} {a : α} :
    field f s key = .ok a ↔ (s.at? key).bind f = some a := by
  cases s with
  | group fields =>
    simp only [field, at?_group]
    cases (find? fields key).bind f <;> simp
  | _ => simp [field, at?]

theorem bind_eq_ok {ε α β : Type} {x : Except ε α} {k : α → Except ε β} {b : β} :
    (x >>= k) = .ok b ↔ ∃ a, x = .ok a ∧ k a = .ok b := by
  cases x <;> simp [bind, Except.bind]

theorem ofSettings_eq_ok {s : Setting} {c : Config} : ofSettings s = .ok c ↔ c.Reads s.at? := by
  simp only [ofSettings, bind_eq_ok, field_eq_ok, pure, Except.pure, Except.ok.injEq]
  constructor
  · rintro ⟨_, source, _, output, _, graphOutput, _, outOfSet, _, top, _, debug, _, web, _, port, _, watch, _,
      openBrowser, _, verbosity, _, verbose, _, logFormat, rfl⟩
    exact { source, output, graphOutput, outOfSet, top, debug, web, port, watch, openBrowser, verbosity,
            verbose, logFormat }
  · intro h
    exact ⟨_, h.source, _, h.output, _, h.graphOutput, _, h.outOfSet, _, h.top, _, h.debug, _, h.web, _, h.port,
      _, h.watch, _, h.openBrowser, _, h.verbosity, _, h.verbose, _, h.logFormat, rfl⟩

/-- The values fit together: the policy has a name that stands for one, the numbers are in their ranges and
the log has a format. -/
structure Admissible (c : Config) : Prop where
  policy : ∃ p, Policy.parse c.outOfSet = .ok p
  top : 0 ≤ c.top
  port : 1 ≤ c.port ∧ c.port ≤ 65535
  logFormat : ∃ f, Log.Format.named c.logFormat = .ok f

/-- The formats checked are those that the log takes. -/
theorem named_eq_ok {name : String} :
    (∃ f, Log.Format.named name = .ok f) ↔ ["", "compact", "json"].contains (Text.lower name) := by
  simp only [Log.Format.named]
  split <;> simp_all

theorem validate_eq_ok {c : Config} : c.validate = .ok () ↔ c.Admissible := by
  unfold validate policy
  cases hp : Policy.parse c.outOfSet with
  | error e =>
    refine ⟨by simp, fun h => ?_⟩
    obtain ⟨p, hok⟩ := h.policy
    simp [hp] at hok
  | ok p =>
    simp only
    constructor
    · intro h
      split at h
      · cases h
      · split at h
        · cases h
        · split at h
          · next htop hport hformat =>
            simp only [Bool.or_eq_true, decide_eq_true_eq, not_or] at hport
            exact ⟨⟨p, hp⟩, by omega, by omega, named_eq_ok.2 hformat⟩
          · cases h
    · rintro ⟨-, htop, hport, hformat⟩
      have hport' : ¬(decide (c.port ≤ 0) || decide (c.port > 65535)) = true := by simp; omega
      rw [if_neg (by omega), if_neg hport', if_pos (named_eq_ok.1 hformat)]

/-! ## 2. What the user gives -/

/-- What the user gives: the text of the file, if there is one, the variables of the environment and the
flags. -/
structure Given where
  file : Option String := none
  vars : List (String × String) := []
  flags : Flags.Parsed := {}

theorem isLayer_settings (c : Config) : c.settings.IsLayer := by
  have hkeys : keys.Nodup := by decide
  exact hkeys

theorem plain_of_settings {c : Config} {key : String} {v : Setting} (h : c.settings.at? key = some v) :
    v.Plain := by
  have hmem := mem_of_find? h
  fin_cases hmem <;> trivial

theorem isLayer_fileLayer {file : Option String} {layer : Setting} (h : fileLayer file = .ok layer) :
    layer.IsLayer := by
  unfold fileLayer at h
  split at h
  · cases h
    simp [IsLayer]
  · split at h
    · next hparse =>
      cases h
      exact Toml.isLayer_parse? hparse
    · cases h

namespace Given

/-- The setting of a key on the command line, the latest one if its flag is repeated. -/
def onCommandLine (g : Given) (key : String) : Option Setting := find? g.flags.values key

/-- The setting of a key in the environment, which may be the empty text. -/
def inEnvironment (g : Given) (key : String) : Option Setting :=
  (g.vars.lookup (variableName key)).map .text

/-- The setting of a key in the file. -/
def inFile (g : Given) (key : String) : Option Setting :=
  match fileLayer g.file with
  | .ok layer => layer.at? key
  | .error _ => none

/-- The setting of a key: that of the topmost layer that has the key. -/
def chosen (g : Given) (key : String) : Option Setting :=
  (g.onCommandLine key).or
    ((g.inEnvironment key).or ((g.inFile key).or (standard.settings.at? key)))

/-- The flags are those of a command line and the environment is orderly. -/
structure Regular (g : Given) : Prop where
  parsed : ∃ args, Flags.parse CommandLine.flags args = .ok g.flags
  orderly : Orderly g.vars

variable {g : Given} {fromFile : Setting}

theorem Regular.flat_values (h : g.Regular) : Flat g.flags.values.reverse := by
  obtain ⟨args, hargs⟩ := h.parsed
  intro name v hmem
  obtain ⟨f, hf, rfl, hv⟩ := (Flags.sound_of_parse hargs).1 name v (List.mem_reverse.1 hmem)
  have hnames : ∀ f ∈ CommandLine.flags, '.' ∉ f.name.toList := by decide
  exact ⟨hnames f hf, hv.plain⟩

/-- The settings under the command line. -/
def below (g : Given) (fromFile : Setting) : Setting :=
  (environment g.vars).covering (fromFile.covering standard.settings)

/-- All settings, laid over each other. -/
def laid (g : Given) (fromFile : Setting) : Setting :=
  (commandLine g.flags (g.below fromFile)).covering (g.below fromFile)

theorem Regular.isLayer_below (h : g.Regular) (hfile : fromFile.IsLayer) : (g.below fromFile).IsLayer :=
  (isLayer_environment h.orderly).covering (hfile.covering (isLayer_settings _))

theorem Regular.at?_below (h : g.Regular) (hfile : fromFile.IsLayer) (key : String) :
    (g.below fromFile).at? key =
      ((environment g.vars).at? key).or ((fromFile.at? key).or (standard.settings.at? key)) := by
  have hstandard := isLayer_settings standard
  rw [below, (isLayer_environment h.orderly).at?_covering (hfile.covering hstandard),
    hfile.at?_covering hstandard]
  -- Neither a built-in setting nor one from a variable is a group, so nothing merges.
  · exact fun v w _ hw => .inr (plain_of_settings hw)
  · exact fun v w hv _ => .inl (plain_of_layer (flat_settingsOf h.orderly) hv)

/-- The layer of the command line has the flags that are set, and none that is left alone. -/
theorem Regular.commandLine_eq (h : g.Regular) (hfile : fromFile.IsLayer) :
    commandLine g.flags (g.below fromFile) = layer g.flags.values.reverse := by
  obtain ⟨args, hargs⟩ := h.parsed
  have hkeys : ∀ f ∈ CommandLine.flags, (standard.settings.at? f.name).isSome := by decide
  -- The built-in settings alone know every flag by its name.
  have hheld : ∀ q ∈ g.flags.untouched, (g.below fromFile).holds q.1 := by
    intro q hq
    obtain ⟨f, hf, hname⟩ := (Flags.sound_of_parse hargs).2 q hq
    have hsome : ((g.below fromFile).at? q.1).isSome := by
      rw [h.at?_below hfile, ← hname]
      simp [Option.isSome_or, hkeys f hf]
    obtain ⟨v, hv⟩ := Option.isSome_iff_exists.1 hsome
    exact holds_of_at? hv
  rw [commandLine, List.filter_eq_nil_iff.2, List.append_nil]
  intro q hq
  simp [hheld q hq]

/-- A key of the settings laid over each other has the setting chosen for it. -/
theorem Regular.at?_laid (h : g.Regular) (hfile : fileLayer g.file = .ok fromFile) {key : String}
    (hkey : key ∈ keys) : (g.laid fromFile).at? key = g.chosen key := by
  have hlayer := isLayer_fileLayer hfile
  rw [laid, h.commandLine_eq hlayer, (isLayer_layer h.flat_values).at?_covering (h.isLayer_below hlayer),
    at?_layer h.flat_values, List.reverse_reverse, h.at?_below hlayer, at?_environment h.orderly hkey]
  · simp [chosen, onCommandLine, inEnvironment, inFile, hfile]
  · exact fun v w hv _ => .inl (plain_of_layer h.flat_values hv)

theorem load_eq_ok {c : Config} :
    load g.file g.vars g.flags = .ok c ↔
      ∃ fromFile, fileLayer g.file = .ok fromFile ∧ c.Reads (g.laid fromFile).at? ∧ c.Admissible := by
  simp only [load, bind_eq_ok, ofSettings_eq_ok, pure, Except.pure, Except.ok.injEq]
  constructor
  · rintro ⟨fromFile, hfile, _, hreads, _, hvalid, rfl⟩
    exact ⟨fromFile, hfile, hreads, validate_eq_ok.1 hvalid⟩
  · rintro ⟨fromFile, hfile, hreads, hc⟩
    exact ⟨fromFile, hfile, c, hreads, (), validate_eq_ok.2 hc, rfl⟩

/-- Loading succeeds exactly if the file is a settings document, or is not there, and the chosen settings
decode to values that fit together. -/
theorem Regular.load_iff (h : g.Regular) {c : Config} :
    load g.file g.vars g.flags = .ok c ↔
      (∃ fromFile, fileLayer g.file = .ok fromFile) ∧ c.Reads g.chosen ∧ c.Admissible := by
  rw [load_eq_ok]
  constructor
  · rintro ⟨fromFile, hfile, hreads, hc⟩
    exact ⟨⟨fromFile, hfile⟩, (Reads.congr fun key hkey => h.at?_laid hfile hkey).1 hreads, hc⟩
  · rintro ⟨⟨fromFile, hfile⟩, hreads, hc⟩
    exact ⟨fromFile, hfile, (Reads.congr fun key hkey => h.at?_laid hfile hkey).2 hreads, hc⟩

theorem Regular.load_untouched (h : g.Regular) :
    load g.file g.vars { g.flags with untouched := [] } = load g.file g.vars g.flags := by
  cases hfile : fileLayer g.file with
  | error e => simp [load, hfile, bind, Except.bind]
  | ok fromFile =>
    have hflags := h.commandLine_eq (isLayer_fileLayer hfile)
    have hset : commandLine { g.flags with untouched := [] } (g.below fromFile) =
        layer g.flags.values.reverse := by
      simp [commandLine]
    simp only [load, hfile, bind, Except.bind]
    rw [← below, hflags, hset]

end Given

/-! ## 3. The layers of a command -/

theorem settingsFile_of_missing {w : Workspace} {e : FileError} (h : w.read fileName = .error e)
    (he : e.reason = .missing) : CommandLine.settingsFile w = .ok none := by
  simp [CommandLine.settingsFile, h, he]

/-- Precedence holds key by key.  Loading succeeds exactly if the file, unless it is missing, is a settings
document and every field is the decoded setting of its key, taken from the topmost layer that has the key,
with a known policy, a number of couplings that is not negative, a port and a log format.  Flags left alone
change nothing, and the field of a key depends on the settings of that key only.  Without a file the other
layers decide. -/
theorem load_precedence (g : Given) (h : g.Regular) :
    (∀ c, load g.file g.vars g.flags = .ok c ↔
      (∃ fromFile, fileLayer g.file = .ok fromFile) ∧ c.Reads g.chosen ∧ c.Admissible) ∧
    load g.file g.vars { g.flags with untouched := [] } = load g.file g.vars g.flags ∧
    (∀ (g' : Given) (c c' : Config), g'.Regular → load g.file g.vars g.flags = .ok c →
      load g'.file g'.vars g'.flags = .ok c' → ∀ key, g.onCommandLine key = g'.onCommandLine key →
        g.inEnvironment key = g'.inEnvironment key → g.inFile key = g'.inFile key →
        c.settings.at? key = c'.settings.at? key) ∧
    (g.file = none → ∀ c, load g.file g.vars g.flags = .ok c ↔ c.Reads g.chosen ∧ c.Admissible) ∧
    ∀ (w : Workspace) (e : FileError), w.read fileName = .error e → e.reason = .missing →
      CommandLine.settingsFile w = .ok none := by
  refine ⟨fun c => h.load_iff, h.load_untouched, ?_, ?_, fun w e => settingsFile_of_missing⟩
  · intro g' c c' h' hc hc' key hflag hvar hfile
    obtain ⟨-, hreads, -⟩ := h.load_iff.1 hc
    obtain ⟨-, hreads', -⟩ := h'.load_iff.1 hc'
    have hchosen : g.chosen key = g'.chosen key := by
      rw [Given.chosen, hflag, hvar, hfile, ← Given.chosen]
    rw [hreads.at?_settings, hreads'.at?_settings, hchosen]
  · intro hnone c
    have hfile : ∃ fromFile, fileLayer g.file = .ok fromFile := by
      rw [hnone]
      exact ⟨_, rfl⟩
    rw [h.load_iff]
    exact and_iff_right hfile

/-- Every layer wins for a key: the command line over the file, the environment over the file and over the
built-in settings, and the file over the built-in settings. -/
theorem load_precedence_of_each_layer :
    ∃ flags, Flags.parse CommandLine.flags ["-o", "from-flag.md", "-d"] = .ok flags ∧
      load (some "output = \"from-file.md\"\nport = 7000\nout-of-set = \"grow\"\n")
        [("COUPLING_ANALYZER_PORT", "9090"), ("COUPLING_ANALYZER_GRAPH_OUTPUT", "env-graph.json")] flags =
        .ok { standard with
              output := "from-flag.md", graphOutput := "env-graph.json", outOfSet := "grow", port := 9090
              debug := true } := by
  have succeeds {ε α : Type} {x : Except ε α} (d : α) (h : x.toOption.isSome) :
      x = .ok (x.toOption.getD d) := by
    cases x with
    | error e => simp [Except.toOption] at h
    | ok a => rfl
  let given : Given :=
    { file := some "output = \"from-file.md\"\nport = 7000\nout-of-set = \"grow\"\n"
      vars := [("COUPLING_ANALYZER_PORT", "9090"), ("COUPLING_ANALYZER_GRAPH_OUTPUT", "env-graph.json")]
      flags := (Flags.parse CommandLine.flags ["-o", "from-flag.md", "-d"]).toOption.getD {} }
  have hflags : Flags.parse CommandLine.flags ["-o", "from-flag.md", "-d"] = .ok given.flags :=
    succeeds {} (by decide +kernel)
  have hregular : given.Regular :=
    { parsed := ⟨_, hflags⟩
      orderly := { once := by decide +kernel, own := by decide +kernel, undotted := by decide +kernel } }
  have hfile := succeeds (x := fileLayer given.file) (.group []) (by decide +kernel)
  refine ⟨given.flags, hflags, ((load_precedence given hregular).1 _).2 ⟨⟨_, hfile⟩, ?_, ?_⟩⟩
  · constructor <;> decide +kernel
  · exact
      { policy := ⟨_, succeeds .drop (by decide +kernel)⟩
        top := by decide
        port := by decide
        logFormat := ⟨_, succeeds .compact (by decide +kernel)⟩ }

end CallCoupling.Config
