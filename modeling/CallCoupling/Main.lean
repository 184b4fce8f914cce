import CallCoupling.CommandLine
import CallCoupling.Watch.Debouncer
import Std.Time.DateTime.Timestamp

/-!
# The program

The shell around the command line: it reads the files and variables that a command needs, executes the
command on them, and writes what the command leaves.  Results are not served from here, so a command that
asks for it only analyses.
-/

set_option autoImplicit false

namespace CallCoupling.Shell

/-- The current time. -/
def now : IO Moment := do
  let t ← Std.Time.Timestamp.now
  pure ⟨t.toSecondsSinceUnixEpoch.val⟩

/-- So many random hexadecimal digits. -/
def randomDigits (n : Nat) : IO String := do
  let r ← IO.rand 0 (Nat.pow 16 n - 1)
  pure (String.ofList (Text.hex n r))

/-- A fresh identity. -/
def freshId : IO String := do
  let variant := Text.hexDigit (8 + (← IO.rand 0 3))
  pure ((← randomDigits 8) ++ "-" ++ (← randomDigits 4) ++ "-4" ++ (← randomDigits 3) ++ "-" ++
    variant.toString ++ (← randomDigits 3) ++ "-" ++ (← randomDigits 12))

/-- The path of a place. -/
def pathOf (place : List String) : String := "/" ++ "/".intercalate place

/-- Is there a directory on the disk? -/
def isDirectory (path : String) : IO Bool := do
  let here ← IO.currentDir
  (here / path).isDir

/-- Take a file with the directories on the way to it from the disk into the workspace. -/
def fetch (w : Workspace) (path : String) : IO Workspace := do
  if path = "" then return w
  let place := w.place path
  let mut w := w
  for d in Workspace.ancestors place ++ [place] do
    if ← isDirectory (pathOf d) then w := w.withDirectory d
  try
    let bytes ← IO.FS.readBinFile (pathOf place)
    return w.put place bytes.toList
  catch _ => return w

/-- The workspace around the current directory. -/
def workspace : IO Workspace := do
  let here ← IO.currentDir
  pure { home := Path.cleanNames here.toString }

/-- The variables of the environment that hold settings. -/
def environment : IO (List (String × String)) := do
  let keys := match Config.standard.settings with
    | .group fields => fields.map Prod.fst
    | _ => []
  keys.filterMapM fun key => do
    let name := Config.environmentStart ++ (key.map fun c => if c = '-' then '_' else c.toUpper)
    pure ((← IO.getEnv name).map fun value => (name, value))

/-- Write the files that differ from those before to the disk. -/
def save (before after : Workspace) : IO Unit := do
  for (place, bytes) in after.files do
    if before.file? place != some bytes then
      IO.FS.writeBinFile (pathOf place) ⟨bytes.toArray⟩

/-- Show what a command leaves. -/
def present (before : Workspace) (o : CommandLine.Outcome) : IO Unit := do
  save before o.files
  (← IO.getStderr).write ⟨(o.stderr (o.logger.format.stamp (← now))).toBytes.toArray⟩
  (← IO.getStdout).write ⟨o.stdout.toBytes.toArray⟩

/-- The input of a command, with the files that it names. -/
def gather (args : List String) : IO CommandLine.Input := do
  let start ← IO.monoMsNow
  let files ← fetch (← workspace) Config.fileName
  let s : CommandLine.Input := { args, environment := ← environment, files, runId := ← freshId }
  match CommandLine.prepare s with
  | .error _ => pure s
  | .ok j =>
    let files ← [j.config.source, j.config.output, j.config.graphOutput].foldlM fetch files
    let elapsed : Duration := ⟨((← IO.monoMsNow) - start) * 1000000⟩
    pure { s with files, elapsed }

/-- The event that tells how a file differs from what it was. -/
def eventOf (path : String) (before after : Option (List UInt8)) : List RawEvent :=
  if before = after then []
  else if after.isNone then [{ name := path, bits := 4 }]
  else [{ name := path, bits := 2 }]

/-- Look at the model again and again, and react once it has changed and is quiet. -/
partial def follow (args : List String) (w : Watcher) (d : Debouncer) (known : Option (List UInt8)) :
    IO Unit := do
  IO.sleep 500
  let s ← gather args
  let found := s.files.file? (s.files.place w.path)
  let (w, changes) := ((eventOf w.path known found).foldl Watcher.note w).flush
  let d := changes.foldl (fun d c => (d.step (.change c)).1) d
  let (d, ready) := if changes.isEmpty then d.step .quiet else (d, [])
  for c in ready do
    if let .ok j := CommandLine.prepare s then present s.files (CommandLine.react s j c)
  follow args w d found

/-- Execute the command with its arguments, and say what it ends with. -/
def run (args : List String) : IO UInt32 := do
  let s ← gather args
  let o := CommandLine.execute s
  present s.files o
  match o.failure, o.watching with
  | some f, _ =>
    IO.eprintln ("Error: " ++ f.message.shown)
    pure 1
  | none, some w =>
    follow args w {} (s.files.file? (s.files.place w.path))
    pure 0
  | none, none => pure 0

end CallCoupling.Shell

/-- The program. -/
def main (args : List String) : IO UInt32 := CallCoupling.Shell.run args
