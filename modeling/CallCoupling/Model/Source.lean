import CallCoupling.Config.Basic
import CallCoupling.Log.Logger
import CallCoupling.Model.Decode
import CallCoupling.Workspace

/-!
# Where models come from

A source has a name and loads a model.  The usual source is a file: its own path, or the path of the
configuration if it has none.  A model without a name takes the name of its file.
-/

set_option autoImplicit false

namespace CallCoupling

/-- Why no model was loaded. -/
inductive LoadError where
  | noFile
  | cancelled
  | unreadable (e : FileError)
  | malformed (path : String) (e : DecodeError)
  /-- Any other failure of a source. -/
  | failed (message : String)
deriving Inhabited

/-- The failure of work that was cancelled. -/
def Failure.cancelled : Failure := ⟨.cancelled, "context canceled"⟩

namespace LoadError

/-- The cause and the text of an error. -/
def failure : LoadError → Failure
  | .noFile => .other "no model file given"
  | .cancelled => .cancelled
  | .unreadable e => e.failure.within "reading model"
  | .malformed path e => e.failure.within (Loose.ofString path)
  | .failed message => .other message

end LoadError

/-- A source of models.  Loading is told the configuration, whether the work is already cancelled and
the files; it leaves notes in the log. -/
structure Source where
  name : String
  load : Option Config → Bool → Workspace → List Log.Note × Except LoadError Project

namespace Source

/-- A note of the file source. -/
def note (message : String) (attrs : List Log.Attr) : Log.Note :=
  .of "source.file" Log.Level.info message attrs

/-- The model in a file. -/
def readModel (files : Workspace) (path : String) : Except LoadError Project := do
  let bytes ← (files.read path).mapError .unreadable
  let p ← (Project.decode bytes (Path.extension path)).mapError (.malformed path)
  pure (if p.name.isEmpty then { p with name := Loose.ofString (Path.stem path) } else p)

/-- What is said about a model that was loaded. -/
def loaded (p : Project) : Log.Note :=
  note "Model loaded" [.whole "types" p.typeList.length, .whole "methods" p.methods.length,
    .whole "invocations" p.invocationCount]

/-- Load the model in the file at a path. -/
def loadFile (path : String) (cancelled : Bool) (files : Workspace) :
    List Log.Note × Except LoadError Project :=
  if path = "" then ([], .error .noFile)
  else
    let start := note "Loading model" [.text "path" path]
    if cancelled then ([start], .error .cancelled)
    else
      match readModel files path with
      | .error e => ([start], .error e)
      | .ok p => ([start, loaded p], .ok p)

/-- The source that reads a file. -/
def file (path : String) : Source where
  name := "ModelFile"
  load config cancelled files :=
    loadFile (if path = "" then (config.map Config.source).getD "" else path) cancelled files

/-- The source that gives a model, or always fails. -/
def given (outcome : Except String Project) : Source where
  name := "Given"
  load _ _ _ := ([], outcome.mapError .failed)

end Source

end CallCoupling
