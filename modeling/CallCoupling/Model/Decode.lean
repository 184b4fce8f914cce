import CallCoupling.Model.FromJson
import CallCoupling.Model.FromYaml
import CallCoupling.Model.Normal

/-!
# Decoding model documents

The extension of a file selects the format of the model in it.  A decoded model has no null entries and is
normalised.
-/

set_option autoImplicit false

namespace CallCoupling

/-- The formats of model documents. -/
inductive Format where
  | json
  | yaml
deriving DecidableEq, Repr

namespace Format

/-- The format that an extension stands for, without regard to case. -/
def ofExtension? (ext : String) : Option Format :=
  match Text.lower ext with
  | ".json" => some .json
  | ".yaml" | ".yml" => some .yaml
  | _ => none

end Format

/-- Why a document is no model. -/
inductive DecodeError where
  | json (detail : String)
  | yaml (e : Yaml.Stop)
  | unsupported (ext : String)
  | nullEntry (e : NullEntry)
deriving DecidableEq, Repr

namespace DecodeError

/-- The error as seen by callers. -/
def failure : DecodeError → Failure
  | .json detail => .other ("parsing JSON model: " ++ detail)
  | .yaml (.error e) => .other ("parsing YAML model: " ++ e.detail)
  | .yaml .collectionKey => .fault
  | .unsupported ext =>
    ⟨.unsupportedFormat, "unsupported model file format: " ++ Text.quoted ext⟩
  | .nullEntry e => e.failure

end DecodeError

namespace Project

/-- The model in the bytes of a JSON text. -/
def ofJsonBytes (bytes : List UInt8) : Except DecodeError Project :=
  match Json.parse? (Loose.ofBytes bytes).shownChars with
  | none => .error (.json "the text is no JSON value")
  | some v =>
    match ofJson? v with
    | some p => .ok p
    | none => .error (.json "a value is of the wrong kind")

/-- The model as a document says it, null entries included. -/
def parse (bytes : List UInt8) (ext : String) : Except DecodeError Project :=
  match Format.ofExtension? ext with
  | some .json => ofJsonBytes bytes
  | some .yaml => (ofYaml bytes).mapError .yaml
  | none => .error (.unsupported ext)

/-- The checked and normalised model of a document. -/
def decode (bytes : List UInt8) (ext : String) : Except DecodeError Project :=
  match parse bytes ext with
  | .error e => .error e
  | .ok p => p.normalise?.mapError .nullEntry

end Project

end CallCoupling
