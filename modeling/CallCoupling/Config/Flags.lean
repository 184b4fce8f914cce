import CallCoupling.Config.Setting
import CallCoupling.Failure
import CallCoupling.Text.Letters
import CallCoupling.Text.Quoted

/-!
# Command line flags

A flag has a long name and perhaps a letter.  `--name value`, `--name=value`, `-n value`, `-nvalue` and
`-n=value` set it; a truth value or a counter needs no value, so their letters can be joined.  Joined
letters that go on with `test.` are for a test runner and end there.  Everything else is a positional
argument, and so is all that follows `--`.
-/

set_option autoImplicit false

namespace CallCoupling

/-- What a flag holds, with its default. -/
inductive FlagKind where
  | text (default : String)
  | int (default : Int)
  | bool (default : Bool)
  /-- A counter: each mention adds one. -/
  | count
deriving DecidableEq, Repr

/-- A flag. -/
structure Flag where
  name : String
  /-- The letter of the flag, empty if it has none. -/
  letter : String := ""
  kind : FlagKind
  usage : String := ""
deriving DecidableEq, Repr

/-- Why a command line is wrong. -/
inductive FlagError where
  /-- The user asks for help. -/
  | help
  /-- The flags themselves are declared wrongly: a name or a letter stands for two of them. -/
  | inconsistent
  | badSyntax (arg : String)
  | unknown (name : String)
  | unknownLetter (letter : Char) (letters : String)
  | needsValue (name : String)
  | letterNeedsValue (letter : Char) (letters : String)
  | badTruth (flag : Flag) (value : String)
  | badNumber (flag : Flag) (value : String) (e : IntegerError)
deriving DecidableEq, Repr

namespace Flag

/-- How messages name a flag. -/
def title (f : Flag) : String :=
  if f.letter = "" then "--" ++ f.name else "-" ++ f.letter ++ ", --" ++ f.name

/-- The value of a flag that nobody sets. -/
def default (f : Flag) : Setting :=
  match f.kind with
  | .text s => .text s
  | .int n => .int n
  | .bool b => .bool b
  | .count => .int 0

end Flag

namespace FlagError

/-- The message about a value that a flag does not take. -/
def invalid (f : Flag) (value reader reason : String) : String :=
  "invalid argument " ++ Text.quoted value ++ " for " ++ Text.quoted f.title ++ " flag: " ++ reader ++
    ": parsing " ++ Text.quoted value ++ ": " ++ reason

/-- The text of the error. -/
def message : FlagError → String
  | .help => "pflag: help requested"
  | .inconsistent => "flags are declared twice"
  | .badSyntax arg => "bad flag syntax: " ++ arg
  | .unknown name => "unknown flag: --" ++ name
  | .unknownLetter c letters =>
    "unknown shorthand flag: " ++ Text.quotedLetter c ++ " in -" ++ letters
  | .needsValue name => "flag needs an argument: --" ++ name
  | .letterNeedsValue c letters =>
    "flag needs an argument: " ++ Text.quotedLetter c ++ " in -" ++ letters
  | .badTruth f v => invalid f v "strconv.ParseBool" "invalid syntax"
  | .badNumber f v e => invalid f v "strconv.ParseInt" e.message

/-- The error as seen by callers. -/
def failure : FlagError → Failure
  | .inconsistent => .fault
  | e => .other e.message

end FlagError

namespace Flags

/-- Can these flags stand together?  Names and letters are used once, and a letter is one ASCII character. -/
def consistent : List Flag → Bool
  | [] => true
  | f :: fs =>
    fs.all (fun g => g.name ≠ f.name) &&
      (f.letter = "" ||
        (f.letter.utf8ByteSize = 1 && fs.all fun g => g.letter ≠ f.letter)) && consistent fs

/-- What a command line says: the flags it sets, the latest first, the positional arguments in reverse, and
the flags that it leaves alone with their defaults. -/
structure Parsed where
  values : List (String × Setting) := []
  positional : List String := []
  untouched : List (String × Setting) := []
deriving Inhabited

/-- The value of a flag that is given without one. -/
def impliedValue : FlagKind → Option String
  | .bool _ => some "true"
  | .count => some "+1"
  | _ => none

/-- The number of mentions so far of a counter. -/
def counted (p : Parsed) (name : String) : Int :=
  match Setting.find? p.values name with
  | some (.int n) => n
  | _ => 0

/-- Set a flag. -/
def assign (f : Flag) (value : String) (p : Parsed) : Except FlagError Parsed :=
  let put (v : Setting) : Parsed := { p with values := (f.name, v) :: p.values }
  let number : Except FlagError Parsed :=
    match Integer.parse value with
    | .ok n => .ok (put (.int n))
    | .error e => .error (.badNumber f value e)
  match f.kind with
  | .text _ => .ok (put (.text value))
  | .int _ => number
  | .bool _ =>
    match Truth.parse? value with
    | some b => .ok (put (.bool b))
    | none => .error (.badTruth f value)
  | .count => if value = "+1" then .ok (put (.int (counted p f.name + 1))) else number

/-- Set a flag given by its long name; the result holds the arguments left. -/
def long (flags : List Flag) (arg : String) (rest : List String) (p : Parsed) :
    Except FlagError (Parsed × List String) :=
  let body := arg.toList.drop 2
  if body.isEmpty || body.head? = some '-' || body.head? = some '=' then .error (.badSyntax arg)
  else
    let (name, given) := match Text.splitFirst? '=' body with
      | some (name, v) => (String.ofList name, some (String.ofList v))
      | none => (String.ofList body, none)
    match flags.find? fun f => f.name = name with
    | none => if name = "help" then .error .help else .error (.unknown name)
    | some f =>
      match given, impliedValue f.kind, rest with
      | some v, _, _ => (assign f v p).map fun p => (p, rest)
      | none, some v, _ => (assign f v p).map fun p => (p, rest)
      | none, none, v :: rest => (assign f v p).map fun p => (p, rest)
      | none, none, [] => .error (.needsValue name)

/-- The first byte of a character, read as a character of its own. -/
def firstByte (c : Char) : Char :=
  match String.utf8EncodeChar c with
  | b :: _ => Char.ofNat b.toNat
  | [] => c

/-- What a test runner's own arguments start with, after the dash. -/
def testRunner : List Char := "test.".toList

/-- Set the flags given by joined letters. -/
def letters (flags : List Flag) : Nat → List Char → List String → Parsed →
    Except FlagError (Parsed × List String)
  | 0, _, rest, p => .ok (p, rest)
  | _ + 1, [], rest, p => .ok (p, rest)
  | fuel + 1, c :: cs, rest, p =>
    let all := String.ofList (c :: cs)
    if testRunner.isPrefixOf (c :: cs) then .ok (p, rest)
    else
      match flags.find? fun f => f.letter = String.ofList [c] with
      | none => if c = 'h' then .error .help else .error (.unknownLetter (firstByte c) all)
      | some f =>
        match cs, impliedValue f.kind, rest with
        | '=' :: d :: ds, _, _ =>
          (assign f (String.ofList (d :: ds)) p).map fun p => (p, rest)
        | _, some v, _ =>
          match assign f v p with
          | .ok p => letters flags fuel cs rest p
          | .error e => .error e
        | _ :: _, none, _ => (assign f (String.ofList cs) p).map fun p => (p, rest)
        | [], none, v :: rest => (assign f v p).map fun p => (p, rest)
        | [], none, [] => .error (.letterNeedsValue c all)

/-- Read arguments from left to right. -/
def parseFrom (flags : List Flag) : Nat → List String → Parsed → Except FlagError Parsed
  | 0, _, p => .ok p
  | _ + 1, [], p => .ok p
  | fuel + 1, arg :: rest, p =>
    match arg.toList with
    | '-' :: '-' :: body =>
      if body.isEmpty then .ok { p with positional := rest.reverse ++ p.positional }
      else
        match long flags arg rest p with
        | .ok (p, rest) => parseFrom flags fuel rest p
        | .error e => .error e
    | '-' :: c :: cs =>
      match letters flags (cs.length + 2) (c :: cs) rest p with
      | .ok (p, rest) => parseFrom flags fuel rest p
      | .error e => .error e
    | _ => parseFrom flags fuel rest { p with positional := arg :: p.positional }

/-- Read a command line; positional arguments are in order in the result. -/
def parse (flags : List Flag) (args : List String) : Except FlagError Parsed :=
  if consistent flags then
    (parseFrom flags (args.length + 1) args {}).map fun p =>
      { p with
        positional := p.positional.reverse
        untouched := (flags.filter fun f => (Setting.find? p.values f.name).isNone).map
          fun f => (f.name, f.default) }
  else .error .inconsistent

/-! ## Usage -/

/-- The word for the value of a flag. -/
def valueWord : FlagKind → String
  | .text _ => " string"
  | .int _ => " int"
  | .bool _ => ""
  | .count => " count"

/-- The default of a flag, unless it is empty. -/
def defaultText : FlagKind → String
  | .text s => if s = "" then "" else " (default " ++ Text.quoted s ++ ")"
  | .int n => if n = 0 then "" else " (default " ++ Integer.text n ++ ")"
  | .bool b => if b then " (default true)" else ""
  | .count => ""

/-- The names of a flag, as the usage lists them. -/
def nameColumn (f : Flag) : String :=
  (if f.letter = "" then "      --" else "  -" ++ f.letter ++ ", --") ++ f.name ++ valueWord f.kind

/-- One line per flag, by name, with the texts below each other. -/
def usage (flags : List Flag) : String :=
  let sorted := flags.mergeSort fun a b => a.name ≤ b.name
  let column := (sorted.map fun f => (nameColumn f).length).foldl max 0 + 3
  String.join (sorted.map fun f =>
    let names := nameColumn f
    names ++ Text.repeated (column - names.length) ' ' ++ f.usage ++ defaultText f.kind ++ "\n")

end Flags

end CallCoupling
