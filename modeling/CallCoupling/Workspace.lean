import CallCoupling.Failure
import CallCoupling.Path

/-!
# Workspaces

A workspace is a tree of files with the directory in which the program works.  Reading and writing fail
as on a file system: a name on the way may be missing or be no directory, and a directory can be neither
read nor written as a file.  A write may also be refused for reasons that the tree does not show, such as a
protected place or a full disk.
-/

set_option autoImplicit false

namespace CallCoupling

/-- Why a file cannot be reached. -/
inductive FileReason where
  | missing
  | isDirectory
  | notDirectory
  /-- A name has a null character. -/
  | invalidName
  | nameTooLong
  /-- Any other reason, in the words of the system. -/
  | refused (words : String)
deriving DecidableEq, Repr, Inhabited

namespace FileReason

/-- The words for a reason. -/
def text : FileReason → String
  | .missing => "no such file or directory"
  | .isDirectory => "is a directory"
  | .notDirectory => "not a directory"
  | .invalidName => "invalid argument"
  | .nameTooLong => "file name too long"
  | .refused words => words

end FileReason

/-- A failed access to a file. -/
structure FileError where
  /-- What was tried. -/
  action : String
  path : String
  reason : FileReason
deriving DecidableEq, Repr

namespace FileError

/-- The cause and the text of an error. -/
def failure (e : FileError) : Failure :=
  ⟨if e.reason = .missing then .notExist else .other,
    e.action ++ " " ++ e.path ++ ": " ++ e.reason.text⟩

end FileError

/-- Files and directories, by the names on the way from the root to them. -/
structure Workspace where
  /-- The working directory, where relative paths start. -/
  home : List String := []
  files : List (List String × List UInt8) := []
  directories : List (List String) := []
  /-- Why bytes are not taken at a place that could hold them, if they are not. -/
  refusal? : List String → List UInt8 → Option String := fun _ _ => none
deriving Inhabited

namespace Workspace

/-- The bytes of a file. -/
def file? (w : Workspace) (place : List String) : Option (List UInt8) := w.files.lookup place

/-- Is there a directory at the place?  The working directory and all above it are always there. -/
def hasDirectory (w : Workspace) (place : List String) : Bool :=
  place.isPrefixOf w.home || w.directories.contains place

/-- The path of the working directory. -/
def homePath (w : Workspace) : String := "/" ++ "/".intercalate w.home

/-- The greatest length of a name, in bytes. -/
def longestName : Nat := 255

/-- The greatest length of a path, in bytes. -/
def longestPath : Nat := 4095

/-- Follow names from a directory: the place they lead to, of which all but the last name exist. -/
def follow (w : Workspace) (here : List String) : List String → Except FileReason (List String)
  | [] => .ok here
  | name :: rest =>
    if (w.file? here).isSome then .error .notDirectory
    else if !w.hasDirectory here then .error .missing
    else if name = "" || name = "." then w.follow here rest
    else if name = ".." then w.follow here.dropLast rest
    else if longestName < name.utf8ByteSize then .error .nameTooLong
    else w.follow (here ++ [name]) rest

/-- The place that names lead to, for a path that has them. -/
def locateNames (w : Workspace) (path : String) (names : List String) :
    Except FileReason (List String) :=
  if path = "" then .error .missing
  else if path.toList.contains (Char.ofNat 0) then .error .invalidName
  else if longestPath < path.utf8ByteSize then .error .nameTooLong
  else w.follow (if Path.isAbsolute path then [] else w.home) names

/-- The place that a path leads to. -/
def locate (w : Workspace) (path : String) : Except FileReason (List String) :=
  w.locateNames path (Path.names path)

/-- Read a file. -/
def read (w : Workspace) (path : String) : Except FileError (List UInt8) :=
  match w.locate path with
  | .error reason => .error ⟨"open", path, reason⟩
  | .ok place =>
    match w.file? place with
    | some bytes => .ok bytes
    | none =>
      if w.hasDirectory place then .error ⟨"read", path, .isDirectory⟩
      else .error ⟨"open", path, .missing⟩

/-- Put bytes at a place, instead of what was there. -/
def put (w : Workspace) (place : List String) (bytes : List UInt8) : Workspace :=
  { w with files := (place, bytes) :: w.files.filter fun (p, _) => p ≠ place }

/-- Write a file; the directory that holds it must exist.  A path that ends in a slash names a
directory, whatever is there.  A write that fails changes nothing. -/
def write (w : Workspace) (path : String) (bytes : List UInt8) : Except FileError Workspace :=
  let names := ((Path.names path).reverse.dropWhile (· = "")).reverse
  match w.locateNames path names with
  | .error reason => .error ⟨"open", path, reason⟩
  | .ok place =>
    if w.hasDirectory place || Text.endsWith path "/" then .error ⟨"open", path, .isDirectory⟩
    else
      match w.refusal? place bytes with
      | some words => .error ⟨"open", path, .refused words⟩
      | none => .ok (w.put place bytes)

/-- Remove a file; there need not be one. -/
def remove (w : Workspace) (path : String) : Workspace :=
  match w.locate path with
  | .error _ => w
  | .ok place => { w with files := w.files.filter fun (p, _) => p ≠ place }

/-- All directories on the way to a place. -/
def ancestors (place : List String) : List (List String) :=
  (List.range place.length).map fun n => place.take n

/-- The place of a path whose names all exist and lead to what they say. -/
def place (w : Workspace) (path : String) : List String :=
  Path.cleanNames (Path.absolute w.homePath path)

/-- The workspace with a directory and all directories above it. -/
def withDirectory (w : Workspace) (place : List String) : Workspace :=
  { w with
    directories := w.directories ++ (ancestors place ++ [place]).filter fun d => !w.hasDirectory d }

/-- Store a file together with the directories on the way to it. -/
def store (w : Workspace) (path : String) (bytes : List UInt8) : Workspace :=
  (w.withDirectory (w.place path).dropLast).put (w.place path) bytes

/-- Check that there is a file or a directory at the path. -/
def check (w : Workspace) (path : String) : Except FileReason Unit :=
  match w.locate path with
  | .error reason => .error reason
  | .ok place =>
    if w.hasDirectory place || (w.file? place).isSome then .ok () else .error .missing

/-- The files below the working directory by path, the one written last first. -/
def listing (w : Workspace) : List (String × List UInt8) :=
  w.files.filterMap fun (place, bytes) =>
    if w.home.isPrefixOf place then some ("/".intercalate (place.drop w.home.length), bytes) else none

end Workspace

end CallCoupling
