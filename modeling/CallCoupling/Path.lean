import CallCoupling.Text.Letters

/-!
# File paths

A path is a text of names between slashes.  Its clean form has no empty names and no names for the
directory itself, and steps up only at its start.
-/

set_option autoImplicit false

namespace CallCoupling.Path

/-- The names between the slashes of a path. -/
def names (path : String) : List String := (Text.splitOn '/' path.toList).map String.ofList

/-- Does a path start at the root? -/
def isAbsolute (path : String) : Bool := Text.startsWith path "/"

/-- One more name behind names that are already clean, the last one first.  A step up takes back a name;
where there is none to take back it is kept, except at the root. -/
def step (rooted : Bool) (before : List String) (name : String) : List String :=
  if name = "" || name = "." then before
  else if name = ".." then
    match before with
    | [] => if rooted then [] else [".."]
    | last :: rest => if last = ".." then ".." :: before else rest
  else name :: before

/-- The names of the clean form of a path. -/
def cleanNames (path : String) : List String :=
  ((names path).foldl (step (isAbsolute path)) []).reverse

/-- The shortest form of a path. -/
def clean (path : String) : String :=
  let body := "/".intercalate (cleanNames path)
  if isAbsolute path then "/" ++ body else if body = "" then "." else body

/-- Two paths, one inside the other. -/
def join (a b : String) : String := clean (if a = "" then b else a ++ "/" ++ b)

/-- The path seen from the root, for a path that starts in `home`. -/
def absolute (home path : String) : String := if isAbsolute path then clean path else join home path

/-- The characters up to and with the last slash, and those after it. -/
def split (path : String) : String × String :=
  let after := path.toList.reverse.takeWhile (· ≠ '/')
  (String.ofList (path.toList.take (path.toList.length - after.length)),
    String.ofList after.reverse)

/-- The directory that holds a path. -/
def parent (path : String) : String := clean (split path).1

/-- The last name of a path. -/
def base (path : String) : String :=
  if path = "" then "."
  else
    let trimmed := String.ofList ((path.toList.reverse.dropWhile (· = '/')).reverse)
    if trimmed = "" then "/" else (split trimmed).2

/-- The last name from its last point on; empty if it has none. -/
def extension (path : String) : String :=
  let last := (split path).2.toList
  let after := last.reverse.takeWhile (· ≠ '.')
  if after.length = last.length then "" else String.ofList ('.' :: after.reverse)

/-- The last name without its extension. -/
def stem (path : String) : String := Text.dropEnd (extension path) (base path)

end CallCoupling.Path
