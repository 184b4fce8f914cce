import CallCoupling.Web.Exchange

/-!
# Routes

The path of a request decides what answers it.  A path that is not clean is sent to its clean form first.
The interface answers only to one method; every other request is for a file of the site, which has a
single page.
-/

set_option autoImplicit false

namespace CallCoupling

/-- What a request is for. -/
inductive Route where
  /-- The events of a topic. -/
  | subscribe (topic : Loose)
  | overview
  | graph
  /-- The neighbourhood of a selection. -/
  | focus
  /-- The directed counts. -/
  | counts
  /-- The coupling of two types. -/
  | pair (a b : Loose)
  | coupling
  /-- A file of the site. -/
  | file
deriving DecidableEq

namespace Route

/-- The route of an interface path, given by its pieces after the first slash.  A piece that stands for a
name is never empty. -/
def ofPieces : List Loose → Option Route
  | [api, a] =>
    if api ≠ Loose.ofString "api" then none
    else if a = Loose.ofString "analysis" then some .overview
    else if a = Loose.ofString "graph" then some .graph
    else if a = Loose.ofString "coupling" then some .coupling
    else none
  | [api, a, b] =>
    if api ≠ Loose.ofString "api" then none
    else if a = Loose.ofString "subscribe" && !b.isEmpty then some (.subscribe b)
    else if a = Loose.ofString "graph" && b = Loose.ofString "focus" then some .focus
    else if a = Loose.ofString "coupling" && b = Loose.ofString "raw" then some .counts
    else none
  | [api, a, b, c] =>
    if api = Loose.ofString "api" && a = Loose.ofString "coupling" && !b.isEmpty && !c.isEmpty then
      some (.pair b c)
    else none
  | _ => none

/-- The route of a request with a clean path. -/
def of (method : String) (path : Loose) : Route :=
  if method = "GET" then (ofPieces (Address.pieces path).tail).getD .file else .file

end Route

/-! ## The files of the site -/

namespace Site

/-- The name of the page. -/
def pageName : String := "index.html"

/-- The response for a missing file. -/
def missing : Response := .error 404 "404 page not found"

/-- Send the client to a relative address; the query goes along. -/
def moved (a : Address) (place : String) : Response :=
  .moved (if a.query = "" then place else place ++ "?" ++ a.query)

/-- Does a path end with the name of the page? -/
def namesPage (path : Loose) : Bool :=
  (Address.pieces path).getLast? = some (Loose.ofString pageName) && 1 < (Address.pieces path).length

/-- The response for a file.  The page stands for the root and is served only there; a name that is no
text cannot be looked up. -/
def serve (method : String) (a : Address) (page : String) : Response :=
  let names := (Address.pieces a.path).filter (!·.isEmpty)
  if namesPage a.path then moved a "./"
  else
    match names with
    | [] =>
      { headers := [("Content-Type", "text/html; charset=utf-8")]
        body := if method = "HEAD" then "" else page }
    | name :: rest =>
      if name = Loose.ofString pageName then
        if rest.isEmpty then moved a ("../" ++ pageName) else missing
      else if names.all Loose.isText then missing
      else .error 500 "500 Internal Server Error"

end Site

end CallCoupling
