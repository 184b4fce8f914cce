import CallCoupling.Log.Logger
import CallCoupling.Web.Address
import CallCoupling.Web.ContentType

/-!
# Requests and responses

A request has a method, an address and perhaps an identity.  A handler answers by actions: it sets a
status, writes to the body, or flushes.  The client gets the first status that is set, or 200 if the body
comes first; the log shows the last status that was set.
-/

set_option autoImplicit false

namespace CallCoupling

/-- What is asked for. -/
structure Request where
  method : String := "GET"
  address : Address := {}
  /-- The identity given by the client; empty if there is none. -/
  id : String := ""
deriving Inhabited

namespace Request

/-- May a character stand in the name of a method? -/
def isMethodChar (c : Char) : Bool := c.isAlphanum || "!#$%&'*+-.^_|~".toList.contains c || c.toNat = 0x60

/-- A request, if its method and its address are well formed. -/
def make? (method address id : String) : Option Request :=
  if method ≠ "" && method.toList.all isMethodChar then
    (Address.parse? address).map fun address => { method, address, id }
  else none

end Request

/-- What a client gets. -/
structure Response where
  code : Int := 200
  headers : List (String × String) := []
  body : String := ""
deriving DecidableEq, Repr, Inhabited

namespace Response

/-- The response with one more header. -/
def withHeader (r : Response) (name value : String) : Response :=
  { r with headers := r.headers ++ [(name, value)] }

/-- A response that is an error text. -/
def error (code : Int) (message : String) : Response :=
  { code
    headers := [("Content-Type", ContentType.plainText), ("X-Content-Type-Options", "nosniff")]
    body := message ++ "\n" }

/-- A response that sends the client to another address. -/
def moved (location : String) : Response := { code := 301, headers := [("Location", location)] }

end Response

/-- What a handler does to answer. -/
inductive Action where
  | status (code : Int)
  | write (text : String)
  | flush
deriving DecidableEq, Repr

/-- An answer in the making. -/
structure Exchange where
  /-- The status that was sent, once it is. -/
  sent : Option Int := none
  /-- The status that was set last. -/
  last : Int := 200
  headers : List (String × String) := []
  body : String := ""
  flushed : Bool := false
deriving DecidableEq, Repr, Inhabited

namespace Exchange

/-- Send a status, unless one was sent. -/
def send (x : Exchange) (code : Int) : Exchange :=
  if x.sent.isSome then x else { x with sent := some code }

/-- Does a body without content type get one?  Only one that is written before any status. -/
def typed (x : Exchange) (text : String) : Exchange :=
  if x.sent.isSome || x.headers.any (·.1 = "Content-Type") then x
  else { x with headers := x.headers ++ [("Content-Type", ContentType.guess (Percent.bytesOf text))] }

/-- One action of a handler; a first status that is no status is a fault. -/
def step (x : Exchange) : Action → Except Failure Exchange
  | .status code =>
    if x.sent.isNone && (code < 100 || 999 < code) then .error .fault
    else .ok { x.send code with last := code }
  | .write text =>
    let x := (x.typed text).send 200
    .ok { x with body := x.body ++ text }
  | .flush => .ok { x.send 200 with flushed := true }

/-- All actions of a handler. -/
def run (x : Exchange) (actions : List Action) : Except Failure Exchange := actions.foldlM step x

/-- What the client gets. -/
def response (x : Exchange) : Response :=
  { code := x.sent.getD 200, headers := x.headers, body := x.body }

/-- The header with the identity of a request. -/
def idHeader : String := "X-Request-ID"

/-- The identity of a request: the client's, or else a fresh one. -/
def identity (r : Request) (fresh : String) : String := if r.id = "" then fresh else r.id

/-- The exchange at its start: the identity of the request is told to the client. -/
def start (id : String) : Exchange := { headers := [(idHeader, id)] }

/-- What the log says about a finished exchange. -/
def note (r : Request) (id : String) (elapsed : Duration) (x : Exchange) : Log.Note :=
  let attrs : List Log.Attr :=
    [.text "method" r.method, ⟨"path", .text r.address.path⟩, .whole "status" x.last,
      .whole "durationMs" elapsed.milliseconds]
  if 500 ≤ x.last then .ofRequest (Loose.ofString id) Log.Level.error "request failed" attrs
  else .ofRequest (Loose.ofString id) Log.Level.info "request completed" attrs

end Exchange

end CallCoupling
