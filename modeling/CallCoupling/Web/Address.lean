import CallCoupling.Web.NumericHost

/-!
# Addresses

An address names what a request is about: possibly a scheme and a host, then a path, a query and a
fragment.  `Address.parse?` reads one and `Address.text` writes it again.
-/

set_option autoImplicit false

namespace CallCoupling

/-- A user in an address. -/
structure Userinfo where
  name : Loose := []
  password : Option Loose := none
deriving DecidableEq, Inhabited

/-- The parts of an address. -/
structure Address where
  scheme : String := ""
  /-- What follows a scheme without a slash; such an address has no path. -/
  rootless : String := ""
  user : Option Userinfo := none
  host : Loose := []
  /-- Is there a scheme with a path and no place for a host? -/
  hostless : Bool := false
  path : Loose := []
  /-- The path as it was spelled. -/
  spelledPath : String := ""
  /-- Is there a question mark without a query? -/
  bareQuery : Bool := false
  query : String := ""
  fragment : Loose := []
  /-- The fragment as it was spelled. -/
  spelledFragment : String := ""
deriving DecidableEq, Inhabited

namespace Address

/-! ## Reading -/

/-- The text before the first separator and the text after it; nothing is after it if there is none. -/
def cut (sep : Char) (s : List Char) : List Char × List Char := (Text.splitFirst? sep s).getD (s, [])

/-- The text before the last separator and the text after it. -/
def cutLast? (sep : Char) (s : List Char) : Option (List Char × List Char) :=
  (Text.splitFirst? sep s.reverse).map fun (after, before) => (before.reverse, after.reverse)

/-- The scheme of an address and the rest; `none` if there is a colon with nothing before it. -/
def schemeOf? (s : List Char) : Option (String × List Char) :=
  let isLetter (c : Char) := c.isAlpha
  let inner (c : Char) := c.isAlphanum || c = '+' || c = '-' || c = '.'
  let word := s.takeWhile inner
  match word, s.drop word.length with
  | [], ':' :: _ => none
  | c :: _, ':' :: rest => if isLetter c then some (Text.lower (String.ofList word), rest) else some ("", s)
  | _, _ => some ("", s)

/-- Is this a port, or nothing? -/
def isPort : List Char → Bool
  | [] => true
  | c :: rest => c = ':' && rest.all Char.isDigit

/-- Is what follows the last colon of a host a port? -/
def portOk (host : List Char) : Bool :=
  match cutLast? ':' host with
  | none => true
  | some (_, port) => isPort (':' :: port)

/-- The bytes of a host: of ASCII only the percent sign may be spelled by number, and only some
characters may stand. -/
def hostBytes? : List UInt8 → Option (List UInt8)
  | [] => some []
  | b :: rest =>
    if b = 0x25 then
      match rest with
      | h :: l :: rest =>
        match Percent.digit? h, Percent.digit? l with
        | some high, some low =>
          let v := high * 16 + low
          if v < 0x80 && v ≠ 0x25 then none else (hostBytes? rest).map (v :: ·)
        | _, _ => none
      | _ => none
    else if b < 0x80 && !Percent.keptInHost (Char.ofNat b.toNat) then none
    else (hostBytes? rest).map (b :: ·)

/-- A host without a colon that no port follows. -/
def withoutBarePort (host : Loose) : Loose :=
  match host.reverse with
  | .char ':' :: rest => rest.reverse
  | _ => host

/-- A host in brackets, after the opening one, with its port. -/
def bracketed? (s : List Char) : Option Loose :=
  match cutLast? ']' s with
  | none => none
  | some (inner, port) =>
    if isPort port && !inner.contains '[' then
      (NumericHost.decode? inner).map fun host => .char '[' :: host ++ .char ']' :: port.map .char
    else none

/-- The host of an address.  A bracket opens a host only at its start. -/
def hostOf? (s : List Char) : Option Loose :=
  match s with
  | '[' :: rest => (bracketed? rest).map withoutBarePort
  | _ =>
    if portOk s && !s.contains '[' then
      (hostBytes? (Percent.bytesOf (String.ofList s))).map fun bs => withoutBarePort (Loose.ofBytes bs)
    else none

/-- May a character stand in the part before the host? -/
def isUserChar (c : Char) : Bool :=
  c.isAlphanum || "-._:~!$&'()*+,;=%@".toList.contains c

/-- The user of an address. -/
def userOf? (s : List Char) : Option Userinfo :=
  if !s.all isUserChar then none
  else
    match Text.splitFirst? ':' s with
    | none => do pure { name := ← Percent.decode? (String.ofList s) }
    | some (name, password) => do
      pure
        { name := ← Percent.decode? (String.ofList name)
          password := some (← Percent.decode? (String.ofList password)) }

/-- Read user and host. -/
def withAuthority? (a : Address) (s : List Char) : Option Address :=
  match cutLast? '@' s with
  | none => do pure { a with host := ← hostOf? s }
  | some (user, host) => do
    let host ← hostOf? host
    let user ← userOf? user
    pure { a with host, user := some user }

/-- Read the path. -/
def withPath? (a : Address) (s : List Char) : Option Address := do
  let path ← Percent.decode? (String.ofList s)
  pure { a with path, spelledPath := String.ofList s }

/-- Read what follows the scheme, without the query. -/
def withPlace? (a : Address) (s : List Char) : Option Address :=
  match s with
  | '/' :: '/' :: rest =>
    if a.scheme = "" && rest.head? = some '/' then a.withPath? s
    else
      let authority := rest.takeWhile (· ≠ '/')
      (a.withAuthority? authority).bind (·.withPath? (rest.drop authority.length))
  | '/' :: _ => { a with hostless := a.scheme ≠ "" }.withPath? s
  | _ =>
    if a.scheme ≠ "" then some { a with rootless := String.ofList s }
    else if (s.takeWhile (· ≠ '/')).contains ':' then none
    else a.withPath? s

/-- Is a character one that controls a device? -/
def isControl (c : Char) : Bool := c.toNat < 0x20 || c.toNat = 0x7F

/-- Read all but the fragment. -/
def parseBody? (s : List Char) : Option Address :=
  if s.any isControl then none
  else if s = ['*'] then some { path := [.char '*'], spelledPath := "*" }
  else
    match schemeOf? s with
    | none => none
    | some (scheme, rest) =>
      let (place, query) := cut '?' rest
      let a : Address :=
        { scheme, query := String.ofList query, bareQuery := query.isEmpty && rest.contains '?' }
      a.withPlace? place

/-- Read an address. -/
def parse? (s : String) : Option Address :=
  let (body, fragment) := cut '#' s.toList
  match parseBody? body with
  | none => none
  | some a =>
    if fragment.isEmpty then some a
    else
      let spelled := String.ofList fragment
      (Percent.decode? spelled).map fun fragment => { a with fragment, spelledFragment := spelled }

/-! ## Writing -/

/-- The text of a user. -/
def userText (u : Userinfo) : String :=
  Percent.encode Percent.keptInUser u.name ++
    (match u.password with
      | some p => ":" ++ Percent.encode Percent.keptInUser p
      | none => "")

/-- The text of a path. -/
def pathText (a : Address) : String :=
  if a.path = [.char '*'] then "*" else Percent.spelling Percent.keptInPath a.spelledPath a.path

/-- The text from the host to the path. -/
def placeText (a : Address) : String :=
  let path := a.pathText
  let isPlaced := a.scheme ≠ "" || !a.host.isEmpty || a.user.isSome
  let isOmitted := a.hostless && a.host.isEmpty && a.user.isNone
  let authority :=
    if isPlaced && !isOmitted then
      (if !a.host.isEmpty || !a.path.isEmpty || a.user.isSome then "//" else "") ++
        (match a.user with
          | some u => userText u ++ "@"
          | none => "") ++
        Percent.encode Percent.keptInHost a.host
    else ""
  let slash := if path ≠ "" && !Text.startsWith path "/" && !a.host.isEmpty then "/" else ""
  let dot :=
    if a.scheme = "" && authority ++ slash = "" && (path.toList.takeWhile (· ≠ '/')).contains ':' then "./"
    else ""
  authority ++ slash ++ dot ++ path

/-- The text of an address. -/
def text (a : Address) : String :=
  (if a.scheme = "" then "" else a.scheme ++ ":") ++
    (if a.rootless ≠ "" then a.rootless else a.placeText) ++
    (if a.bareQuery || a.query ≠ "" then "?" ++ a.query else "") ++
    (if a.fragment.isEmpty then ""
      else "#" ++ Percent.spelling Percent.keptInFragment a.spelledFragment a.fragment)

/-! ## Paths and queries -/

/-- The parts of a path between slashes. -/
def pieces : Loose → List Loose
  | [] => [[]]
  | g :: rest =>
    if g = .char '/' then [] :: pieces rest
    else
      match pieces rest with
      | [] => [[g]]
      | piece :: more => (g :: piece) :: more

/-- Pieces with slashes between them. -/
def joined (ps : List Loose) : Loose := List.intercalate [.char '/'] ps

/-- One more piece behind pieces that are already clean, the last one first. -/
def cleanStep (before : List Loose) (piece : Loose) : List Loose :=
  if piece = [] || piece = Loose.ofString "." then before
  else if piece = Loose.ofString ".." then before.tail
  else piece :: before

/-- The shortest path from the root to the same place; a slash at the end is kept. -/
def cleanPath (path : Loose) : Loose :=
  let ps := ((pieces path).foldl cleanStep []).reverse
  if ps.isEmpty then [.char '/']
  else
    .char '/' :: joined ps ++ (if path.getLast? = some (.char '/') then [.char '/'] else [])

/-- The names and values of a query.  A pair that is malformed is left out. -/
def queryPairs (query : String) : List (Loose × Loose) :=
  (Text.splitOn '&' query.toList).filterMap fun pair =>
    if pair.isEmpty || pair.contains ';' then none
    else
      let (key, value) := cut '=' pair
      match Percent.decodeQuery? (String.ofList key), Percent.decodeQuery? (String.ofList value) with
      | some k, some v => some (k, v)
      | _, _ => none

/-- The values of a name in a query, in order. -/
def queryValues (a : Address) (name : String) : List Loose :=
  (queryPairs a.query).filterMap fun (k, v) => if k = Loose.ofString name then some v else none

end Address

end CallCoupling
