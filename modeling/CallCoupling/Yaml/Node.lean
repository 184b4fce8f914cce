import CallCoupling.Yaml.Token

/-!
# Nodes of a YAML document

`Document.parse` reads the first document of a text as a tree of nodes.  An alias stands for an earlier
node with an anchor; the tree keeps the number of that node, and the document keeps the anchored nodes by
number, so that an alias inside its own node does no harm unless it is followed.

The recursion takes fuel.  Every call passes a token or ends, and a character gives four tokens at most.
-/

set_option autoImplicit false

namespace CallCoupling.Yaml

/-- A node of a document.  A tag that says nothing is none. -/
inductive Node where
  /-- A scalar with its tag, its text and whether it is written plain. -/
  | scalar (tag : Option String) (text : String) (plain : Bool)
  | sequence (tag : Option String) (items : List Node)
  | mapping (tag : Option String) (entries : List (Node × Node))
  /-- An alias with its name, its place and the number of the node it stands for. -/
  | alias (name : String) (place target : Nat)
deriving Inhabited

/-- A document: its root and its anchored nodes by number. -/
structure Document where
  root : Node
  anchored : List (Nat × Node) := []
deriving Inhabited

namespace Document

/-- The state of the reader. -/
structure Reader where
  scanner : Scanner
  /-- The meaning of the tag handles. -/
  handles : List (String × String) := []
  /-- The anchors so far, the latest first, with the numbers of their nodes. -/
  anchors : List (String × Nat) := []
  anchored : List (Nat × Node) := []

namespace Reader

/-- The next token, and the reader that has looked at it. -/
def peek (r : Reader) : Except Error (Token × Reader) :=
  match r.scanner.peek with
  | .error e => .error e
  | .ok (t, scanner) => .ok (t, { r with scanner })

/-- Pass a token. -/
def skip (r : Reader) : Reader := { r with scanner := r.scanner.take }

/-- The handles that need no directive. -/
def standardHandles : List (String × String) := [("!", "!"), ("!!", "tag:yaml.org,2002:")]

/-- The start of a tag that a handle stands for. -/
def handle? (r : Reader) (handle : String) : Option String :=
  ((r.handles ++ standardHandles).find? fun (h, _) => h = handle).map (·.2)

/-- The full tag of a handle and a suffix. -/
def fullTag (r : Reader) (handle suffix : String) : Except Error String :=
  if handle = "" then .ok suffix
  else
    match r.handle? handle with
    | some start => .ok (start ++ suffix)
    | none => .error ⟨"found undefined tag handle"⟩

/-- A tag in short form. -/
def shortTag (tag : String) : String :=
  let start := "tag:yaml.org,2002:"
  if start.toList.isPrefixOf tag.toList then "!!" ++ String.ofList (tag.toList.drop start.length)
  else tag

/-- Begin a node with an anchor: a later alias of this name stands for it. -/
def declare (r : Reader) : Option String → Reader × Option Nat
  | none => (r, none)
  | some name =>
    let n := r.anchors.length
    ({ r with anchors := (name, n) :: r.anchors }, some n)

/-- Finish a node with an anchor. -/
def define (r : Reader) (n : Option Nat) (node : Node) : Reader :=
  match n with
  | some n => { r with anchored := (n, node) :: r.anchored }
  | none => r

/-- What may stand in front of a node. -/
structure Properties where
  anchor : Option String := none
  /-- Is there a tag at all? -/
  tagged : Bool := false
  /-- The tag in short form, unless it says nothing. -/
  tag : Option String := none

/-- Read one property, if the next token is one that is not there yet. -/
def property (p : Properties) (r : Reader) : Except Error (Properties × Reader) := do
  match ← r.peek with
  | (.anchor name, r) =>
    pure (if p.anchor.isNone then ({ p with anchor := some name }, r.skip) else (p, r))
  | (.tag handle suffix, r) =>
    if p.tagged then pure (p, r)
    else
      let tag ← r.fullTag handle suffix
      let tag := if tag = "" || tag = "!" then none else some (shortTag tag)
      pure ({ p with tagged := true, tag }, r.skip)
  | (_, r) => pure (p, r)

/-- Read an anchor and a tag, in either order. -/
def properties (r : Reader) : Except Error (Properties × Reader) := do
  let (p, r) ← r.property {}
  r.property p

end Reader

open Reader

/-- The node of a place where nothing is written. -/
def emptyNode : Node := .scalar none "" true

/-- A node without content is empty if it has an anchor or a tag, and missing otherwise. -/
def nothing (p : Properties) (r : Reader) : Except Error (Node × Reader) :=
  if p.anchor.isSome || p.tagged then .ok (.scalar p.tag "" true, r)
  else .error ⟨"did not find expected node content"⟩

/-- The error of a reader that runs out of fuel. -/
def tooDeep : Error := ⟨"the document nests too deep"⟩

mutual

/-- Read a node.  Collections without brackets are read only in block context, and a sequence at the
indentation of its key only as the value of a mapping. -/
def node : Nat → Bool → Bool → Reader → Except Error (Node × Reader)
  | 0, _, _, _ => .error tooDeep
  | fuel + 1, block, indentless, r => do
    match ← r.peek with
    | (.alias name, r) =>
      match r.anchors.find? fun (n, _) => n = name with
      | some (_, target) => pure (.alias name r.scanner.taken target, r.skip)
      | none => throw ⟨"unknown anchor '" ++ name ++ "' referenced"⟩
    | (_, r) =>
      let (p, r) ← r.properties
      let (r, number) := r.declare p.anchor
      let (n, r) ← nodeContent fuel block indentless p r
      pure (n, r.define number n)

/-- Read a node after its properties. -/
def nodeContent : Nat → Bool → Bool → Properties → Reader → Except Error (Node × Reader)
  | 0, _, _, _, _ => .error tooDeep
  | fuel + 1, block, indentless, p, r => do
    match ← r.peek with
    | (.scalar text plain, r) => pure (.scalar p.tag text plain, r.skip)
    | (.flowSequenceStart, r) =>
      let (items, r) ← flowItems fuel true [] r.skip
      pure (.sequence p.tag items, r)
    | (.flowMappingStart, r) =>
      let (entries, r) ← flowEntries fuel true [] r.skip
      pure (.mapping p.tag entries, r)
    | (.blockSequenceStart, r) =>
      if block then
        let (items, r) ← blockItems fuel [] r.skip
        pure (.sequence p.tag items, r)
      else nothing p r
    | (.blockMappingStart, r) =>
      if block then
        let (entries, r) ← blockEntries fuel [] r.skip
        pure (.mapping p.tag entries, r)
      else nothing p r
    | (.blockEntry, r) =>
      if indentless then
        let (items, r) ← indentlessItems fuel [] r
        pure (.sequence p.tag items, r)
      else nothing p r
    | (_, r) => nothing p r

/-- Read the items of a block sequence; done ones are kept in reverse. -/
def blockItems : Nat → List Node → Reader → Except Error (List Node × Reader)
  | 0, _, _ => .error tooDeep
  | fuel + 1, done, r => do
    match ← r.peek with
    | (.blockEnd, r) => pure (done.reverse, r.skip)
    | (.blockEntry, r) =>
      let (t, r) ← r.skip.peek
      if t = .blockEntry || t = .blockEnd then blockItems fuel (emptyNode :: done) r
      else
        let (n, r) ← node fuel true false r
        blockItems fuel (n :: done) r
    | _ => throw ⟨"did not find expected '-' indicator"⟩

/-- Read the items of a sequence at the indentation of its key. -/
def indentlessItems : Nat → List Node → Reader → Except Error (List Node × Reader)
  | 0, _, _ => .error tooDeep
  | fuel + 1, done, r => do
    match ← r.peek with
    | (.blockEntry, r) =>
      let (t, r) ← r.skip.peek
      if t = .blockEntry || t = .key || t = .value || t = .blockEnd then
        indentlessItems fuel (emptyNode :: done) r
      else
        let (n, r) ← node fuel true false r
        indentlessItems fuel (n :: done) r
    | (_, r) => pure (done.reverse, r)

/-- Read the entries of a block mapping; done ones are kept in reverse. -/
def blockEntries : Nat → List (Node × Node) → Reader → Except Error (List (Node × Node) × Reader)
  | 0, _, _ => .error tooDeep
  | fuel + 1, done, r => do
    match ← r.peek with
    | (.blockEnd, r) => pure (done.reverse, r.skip)
    | (.key, r) =>
      let (k, r) ← blockPart fuel r.skip
      match ← r.peek with
      | (.value, r) =>
        let (v, r) ← blockPart fuel r.skip
        blockEntries fuel ((k, v) :: done) r
      | (_, r) => blockEntries fuel ((k, emptyNode) :: done) r
    | _ => throw ⟨"did not find expected key"⟩

/-- Read a key or a value of a block mapping, which may be empty. -/
def blockPart : Nat → Reader → Except Error (Node × Reader)
  | 0, _ => .error tooDeep
  | fuel + 1, r => do
    let (t, r) ← r.peek
    if t = .key || t = .value || t = .blockEnd then pure (emptyNode, r) else node fuel true true r

/-- Read the items of a bracketed sequence; done ones are kept in reverse. -/
def flowItems : Nat → Bool → List Node → Reader → Except Error (List Node × Reader)
  | 0, _, _, _ => .error tooDeep
  | fuel + 1, first, done, r => do
    match ← r.peek with
    | (.flowSequenceEnd, r) => pure (done.reverse, r.skip)
    | (t, r) =>
      if !first && t ≠ .flowEntry then throw ⟨"did not find expected ',' or ']'"⟩
      else
        match ← (if first then r else r.skip).peek with
        | (.flowSequenceEnd, r) => pure (done.reverse, r.skip)
        | (.key, r) =>
          let (n, r) ← flowPair fuel r.skip
          flowItems fuel false (n :: done) r
        | (_, r) =>
          let (n, r) ← node fuel false false r
          flowItems fuel false (n :: done) r

/-- Read a mapping of one entry inside a bracketed sequence. -/
def flowPair : Nat → Reader → Except Error (Node × Reader)
  | 0, _ => .error tooDeep
  | fuel + 1, r => do
    let (t, r) ← r.peek
    let (k, r) ←
      if t = .value || t = .flowEntry || t = .flowSequenceEnd then pure (emptyNode, r.skip)
      else node fuel false false r
    match ← r.peek with
    | (.value, r) =>
      let (v, r) ← flowPart fuel .flowSequenceEnd r.skip
      pure (.mapping none [(k, v)], r)
    | (_, r) => pure (.mapping none [(k, emptyNode)], r)

/-- Read a value inside brackets or braces, which may be empty. -/
def flowPart : Nat → Token → Reader → Except Error (Node × Reader)
  | 0, _, _ => .error tooDeep
  | fuel + 1, close, r => do
    let (t, r) ← r.peek
    if t = .flowEntry || t = close then pure (emptyNode, r) else node fuel false false r

/-- Read the entries of a mapping in braces; done ones are kept in reverse. -/
def flowEntries :
    Nat → Bool → List (Node × Node) → Reader → Except Error (List (Node × Node) × Reader)
  | 0, _, _, _ => .error tooDeep
  | fuel + 1, first, done, r => do
    match ← r.peek with
    | (.flowMappingEnd, r) => pure (done.reverse, r.skip)
    | (t, r) =>
      if !first && t ≠ .flowEntry then throw ⟨"did not find expected ',' or '\x7d'"⟩
      else
        match ← (if first then r else r.skip).peek with
        | (.flowMappingEnd, r) => pure (done.reverse, r.skip)
        | (.key, r) =>
          let (k, r) ← flowKey fuel r.skip
          match ← r.peek with
          | (.value, r) =>
            let (v, r) ← flowPart fuel .flowMappingEnd r.skip
            flowEntries fuel false ((k, v) :: done) r
          | (_, r) => flowEntries fuel false ((k, emptyNode) :: done) r
        | (_, r) =>
          let (k, r) ← node fuel false false r
          flowEntries fuel false ((k, emptyNode) :: done) r

/-- Read a key inside braces, which may be empty. -/
def flowKey : Nat → Reader → Except Error (Node × Reader)
  | 0, _ => .error tooDeep
  | fuel + 1, r => do
    let (t, r) ← r.peek
    if t = .value || t = .flowEntry || t = .flowMappingEnd then pure (emptyNode, r)
    else node fuel false false r

end

/-! ## Documents -/

/-- Is a number of a version one? -/
def isOne (s : String) : Bool :=
  match Integer.parseDecimal s with
  | .ok n => n = 1
  | .error _ => false

/-- Read the directives in front of a document. -/
def directives : Nat → Bool → Reader → Except Error Reader
  | 0, _, r => .ok r
  | fuel + 1, versioned, r => do
    match ← r.peek with
    | (.version major minor, r) =>
      if versioned then throw ⟨"found duplicate %YAML directive"⟩
      else if isOne major && isOne minor then directives fuel true r.skip
      else throw ⟨"found incompatible YAML document"⟩
    | (.tagHandle handle start, r) =>
      if r.handles.any fun (h, _) => h = handle then throw ⟨"found duplicate %TAG directive"⟩
      else directives fuel versioned { r.skip with handles := r.handles ++ [(handle, start)] }
    | (_, r) => pure r

/-- Read the root after the start of a document. -/
def content (fuel : Nat) (r : Reader) : Except Error (Node × Reader) := do
  match ← r.peek with
  | (.documentStart, r) | (.documentEnd, r) | (.streamEnd, r) => pure (emptyNode, r)
  | (.version .., r) | (.tagHandle .., r) => pure (emptyNode, r)
  | (_, r) => node fuel true false r

/-- Read the first document; `none` if there is none. -/
def first (fuel : Nat) (r : Reader) : Except Error (Option (Node × Reader)) := do
  match ← r.peek with
  | (.streamEnd, _) => pure none
  | (.documentStart, r) => some <$> content fuel r.skip
  | (.version .., r) | (.tagHandle .., r) =>
    match ← (← directives fuel false r).peek with
    | (.documentStart, r) => some <$> content fuel r.skip
    | _ => throw ⟨"did not find expected <document start>"⟩
  | (_, r) => some <$> node fuel true false r

/-- The first document of a text; `none` if there is none.  Its end is found by a look at the token after
it. -/
def parse (source : Source) : Except Error (Option Document) := do
  match ← first (16 * source.chars.length + 64) { scanner := .start source } with
  | none => pure none
  | some (root, r) =>
    let (_, r) ← r.peek
    pure (some { root, anchored := r.anchored })

/-- The node that an alias stands for; other nodes stand for themselves. -/
def follow (d : Document) : Node → Node
  | .alias name place target =>
    match d.anchored.find? fun (n, _) => n = target with
    | some (_, node) => node
    | none => .alias name place target
  | n => n

end Document

end CallCoupling.Yaml
