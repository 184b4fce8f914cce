import CallCoupling.Config.Setting
import CallCoupling.Text.Quoted

/-!
# Configuration files

A configuration file is a TOML document: lines that set keys, and headings that open tables.  The reader
keeps a tree of what has been defined and how (`Item`), because a key may be set once only and a table
opened once only.

Each step takes characters from the front and returns the rest, or `none` if the text is wrong.  Nested
values take fuel, and the length of the text is enough.
-/

set_option autoImplicit false

namespace CallCoupling.Toml

/-! ## Blanks, comments and line ends -/

/-- A blank within a line. -/
def isBlank (c : Char) : Bool := c = ' ' || c = '\t'

/-- Pass blanks. -/
def blanks (s : List Char) : List Char := s.dropWhile isBlank

/-- A control character that may not be written. -/
def isControl (c : Char) : Bool := (c.toNat < 0x20 && c ≠ '\t') || c.toNat = 0x7F

/-- Pass a line end. -/
def lineEnd? : List Char → Option (List Char)
  | '\n' :: rest => some rest
  | '\r' :: '\n' :: rest => some rest
  | _ => none

/-- Pass a comment up to its line end. -/
def comment? : List Char → Option (List Char)
  | '#' :: rest =>
    let body := rest.takeWhile fun c => c ≠ '\n'
    let after := rest.drop body.length
    let (body, after) :=
      match body.getLast? with
      | some '\r' => if after.isEmpty then (body, after) else (body.dropLast, '\r' :: after)
      | _ => (body, after)
    if body.any isControl then none else some after
  | s => some s

/-- Pass what may follow an expression on its line. -/
def finishLine? (s : List Char) : Option (List Char) :=
  match comment? (blanks s) with
  | some [] => some []
  | some s => lineEnd? s
  | none => none

/-- Pass blanks, comments and line ends between values. -/
def gap? : Nat → List Char → Option (List Char)
  | 0, s => some s
  | fuel + 1, s =>
    match comment? (blanks s) with
    | none => none
    | some s =>
      match lineEnd? s with
      | some s => gap? fuel s
      | none => some s

/-! ## Strings -/

/-- The number that hexadecimal digits spell. -/
def hexValue? (s : List Char) : Option Nat :=
  s.foldl (fun n c => do
    let n ← n
    let d ← (Integer.digitValue? c).filter (· < 16)
    pure (n * 16 + d)) (some 0)

/-- The character of an escape, after its backslash. -/
def escape? : List Char → Option (Char × List Char)
  | 'b' :: s => some (Char.ofNat 8, s)
  | 't' :: s => some ('\t', s)
  | 'n' :: s => some ('\n', s)
  | 'f' :: s => some (Char.ofNat 12, s)
  | 'r' :: s => some ('\r', s)
  | 'e' :: s => some (Char.ofNat 0x1B, s)
  | '"' :: s => some ('"', s)
  | '\\' :: s => some ('\\', s)
  | u :: s =>
    let width := if u = 'u' then 4 else if u = 'U' then 8 else 0
    let digits := s.take width
    if width = 0 || digits.length < width then none
    else
      match hexValue? digits with
      | some n =>
        if (0xD800 ≤ n && n ≤ 0xDFFF) || n > 0x10FFFF then none
        else some (Char.ofNat n, s.drop width)
      | none => none
  | [] => none

/-- Read a basic string after its opening quote; the text is kept in reverse. -/
def basic? : Nat → List Char → List Char → Option (List Char × List Char)
  | 0, _, _ => none
  | _ + 1, _, [] => none
  | fuel + 1, acc, c :: s =>
    if c = '"' then some (acc.reverse, s)
    else if c = '\\' then
      match escape? s with
      | some (x, s) => basic? fuel (x :: acc) s
      | none => none
    else if isControl c then none
    else basic? fuel (c :: acc) s

/-- Read a literal string after its opening quote. -/
def literal? (s : List Char) : Option (List Char × List Char) :=
  let body := s.takeWhile (· ≠ '\'')
  match s.drop body.length with
  | _ :: rest => if body.any isControl then none else some (body, rest)
  | [] => none

/-- The number of equal characters in front. -/
def runLength (c : Char) (s : List Char) : Nat := (s.takeWhile (· = c)).length

/-- Pass the first line end of a string of several lines. -/
def dropLineEnd (s : List Char) : List Char := (lineEnd? s).getD s

/-- Pass blanks and line ends. -/
def dropGap : List Char → List Char
  | '\r' :: '\n' :: s => dropGap s
  | c :: s => if isBlank c || c = '\n' then dropGap s else c :: s
  | [] => []

/-- Pass blanks and line ends after a backslash at the end of a line. -/
def joined? (s : List Char) : Option (List Char) := (lineEnd? (blanks s)).map dropGap

/-- Read a string of several lines after its opening quotes.  Up to two quotes may stand right before the
closing three. -/
def multi? (quote : Char) : Nat → List Char → List Char → Option (List Char × List Char)
  | 0, _, _ => none
  | _ + 1, _, [] => none
  | fuel + 1, acc, c :: s =>
    if c = quote then
      let n := runLength quote (c :: s)
      if n ≥ 6 then none
      else if n ≥ 3 then some ((List.replicate (n - 3) quote ++ acc).reverse, (c :: s).drop n)
      else multi? quote fuel (List.replicate n quote ++ acc) ((c :: s).drop n)
    else if c = '\\' && quote = '"' then
      match escape? s, joined? s with
      | some (x, s), _ => multi? quote fuel (x :: acc) s
      | none, some s => multi? quote fuel acc s
      | none, none => none
    else if c = '\n' then multi? quote fuel (c :: acc) s
    else if c = '\r' && s.head? = some '\n' then multi? quote fuel ('\n' :: '\r' :: acc) s.tail
    else if isControl c then none
    else multi? quote fuel (c :: acc) s

/-- Read a string. -/
def string? (s : List Char) : Option (List Char × List Char) :=
  match s with
  | '"' :: '"' :: '"' :: rest => multi? '"' (rest.length + 1) [] (dropLineEnd rest)
  | '\'' :: '\'' :: '\'' :: rest => multi? '\'' (rest.length + 1) [] (dropLineEnd rest)
  | '"' :: rest => basic? (rest.length + 1) [] rest
  | '\'' :: rest => literal? rest
  | _ => none

/-! ## Numbers, truth values and times -/

/-- Does a character end a value that is not quoted? -/
def endsWord (c : Char) : Bool :=
  isBlank c || c = '\n' || c = '\r' || c = ',' || c = ']' || c = '#' || c.toNat = 0x7D

/-- Digits with single underscores between them, the underscores left out. -/
def digits? (ok : Char → Bool) : List Char → Option (List Char)
  | [] => none
  | [c] => if ok c then some [c] else none
  | c :: '_' :: rest => if ok c then (digits? ok rest).map (c :: ·) else none
  | c :: rest => if ok c then (digits? ok rest).map (c :: ·) else none

/-- The number of digits in a base, if it fits. -/
def inBase? (base : Nat) (s : List Char) : Option Int :=
  let ok (c : Char) : Bool := ((Integer.digitValue? c).filter (· < base)).isSome
  match digits? ok s with
  | some ds =>
    match Integer.readDigits base false 0 ds with
    | .ok n => (Integer.signed false n).toOption
    | .error _ => none
  | none => none

/-- Digits without a zero in front of others. -/
def plainDigits? (s : List Char) : Option (List Char) :=
  match digits? Char.isDigit s with
  | some ('0' :: _ :: _) => none
  | r => r

/-- A whole number. -/
def int? (s : List Char) : Option Int :=
  match s with
  | '0' :: 'x' :: rest => inBase? 16 rest
  | '0' :: 'o' :: rest => inBase? 8 rest
  | '0' :: 'b' :: rest => inBase? 2 rest
  | _ =>
    let (negative, body) := Integer.signOf s
    match plainDigits? body with
    | some ds =>
      match Integer.readDigits 10 false 0 ds with
      | .ok n => (Integer.signed negative n).toOption
      | .error _ => none
    | none => none

/-- The number that decimal digits spell. -/
def natOf (ds : List Char) : Nat := ds.foldl (fun n c => n * 10 + (c.toNat - 48)) 0

/-- An exponent after its letter. -/
def exponent? (s : List Char) : Option Int :=
  let (negative, body) := Integer.signOf s
  (digits? Char.isDigit body).map fun ds =>
    if negative then -(natOf ds : Int) else (natOf ds : Int)

/-- A number with a fraction, an exponent or both, without its sign. -/
def fraction? (s : List Char) : Option (Nat × Int) :=
  let isExponent (c : Char) : Bool := c = 'e' || c = 'E'
  let head := s.takeWhile fun c => !isExponent c
  let tail := s.drop head.length
  let exponent := match tail with
    | [] => some 0
    | _ :: rest => exponent? rest
  let whole := head.takeWhile (· ≠ '.')
  let part := match head.drop whole.length with
    | [] => if tail.isEmpty then none else some []
    | _ :: rest => digits? Char.isDigit rest
  match plainDigits? whole, part, exponent with
  | some w, some p, some e => some (natOf (w ++ p), e - (p.length : Int))
  | _, _, _ => none

/-- A number that is not whole. -/
def float? (s : List Char) : Option Binary :=
  let (negative, body) := Integer.signOf s
  if body = "inf".toList then some (.infinite negative)
  else if body = "nan".toList then some .nan
  else
    match fraction? body with
    | some (n, e) =>
      match Binary.ofDecimal negative n e with
      | .infinite _ => none
      | x => some x
    | none => none

/-- Exactly two digits that spell a number of at most `limit`. -/
def two? (limit : Nat) : List Char → Option (List Char)
  | a :: b :: rest =>
    if a.isDigit && b.isDigit && natOf [a, b] ≤ limit then some rest else none
  | _ => none

/-- The days of a month. -/
def daysOf (year month : Nat) : Nat :=
  if month = 2 then
    (if year % 4 = 0 && (year % 100 ≠ 0 || year % 400 = 0) then 29 else 28)
  else if [4, 6, 9, 11].contains month then 30
  else 31

/-- Pass a date. -/
def date? : List Char → Option (List Char)
  | a :: b :: c :: d :: '-' :: e :: f :: '-' :: g :: h :: rest =>
    if [a, b, c, d, e, f, g, h].all Char.isDigit then
      let year := natOf [a, b, c, d]
      let month := natOf [e, f]
      let day := natOf [g, h]
      if 1 ≤ month && month ≤ 12 && 1 ≤ day && day ≤ daysOf year month then some rest else none
    else none
  | _ => none

/-- Pass a time of day with an optional fraction of a second. -/
def time? (s : List Char) : Option (List Char) :=
  match two? 23 s with
  | some (':' :: s) =>
    match two? 59 s with
    | some (':' :: s) =>
      match two? 60 s with
      | some ('.' :: s) =>
        let part := s.takeWhile Char.isDigit
        if part.isEmpty then none else some (s.drop part.length)
      | r => r
    | _ => none
  | _ => none

/-- Pass a distance from universal time. -/
def offset? : List Char → Option (List Char)
  | [] => some []
  | 'Z' :: s | 'z' :: s => some s
  | c :: s =>
    if c = '+' || c = '-' then
      match two? 23 s with
      | some (':' :: s) => two? 59 s
      | _ => none
    else none

/-- Is a word a date, a time or both? -/
def isMoment (s : List Char) : Bool :=
  match date? s with
  | some [] => true
  | some (sep :: rest) =>
    (sep = 'T' || sep = 't' || sep = ' ') && ((time? rest).bind offset?) = some []
  | none => time? s = some []

/-- Read a value that is not quoted.  A blank may stand between a date and a time. -/
def word? (s : List Char) : Option (Setting × List Char) :=
  let word := s.takeWhile fun c => !endsWord c
  let rest := s.drop word.length
  let withTime := match rest with
    | ' ' :: c :: more =>
      if date? word = some [] && c.isDigit then
        ' ' :: (c :: more).takeWhile fun c => !endsWord c
      else []
    | _ => []
  let word := word ++ withTime
  let rest := rest.drop withTime.length
  if word = "true".toList then some (.bool true, rest)
  else if word = "false".toList then some (.bool false, rest)
  else
    match int? word, float? word with
    | some n, _ => some (.int n, rest)
    | none, some x => some (.float x, rest)
    | none, none => if isMoment word then some (.moment, rest) else none

/-! ## Keys -/

/-- A character of a key that is not quoted. -/
def isKeyChar (c : Char) : Bool := c.isAlphanum || c = '_' || c = '-'

/-- Read one part of a key. -/
def keyPart? (s : List Char) : Option (String × List Char) :=
  match s with
  | '"' :: rest => (basic? (rest.length + 1) [] rest).map fun (k, s) => (String.ofList k, s)
  | '\'' :: rest => (literal? rest).map fun (k, s) => (String.ofList k, s)
  | _ =>
    let k := s.takeWhile isKeyChar
    if k.isEmpty then none else some (String.ofList k, s.drop k.length)

/-- Read a key of parts divided by points; blanks after it are passed. -/
def key? : Nat → List Char → Option (List String × List Char)
  | 0, _ => none
  | fuel + 1, s =>
    match keyPart? s with
    | none => none
    | some (k, s) =>
      match blanks s with
      | '.' :: rest => (key? fuel (blanks rest)).map fun (ks, s) => (k :: ks, s)
      | s => some ([k], s)

/-! ## What has been defined -/

/-- What stands under a key. -/
inductive Item where
  | value (v : Setting)
  /-- A table: opened by a heading or closed to additions, made by a dotted key of the open table, and its
  fields. -/
  | table (closed dotted : Bool) (fields : List (String × Item))
  /-- A list of tables, the finished ones and the fields of the last. -/
  | tables (done : List Setting) (fields : List (String × Item))
deriving Inhabited

mutual

/-- The setting that an item makes. -/
def Item.setting : Item → Setting
  | .value v => v
  | .table _ _ fields => .group (settings fields)
  | .tables done fields => .list (done ++ [.group (settings fields)])

/-- The settings that items make. -/
def settings : List (String × Item) → List (String × Setting)
  | [] => []
  | (k, i) :: rest => (k, i.setting) :: settings rest

end

mutual

/-- Close the tables that dotted keys have made, now that another heading follows. -/
def Item.close : Item → Item
  | .value v => .value v
  | .table closed dotted fields => .table (closed || dotted) false (closeFields fields)
  | .tables done fields => .tables done (closeFields fields)

/-- Close the tables among items. -/
def closeFields : List (String × Item) → List (String × Item)
  | [] => []
  | (k, i) :: rest => (k, i.close) :: closeFields rest

end

/-- The item under a name. -/
def find? (fields : List (String × Item)) (name : String) : Option Item :=
  (fields.find? fun (k, _) => k = name).map (·.2)

/-- Put an item under a name. -/
def put (name : String) (i : Item) : List (String × Item) → List (String × Item)
  | [] => [(name, i)]
  | (k, j) :: rest => if k = name then (name, i) :: rest else (k, j) :: put name i rest

/-- Set a key below the open table.  No part of it may be a value, and the tables on its way may not be
closed. -/
def setKey : List String → Setting → List (String × Item) → Option (List (String × Item))
  | [], _, _ => none
  | [name], v, fields =>
    match find? fields name with
    | some _ => none
    | none => some (fields ++ [(name, .value v)])
  | name :: rest, v, fields =>
    match find? fields name with
    | none => (setKey rest v []).map fun inner => fields ++ [(name, .table false true inner)]
    | some (.table false dotted inner) =>
      (setKey rest v inner).map fun inner => put name (.table false dotted inner) fields
    | some _ => none

/-- Open a table by its heading. -/
def openTable : List String → List (String × Item) → Option (List (String × Item))
  | [], _ => none
  | [name], fields =>
    match find? fields name with
    | none => some (fields ++ [(name, .table true false [])])
    | some (.table false _ inner) => some (put name (.table true false inner) fields)
    | some _ => none
  | name :: rest, fields =>
    match find? fields name with
    | none => (openTable rest []).map fun inner => fields ++ [(name, .table false false inner)]
    | some (.table closed dotted inner) =>
      (openTable rest inner).map fun inner => put name (.table closed dotted inner) fields
    | some (.tables done inner) =>
      (openTable rest inner).map fun inner => put name (.tables done inner) fields
    | some (.value _) => none

/-- Open the next table of a list by its heading. -/
def openListed : List String → List (String × Item) → Option (List (String × Item))
  | [], _ => none
  | [name], fields =>
    match find? fields name with
    | none => some (fields ++ [(name, .tables [] [])])
    | some (.tables done inner) =>
      some (put name (.tables (done ++ [.group (settings inner)]) []) fields)
    | some _ => none
  | name :: rest, fields =>
    match find? fields name with
    | none => (openListed rest []).map fun inner => fields ++ [(name, .table false false inner)]
    | some (.table closed dotted inner) =>
      (openListed rest inner).map fun inner => put name (.table closed dotted inner) fields
    | some (.tables done inner) =>
      (openListed rest inner).map fun inner => put name (.tables done inner) fields
    | some (.value _) => none

/-- Set a key below the table that a heading has opened. -/
def setBelow : List String → List String → Setting → List (String × Item) →
    Option (List (String × Item))
  | [], key, v, fields => setKey key v fields
  | name :: rest, key, v, fields =>
    match find? fields name with
    | some (.table closed dotted inner) =>
      (setBelow rest key v inner).map fun inner => put name (.table closed dotted inner) fields
    | some (.tables done inner) =>
      (setBelow rest key v inner).map fun inner => put name (.tables done inner) fields
    | _ => none

/-! ## Values -/

mutual

/-- Read a value. -/
def value? : Nat → List Char → Option (Setting × List Char)
  | 0, _ => none
  | fuel + 1, s =>
    match s with
    | [] => none
    | c :: rest =>
      if c = '"' || c = '\'' then
        (string? s).map fun (t, s) => (.text (String.ofList t), s)
      else if c = '[' then
        match gap? s.length rest with
        | some s => items? fuel [] s
        | none => none
      else if c.toNat = 0x7B then
        match blanks rest with
        | d :: rest' =>
          if d.toNat = 0x7D then some (.group [], rest') else entries? fuel [] (d :: rest')
        | [] => none
      else word? s

/-- Read the items of a list up to its bracket; done ones are kept in reverse. -/
def items? : Nat → List Setting → List Char → Option (Setting × List Char)
  | 0, _, _ => none
  | fuel + 1, done, s =>
    match s with
    | ']' :: rest => some (.list done.reverse, rest)
    | _ =>
      match value? fuel s with
      | none => none
      | some (v, s) =>
        match gap? s.length s with
        | some (',' :: rest) =>
          match gap? rest.length rest with
          | some s => items? fuel (v :: done) s
          | none => none
        | some (']' :: rest) => some (.list (v :: done).reverse, rest)
        | _ => none

/-- Read the entries of a table in braces up to its brace. -/
def entries? : Nat → List (String × Item) → List Char → Option (Setting × List Char)
  | 0, _, _ => none
  | fuel + 1, fields, s =>
    match key? s.length (blanks s) with
    | some (key, '=' :: rest) =>
      match value? fuel (blanks rest) with
      | none => none
      | some (v, s) =>
        match setKey key v fields with
        | none => none
        | some fields =>
          match blanks s with
          | ',' :: rest => entries? fuel fields rest
          | c :: rest => if c.toNat = 0x7D then some (.group (settings fields), rest) else none
          | [] => none
    | _ => none

end

/-! ## Documents -/

/-- Read the key of a heading up to its closing brackets. -/
def heading? (close : List Char) (s : List Char) : Option (List String × List Char) :=
  match key? s.length (blanks s) with
  | some (key, s) =>
    if close.isPrefixOf s then (finishLine? (s.drop close.length)).map fun s => (key, s) else none
  | none => none

/-- Read lines; `path` names the open table. -/
def lines? : Nat → List String → List (String × Item) → List Char → Option (List (String × Item))
  | 0, _, fields, s => if s.isEmpty then some fields else none
  | fuel + 1, path, fields, s =>
    match blanks s with
    | [] => some fields
    | '[' :: '[' :: rest =>
      match heading? [']', ']'] rest with
      | some (key, s) =>
        match openListed key (closeFields fields) with
        | some fields => lines? fuel key fields s
        | none => none
      | none => none
    | '[' :: rest =>
      match heading? [']'] rest with
      | some (key, s) =>
        match openTable key (closeFields fields) with
        | some fields => lines? fuel key fields s
        | none => none
      | none => none
    | c :: rest =>
      if c = '#' || c = '\n' || c = '\r' then
        match finishLine? (c :: rest) with
        | some s => lines? fuel path fields s
        | none => none
      else
        match key? (c :: rest).length (c :: rest) with
        | some (key, '=' :: rest) =>
          match value? (rest.length + 1) (blanks rest) with
          | none => none
          | some (v, s) =>
            match setBelow path key v fields, finishLine? s with
            | some fields, some s => lines? fuel path fields s
            | _, _ => none
        | _ => none

/-- The settings of a document. -/
def parse? (s : String) : Option Setting :=
  (lines? (s.toList.length + 1) [] [] s.toList).map fun fields => .group (settings fields)

end CallCoupling.Toml
