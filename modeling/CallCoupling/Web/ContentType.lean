import CallCoupling.Text.Loose

/-!
# Guessing a content type

A body that is sent without a content type gets one from its first bytes: markup and known signatures
first, then text, unless a byte of control says that it is none.
-/

set_option autoImplicit false

namespace CallCoupling.ContentType

/-- How many bytes are looked at. -/
def window : Nat := 512

/-- The content type of plain text. -/
def plainText : String := "text/plain; charset=utf-8"

/-- The content type of bytes that nothing is known about. -/
def unknown : String := "application/octet-stream"

/-- A blank between tags. -/
def isBlank (b : UInt8) : Bool := b = 0x09 || b = 0x0A || b = 0x0C || b = 0x0D || b = 0x20

/-- A byte that does not occur in text. -/
def isBinary (b : UInt8) : Bool :=
  b ≤ 0x08 || b = 0x0B || (0x0E ≤ b && b ≤ 0x1A) || (0x1C ≤ b && b ≤ 0x1F)

/-- The tags that open a page. -/
def pageTags : List String :=
  ["<!DOCTYPE HTML", "<HTML", "<HEAD", "<SCRIPT", "<IFRAME", "<H1", "<DIV", "<FONT", "<TABLE", "<A",
    "<STYLE", "<TITLE", "<B", "<BODY", "<BR", "<P", "<!--"]

/-- The bytes of a text. -/
def bytesOf (s : String) : List UInt8 := (Loose.ofString s).toBytes

/-- The upper case of an ASCII letter. -/
def upper (b : UInt8) : UInt8 := if 0x61 ≤ b && b ≤ 0x7A then b - 0x20 else b

/-- Do bytes start with a tag, followed by a blank or the end of the tag? -/
def opensPage (bytes : List UInt8) (tag : String) : Bool :=
  let t := bytesOf tag
  (bytes.take t.length).map upper == t &&
    (match bytes.drop t.length with
      | b :: _ => b = 0x20 || b = 0x3E
      | [] => false)

/-- A signature: some bytes, of which `none` may be any, and the content type they tell. -/
structure Signature where
  bytes : List (Option UInt8)
  kind : String

namespace Signature

/-- A signature of bytes that are all fixed. -/
def exact (bytes : List UInt8) (kind : String) : Signature := ⟨bytes.map some, kind⟩

/-- A signature of a text. -/
def text (s kind : String) : Signature := exact (bytesOf s) kind

/-- A container with its name, four bytes of any kind, and the name of its content. -/
def container (outer inner kind : String) : Signature :=
  ⟨(bytesOf outer).map some ++ List.replicate 4 none ++ (bytesOf inner).map some, kind⟩

/-- Does the signature fit? -/
def fits (s : Signature) (bytes : List UInt8) : Bool :=
  s.bytes.length ≤ bytes.length &&
    (s.bytes.zip bytes).all fun (want, b) => match want with
      | some w => w = b
      | none => true

end Signature

/-- The signatures that may follow blanks. -/
def afterBlanks : List Signature := [.text "<?xml" "text/xml; charset=utf-8"]

/-- The signatures at the start of a body that are looked for before that of a film. -/
def signatures : List Signature :=
  [.text "%PDF-" "application/pdf", .text "%!PS-Adobe-" "application/postscript",
    ⟨[some 0xFE, some 0xFF, none, none], "text/plain; charset=utf-16be"⟩,
    ⟨[some 0xFF, some 0xFE, none, none], "text/plain; charset=utf-16le"⟩,
    ⟨[some 0xEF, some 0xBB, some 0xBF, none], plainText⟩,
    .exact [0x00, 0x00, 0x01, 0x00] "image/x-icon", .exact [0x00, 0x00, 0x02, 0x00] "image/x-icon",
    .text "BM" "image/bmp", .text "GIF87a" "image/gif", .text "GIF89a" "image/gif",
    .container "RIFF" "WEBPVP" "image/webp",
    .exact [0x89, 0x50, 0x4E, 0x47, 0x0D, 0x0A, 0x1A, 0x0A] "image/png",
    .exact [0xFF, 0xD8, 0xFF] "image/jpeg",
    .container "FORM" "AIFF" "audio/aiff", .text "ID3" "audio/mpeg",
    .exact (bytesOf "OggS" ++ [0x00]) "application/ogg",
    .exact (bytesOf "MThd" ++ [0x00, 0x00, 0x00, 0x06]) "audio/midi",
    .container "RIFF" "AVI " "video/avi", .container "RIFF" "WAVE" "audio/wave"]

/-- The signatures at the start of a body that are looked for after that of a film. -/
def laterSignatures : List Signature :=
  [.exact [0x1A, 0x45, 0xDF, 0xA3] "video/webm",
    ⟨List.replicate 34 none ++ (bytesOf "LP").map some, "application/vnd.ms-fontobject"⟩,
    .exact [0x00, 0x01, 0x00, 0x00] "font/ttf", .text "OTTO" "font/otf", .text "ttcf" "font/collection",
    .text "wOFF" "font/woff", .text "wOF2" "font/woff2",
    .exact [0x1F, 0x8B, 0x08] "application/x-gzip",
    .exact (bytesOf "PK" ++ [0x03, 0x04]) "application/zip",
    .exact (bytesOf "Rar!" ++ [0x1A, 0x07, 0x00]) "application/x-rar-compressed",
    .exact (bytesOf "Rar!" ++ [0x1A, 0x07, 0x01, 0x00]) "application/x-rar-compressed",
    .exact (0x00 :: bytesOf "asm") "application/wasm"]

/-- The number that bytes spell, the highest byte first. -/
def bigEndian (bytes : List UInt8) : Nat := bytes.foldl (fun n b => n * 256 + b.toNat) 0

/-- Words of four bytes each. -/
def words : List UInt8 → List (List UInt8)
  | a :: b :: c :: d :: rest => [a, b, c, d] :: words rest
  | _ => []

/-- Do bytes start with a box that describes a film?  The box tells its own size, and one of its brands
begins with `mp4`; the word after the first brand is its version and no brand. -/
def opensFilm (bytes : List UInt8) : Bool :=
  let size := bigEndian (bytes.take 4)
  12 ≤ bytes.length && size ≤ bytes.length && size % 4 = 0 &&
    (match words (bytes.take size) with
      | _ :: kind :: brand :: rest =>
        kind == bytesOf "ftyp" && (brand :: rest.drop 1).any fun w => w.take 3 == bytesOf "mp4"
      | _ => false)

/-- The content type of a body. -/
def guess (body : List UInt8) : String :=
  let bytes := body.take window
  let shown := bytes.dropWhile isBlank
  if pageTags.any (opensPage shown) then "text/html; charset=utf-8"
  else
    match (afterBlanks.find? (·.fits shown)).or (signatures.find? (·.fits bytes)) with
    | some s => s.kind
    | none =>
      if opensFilm bytes then "video/mp4"
      else
        match laterSignatures.find? (·.fits bytes) with
        | some s => s.kind
        | none => if shown.any isBinary then unknown else plainText

end CallCoupling.ContentType
