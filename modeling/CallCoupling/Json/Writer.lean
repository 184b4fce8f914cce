import CallCoupling.Json.Value

/-!
# Writing JSON

A value is written without any blanks, or over several lines with one step of two blanks for each
container around it.
-/

set_option autoImplicit false

namespace CallCoupling.Json

/-- A string between its quotes. -/
def quotedSpelling (s : List Char) : List Char := '"' :: s ++ ['"']

/-- The opening brace. -/
def openBrace : Char := Char.ofNat 0x7B

/-- The closing brace. -/
def closeBrace : Char := Char.ofNat 0x7D

mutual

/-- A value without blanks. -/
def compactChars : Json → List Char
  | .null => "null".toList
  | .bool true => "true".toList
  | .bool false => "false".toList
  | .number l => l.toList
  | .string s => quotedSpelling s
  | .array [] => ['[', ']']
  | .array (v :: vs) => '[' :: compactChars v ++ compactItems vs
  | .object [] => [openBrace, closeBrace]
  | .object ((k, v) :: rest) =>
    openBrace :: quotedSpelling k ++ ':' :: compactChars v ++ compactFields rest

/-- The further items of an array up to its end. -/
def compactItems : List Json → List Char
  | [] => [']']
  | v :: vs => ',' :: compactChars v ++ compactItems vs

/-- The further fields of an object up to its end. -/
def compactFields : List (List Char × Json) → List Char
  | [] => [closeBrace]
  | (k, v) :: rest => ',' :: quotedSpelling k ++ ':' :: compactChars v ++ compactFields rest

end

/-- A value without blanks. -/
def compact (v : Json) : String := String.ofList v.compactChars

/-- The start of a line at a depth. -/
def newLine (depth : Nat) : List Char := '\n' :: List.replicate (2 * depth) ' '

mutual

/-- A value over several lines, at a depth. -/
def indentedChars (depth : Nat) : Json → List Char
  | .null => "null".toList
  | .bool true => "true".toList
  | .bool false => "false".toList
  | .number l => l.toList
  | .string s => quotedSpelling s
  | .array [] => ['[', ']']
  | .array (v :: vs) =>
    '[' :: newLine (depth + 1) ++ indentedChars (depth + 1) v ++ indentedItems depth vs
  | .object [] => [openBrace, closeBrace]
  | .object ((k, v) :: rest) =>
    openBrace :: newLine (depth + 1) ++ quotedSpelling k ++ ':' :: ' ' ::
      indentedChars (depth + 1) v ++ indentedFields depth rest

/-- The further items of an array up to its end. -/
def indentedItems (depth : Nat) : List Json → List Char
  | [] => newLine depth ++ [']']
  | v :: vs =>
    ',' :: newLine (depth + 1) ++ indentedChars (depth + 1) v ++ indentedItems depth vs

/-- The further fields of an object up to its end. -/
def indentedFields (depth : Nat) : List (List Char × Json) → List Char
  | [] => newLine depth ++ [closeBrace]
  | (k, v) :: rest =>
    ',' :: newLine (depth + 1) ++ quotedSpelling k ++ ':' :: ' ' ::
      indentedChars (depth + 1) v ++ indentedFields depth rest

end

/-- A value over several lines. -/
def indented (v : Json) : String := String.ofList (v.indentedChars 0)

end CallCoupling.Json
