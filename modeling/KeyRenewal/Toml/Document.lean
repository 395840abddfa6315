import KeyRenewal.Toml.Number
import KeyRenewal.Toml.Text

/-!
# Reading TOML

A document is a sequence of lines: blank, a comment, a header, or a key with its value. It reads as
one table, or not at all.
-/

namespace KeyRenewal.Toml

/-- Neither arrays and tables in braces nor the parts of a key may be nested so deeply. -/
def depthLimit : Nat := 80

def isBareKeyChar (c : Char) : Bool := c.isAlphanum || c == '-' || c == '_'

/-- One part of a key. -/
def scanKeyPart : List Char → Option (String × List Char)
  | '"' :: rest => scanShort ('"' :: rest)
  | '\'' :: rest => scanShort ('\'' :: rest)
  | cs =>
    let part := cs.takeWhile isBareKeyChar
    if part.isEmpty then none else some (String.ofList part, cs.dropWhile isBareKeyChar)

/-- A key of at most so many parts: all its parts but the last, the last, and what follows. -/
def scanParts : Nat → List Char → Option (List String × String × List Char)
  | 0, _ => none
  | parts + 1, cs => do
    let (part, rest) ← scanKeyPart (skipBlanks cs)
    match skipBlanks rest with
    | '.' :: rest => do
      let (path, key, rest) ← scanParts parts rest
      return (part :: path, key, rest)
    | rest => return ([], part, rest)

def scanKey (cs : List Char) : Option (List String × String × List Char) :=
  scanParts (depthLimit - 1) cs

/-- What follows the character that must come next. -/
def expect (c : Char) : List Char → Option (List Char)
  | [] => none
  | d :: rest => if d = c then some rest else none

/-- The text after a comment, if there is one. -/
def skipComment : List Char → List Char
  | '#' :: rest => rest.dropWhile isPlain
  | cs => cs

/-- The text after blanks, line breaks and comments inside an array. -/
def skipFiller : Nat → List Char → List Char
  | 0, cs => cs
  | turns + 1, cs =>
    match skipBlanks cs with
    | '#' :: rest =>
      match lineBreak? (rest.dropWhile isPlain) with
      | some rest => skipFiller turns rest
      | none => '#' :: rest
    | cs =>
      match lineBreak? cs with
      | some rest => skipFiller turns rest
      | none => cs

/-- A table in braces from its keys and values. -/
def tableOf (pairs : List (List String × String × Value)) : Option Entries :=
  pairs.foldlM (fun entries p => addValue p.1 p.2.1 p.2.2 entries) []

mutual

/-- A value and what follows it. -/
def scanValue : Nat → Nat → List Char → Option (Value × List Char)
  | 0, _, _ => none
  | turns + 1, depth, cs =>
    match cs with
    | '"' :: _ | '\'' :: _ => (scanString cs).map fun r => (.string r.1, r.2)
    | 't' :: 'r' :: 'u' :: 'e' :: rest => some (.boolean true, rest)
    | 'f' :: 'a' :: 'l' :: 's' :: 'e' :: rest => some (.boolean false, rest)
    | '[' :: rest =>
      if depthLimit ≤ depth + 1 then none
      else do
        let (items, rest) ← scanItems turns (depth + 1) (skipFiller rest.length rest)
        return (.array items, rest)
    | '\x7b' :: rest =>
      if depthLimit ≤ depth + 1 then none
      else
        match skipBlanks rest with
        | '\x7d' :: rest => some (.table .braces [], rest)
        | rest => do
          let (pairs, rest) ← scanPairs turns (depth + 1) rest
          let entries ← tableOf pairs
          return (.table .braces entries, rest)
    | cs => scanNumber cs

/-- Items up to the closing bracket; the last may have a comma behind it. -/
def scanItems : Nat → Nat → List Char → Option (List Value × List Char)
  | 0, _, _ => none
  | turns + 1, depth, cs =>
    match cs with
    | ']' :: rest => some ([], rest)
    | cs => do
      let (v, rest) ← scanValue turns depth cs
      match skipFiller rest.length rest with
      | ',' :: rest => do
        let (items, rest) ← scanItems turns depth (skipFiller rest.length rest)
        return (v :: items, rest)
      | ']' :: rest => return ([v], rest)
      | _ => none

/-- Keys with values up to the closing brace. -/
def scanPairs : Nat → Nat → List Char → Option (List (List String × String × Value) × List Char)
  | 0, _, _ => none
  | turns + 1, depth, cs => do
    let (path, key, rest) ← scanKey cs
    let rest ← expect '=' rest
    let (v, rest) ← scanValue turns depth (skipBlanks rest)
    match skipBlanks rest with
    | ',' :: rest => do
      let (pairs, rest) ← scanPairs turns depth rest
      return ((path, key, v) :: pairs, rest)
    | '\x7d' :: rest => return ([(path, key, v)], rest)
    | _ => none

end

/-- What follows the end of a line, or of the document. -/
def endLine (cs : List Char) : Option (List Char) :=
  match skipComment (skipBlanks cs) with
  | [] => some []
  | cs => lineBreak? cs

/-- A document as far as it has been read: the header in force and the table so far. -/
structure Progress where
  header : List String
  entries : Entries

/-- One line that is neither blank nor a comment. -/
def scanLine (p : Progress) (cs : List Char) : Option (Progress × List Char) :=
  match cs with
  | '[' :: '[' :: rest => do
    let (path, key, rest) ← scanKey rest
    let rest ← expect ']' rest
    let rest ← expect ']' rest
    let entries ← openFurther path key p.entries
    return (⟨path ++ [key], entries⟩, rest)
  | '[' :: rest => do
    let (path, key, rest) ← scanKey rest
    let rest ← expect ']' rest
    let entries ← openTable path key p.entries
    return (⟨path ++ [key], entries⟩, rest)
  | cs => do
    let (path, key, rest) ← scanKey cs
    let rest ← expect '=' rest
    let rest := skipBlanks rest
    let (v, rest) ← scanValue (2 * rest.length + 2) 0 rest
    let entries ← addUnder p.header path key v p.entries
    return (⟨p.header, entries⟩, rest)

def scanDocument : Nat → Progress → List Char → Option Entries
  | 0, _, _ => none
  | turns + 1, p, cs =>
    match skipBlanks cs with
    | [] => some p.entries
    | '#' :: rest => do
      let rest ← endLine ('#' :: rest)
      scanDocument turns p rest
    | cs =>
      match lineBreak? cs with
      | some rest => scanDocument turns p rest
      | none => do
        let (p, rest) ← scanLine p cs
        let rest ← endLine rest
        scanDocument turns p rest

/-- The text without a byte-order mark at its start. -/
def withoutMark : List Char → List Char
  | '\ufeff' :: rest => rest
  | cs => cs

/-- The table a document describes. -/
def parse (document : String) : Option Entries :=
  let cs := withoutMark document.toList
  scanDocument (cs.length + 1) ⟨[], []⟩ cs

end KeyRenewal.Toml
