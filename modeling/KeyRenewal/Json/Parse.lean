import KeyRenewal.Json.Value
import KeyRenewal.Text.Hex

/-!
# Reading JSON

A text is read as one value with blanks around it. Whether a string is text is decided only after it
has been scanned, so that a part that is going to be ignored may hold half a surrogate pair. Nesting
is bounded by the length of the text alone.
-/

namespace KeyRenewal.Json

def isBlank (c : Char) : Bool := c == ' ' || c == '\n' || c == '\r' || c == '\t'

def skipBlanks (cs : List Char) : List Char := cs.dropWhile isBlank

/-- A piece of a scanned string: a character, or half of a surrogate pair. -/
inductive Piece
  | char (c : Char)
  | high (unit : Nat)
  | low (unit : Nat)
deriving DecidableEq

/-- The piece that a 16-bit unit stands for. -/
def Piece.ofUnit (unit : Nat) : Piece :=
  if 0xD800 ≤ unit ∧ unit < 0xDC00 then high unit
  else if 0xDC00 ≤ unit ∧ unit < 0xE000 then low unit
  else char (Char.ofNat unit)

/-- The text of the pieces, if every half has its other half next to it. -/
def textOf : List Piece → Option (List Char)
  | [] => some []
  | .char c :: rest => (textOf rest).map (c :: ·)
  | .high h :: .low l :: rest =>
    (textOf rest).map (Char.ofNat (0x10000 + (h - 0xD800) * 0x400 + (l - 0xDC00)) :: ·)
  | _ => none

/-- The character a one-letter escape stands for. -/
def escaped? (c : Char) : Option Char :=
  match c with
  | '"' => some '"'
  | '\\' => some '\\'
  | '/' => some '/'
  | 'b' => some '\x08'
  | 'f' => some '\x0c'
  | 'n' => some '\n'
  | 'r' => some '\r'
  | 't' => some '\t'
  | _ => none

def hexUnit? (a b c d : Char) : Option Nat := do
  let a ← Text.Hex.value? a
  let b ← Text.Hex.value? b
  let c ← Text.Hex.value? c
  let d ← Text.Hex.value? d
  return ((a * 16 + b) * 16 + c) * 16 + d

/-- The pieces up to the closing quote, and what follows it. -/
def scanString : List Char → Option (List Piece × List Char)
  | [] => none
  | '"' :: rest => some ([], rest)
  | '\\' :: 'u' :: a :: b :: c :: d :: rest => do
    let unit ← hexUnit? a b c d
    let (pieces, rest) ← scanString rest
    return (.ofUnit unit :: pieces, rest)
  | '\\' :: e :: rest => do
    let c ← escaped? e
    let (pieces, rest) ← scanString rest
    return (.char c :: pieces, rest)
  | c :: rest =>
    if c.toNat < 32 ∨ c = '\\' then none
    else do
      let (pieces, rest) ← scanString rest
      return (.char c :: pieces, rest)

def digits (cs : List Char) : List Char × List Char :=
  (cs.takeWhile Char.isDigit, cs.dropWhile Char.isDigit)

def valueOf (ds : List Char) : Nat := ds.foldl (fun n c => 10 * n + (c.toNat - 48)) 0

/-- The digits before a point or an exponent: a zero alone, or no leading zero. -/
def integerPart (cs : List Char) : Option (List Char × List Char) :=
  match digits cs with
  | ([], _) => none
  | ('0' :: _ :: _, _) => none
  | (ds, rest) => some (ds, rest)

/-- What is left after a fraction, if there is one and it has digits. -/
def skipFraction : List Char → Option (List Char)
  | '.' :: cs =>
    match digits cs with
    | ([], _) => none
    | (_, rest) => some rest
  | cs => some cs

/-- What is left after an exponent, if there is one and it has digits. -/
def skipExponent (cs : List Char) : Option (List Char) :=
  match cs with
  | c :: rest =>
    if c = 'e' ∨ c = 'E' then
      let unsigned := match rest with
        | '+' :: r => r
        | '-' :: r => r
        | r => r
      match digits unsigned with
      | ([], _) => none
      | (_, rest) => some rest
    else some cs
  | [] => some []

/-- A number: natural if it is written with digits alone. -/
def scanNumber (cs : List Char) : Option (Value × List Char) := do
  let (negative, unsigned) := match cs with
    | '-' :: r => (true, r)
    | r => (false, r)
  let (ds, afterDigits) ← integerPart unsigned
  let afterFraction ← skipFraction afterDigits
  let rest ← skipExponent afterFraction
  let isNatural := !negative && rest.length == afterDigits.length
  return (if isNatural then .natural (valueOf ds) else .other, rest)

/-- The members as an object, if all keys are text. -/
def objectOf (members : List (Option String × Value)) : Value :=
  match members.mapM (fun m => m.1.map (·, m.2)) with
  | some members => .object members
  | none => .other

def keyOf (pieces : List Piece) : Option String := (textOf pieces).map String.ofList

mutual

/-- A value and what follows it. -/
def scanValue : Nat → List Char → Option (Value × List Char)
  | 0, _ => none
  | depth + 1, cs =>
    match skipBlanks cs with
    | 'n' :: 'u' :: 'l' :: 'l' :: rest => some (.null, rest)
    | 't' :: 'r' :: 'u' :: 'e' :: rest => some (.bool true, rest)
    | 'f' :: 'a' :: 'l' :: 's' :: 'e' :: rest => some (.bool false, rest)
    | '"' :: rest => do
      let (pieces, rest) ← scanString rest
      return ((keyOf pieces).elim .other .string, rest)
    | '[' :: rest =>
      match skipBlanks rest with
      | ']' :: rest => some (.array [], rest)
      | rest => do
        let (items, rest) ← scanItems depth rest
        return (.array items, rest)
    | '\x7b' :: rest =>
      match skipBlanks rest with
      | '\x7d' :: rest => some (.object [], rest)
      | rest => do
        let (members, rest) ← scanMembers depth rest
        return (objectOf members, rest)
    | rest => scanNumber rest

/-- Items up to the closing bracket. -/
def scanItems : Nat → List Char → Option (List Value × List Char)
  | 0, _ => none
  | depth + 1, cs => do
    let (v, rest) ← scanValue depth cs
    match skipBlanks rest with
    | ',' :: rest => do
      let (items, rest) ← scanItems depth rest
      return (v :: items, rest)
    | ']' :: rest => return ([v], rest)
    | _ => none

/-- Members up to the closing brace. -/
def scanMembers : Nat → List Char → Option (List (Option String × Value) × List Char)
  | 0, _ => none
  | depth + 1, cs =>
    match skipBlanks cs with
    | '"' :: rest => do
      let (pieces, rest) ← scanString rest
      match skipBlanks rest with
      | ':' :: rest => do
        let (v, rest) ← scanValue depth rest
        match skipBlanks rest with
        | ',' :: rest => do
          let (members, rest) ← scanMembers depth rest
          return ((keyOf pieces, v) :: members, rest)
        | '\x7d' :: rest => return ([(keyOf pieces, v)], rest)
        | _ => none
      | _ => none
    | _ => none

end

/-- The value a text is written as. -/
def parse (text : String) : Option Value := do
  let cs := text.toList
  let (v, rest) ← scanValue (2 * cs.length + 2) cs
  if (skipBlanks rest).isEmpty then some v else none

end KeyRenewal.Json
