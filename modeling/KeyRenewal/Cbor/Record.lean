import KeyRenewal.BigEndian
import KeyRenewal.Cbor.Item
import KeyRenewal.Credential
import KeyRenewal.Text.Hex
import KeyRenewal.Text.Utf8

/-!
# Records in CBOR

A record is a map of its fields; no field may be given twice. Tags before anything that is wanted
count for nothing. A field that is not known is skipped, but it must be something that can be
skipped: not nested too deeply and without values that have no meaning.
-/

namespace KeyRenewal.Cbor

/-- How deeply arrays and maps may be nested. -/
def depthLimit : Nat := 256

/-- The longest key, and the longest hexadecimal text. -/
def shortLimit : Nat := 4096

/-- The item behind its tags. -/
def untag : Item → Item
  | .tag _ item => untag item
  | item => item

def withoutLeadingZeros (bytes : List UInt8) : List UInt8 := bytes.dropWhile (· == 0)

/-- Whether bytes after a big-number tag can be skipped. A negative number of at most 128 bits is
read with its sign, which takes one of them. -/
def isBigNumber (negative : Bool) (content : List UInt8) : Bool :=
  !negative || decide (16 < (withoutLeadingZeros content).length) ||
    decide (BigEndian.decode content < 1 <<< 127)

mutual

/-- Whether an item can be skipped with so many levels of nesting left. -/
def skippable : Nat → Item → Bool
  | _, .natural _ | _, .negative _ | _, .bytes .. | _, .text .. | _, .float _ => true
  | _, .simple code => decide (20 ≤ code) && decide (code ≤ 23)
  | depth, .array items => decide (depth ≠ 0) && skippableAll (depth - 1) items
  | depth, .map entries => decide (depth ≠ 0) && skippableEntries (depth - 1) entries
  | depth, .tag number item =>
    match item with
    | .bytes _ content =>
      if number = 2 ∨ number = 3 then isBigNumber (number = 3) content else decide (depth ≠ 0)
    | item => decide (depth ≠ 0) && skippable (depth - 1) item

def skippableAll : Nat → List Item → Bool
  | _, [] => true
  | depth, item :: rest => skippable depth item && skippableAll depth rest

def skippableEntries : Nat → List (Item × Item) → Bool
  | _, [] => true
  | depth, (key, value) :: rest =>
    skippable depth key && (skippable depth value && skippableEntries depth rest)

end

/-- The name a key spells: a text, or bytes, of which those that are no text spell none. -/
def keyName : Item → Option (Option String)
  | .text true name => if name.utf8ByteSize ≤ shortLimit then some (some name) else none
  | .bytes true content =>
    if content.length ≤ shortLimit then some (Text.Utf8.decode content) else none
  | _ => none

/-- The entries of a map with the names of their keys. -/
def namedEntries (entries : List (Item × Item)) : Option (List (Option String × Item)) :=
  entries.mapM fun e => (keyName (untag e.1)).map (·, e.2)

/-- The value of one field, if it is given once; none if it is given twice. -/
def field (entries : List (Option String × Item)) (name : String) : Option (Option Item) :=
  match entries.filter (fun e => e.1 == some name) with
  | [] => some none
  | [e] => some (some e.2)
  | _ => none

/-- Whether an entry is no field of the record. -/
def isStranger (names : List String) (key : Option String) : Bool :=
  match key with
  | some name => !names.contains name
  | none => true

/-- The values of the fields in order, as far as they are given. -/
def fields (depth : Nat) (names : List String) (item : Item) : Option (List (Option Item)) :=
  match untag item with
  | .map entries => do
    if depth = 0 then none
    else
      let entries ← namedEntries entries
      if (entries.filter fun e => isStranger names e.1).all fun e => skippable (depth - 1) e.2 then
        names.mapM (field entries)
      else none
  | _ => none

def needed {α : Type} (decode : Item → Option α) (item : Option Item) : Option α :=
  item.bind decode

def orElse {α : Type} (default : α) (decode : Item → Option α) (item : Option Item) : Option α :=
  match item with
  | some item => decode item
  | none => some default

/-- A value or null; undefined counts as null. -/
def asNullable {α : Type} (decode : Item → Option α) : Item → Option (Option α)
  | .simple 22 | .simple 23 => some none
  | item => (decode item).map some

/-- A number of 64 bits, plain or as a big number. -/
def asWord : Item → Option UInt64
  | .natural n => some n
  | .tag number item =>
    if number = 2 then
      match item with
      | .bytes _ content =>
        if (withoutLeadingZeros content).length ≤ 16 ∧ BigEndian.decode content < UInt64.size then
          some (UInt64.ofNat (BigEndian.decode content))
        else none
      | _ => none
    else if number = 3 then none
    else asWord item
  | _ => none

def asByte (item : Item) : Option UInt8 := do
  let n ← asWord item
  if n < 256 then some (UInt8.ofNat n.toNat) else none

def asText (item : Item) : Option String :=
  match untag item with
  | .text _ content => some content
  | _ => none

/-- The items of an array, or the bytes of a string one by one. -/
def asList {α : Type} (decode : Item → Option α) (item : Item) : Option (List α) :=
  match untag item with
  | .array items => items.mapM decode
  | .bytes _ content => content.mapM fun b => decode (.natural (UInt64.ofNat b.toNat))
  | _ => none

def asBytes (item : Item) : Option (List UInt8) := asList asByte item

def asRound (item : Item) : Option Round := (asWord item).map Round.mk

/-- Thirty-two bytes in hexadecimal, in one piece. -/
def asHex32 (item : Item) : Option Bytes32 :=
  match untag item with
  | .text true content => (Text.Hex.decode content).bind Bytes32.ofList?
  | _ => none

def ofRound (r : Round) : Item := .natural r.number

def ofByte (b : UInt8) : Item := .natural (UInt64.ofNat b.toNat)

def ofBytes (bytes : List UInt8) : Item := .array (bytes.map ofByte)

def ofHex32 (b : Bytes32) : Item := .ofText (Text.Hex.encode b.bytes)

/-- A record with its fields in order. -/
def record (fields : List (String × Item)) : Item :=
  .map (fields.map fun f => (.ofText f.1, f.2))

end KeyRenewal.Cbor
