import KeyRenewal.Credential
import KeyRenewal.Json.Value
import KeyRenewal.Text.Hex

/-!
# Records in JSON

A record is an object of its fields or an array of them in order. No field may be given twice.
A field that has a default may be left out; unknown fields are ignored or refused.
-/

namespace KeyRenewal.Json

/-- What becomes of members that are no field of a record. -/
inductive Strangers
  | ignored
  | refused
deriving DecidableEq

/-- The value of one field, if it is given once; none if it is given twice. -/
def field (members : List (String × Value)) (name : String) : Option (Option Value) :=
  match members.filter (fun m => m.1 == name) with
  | [] => some none
  | [m] => some (some m.2)
  | _ => none

/-- The values of the fields in order, as far as they are given. -/
def Value.fields (strangers : Strangers) (names : List String) : Value → Option (List (Option Value))
  | .object members =>
    if strangers = .refused ∧ !(members.all fun m => names.contains m.1) then none
    else names.mapM (field members)
  | .array items =>
    if names.length < items.length then none
    else some (items.map some ++ List.replicate (names.length - items.length) none)
  | _ => none

/-- A field that must be given. -/
def needed {α : Type} (decode : Value → Option α) (v : Option Value) : Option α := v.bind decode

/-- A field with a default. -/
def orElse {α : Type} (default : α) (decode : Value → Option α) (v : Option Value) : Option α :=
  match v with
  | some v => decode v
  | none => some default

/-- A value or null. -/
def asNullable {α : Type} (decode : Value → Option α) : Value → Option (Option α)
  | .null => some none
  | v => (decode v).map some

def asWord (v : Value) : Option UInt64 :=
  match v.natural? with
  | some n => if n < UInt64.size then some (UInt64.ofNat n) else none
  | none => none

def asByte (v : Value) : Option UInt8 :=
  match v.natural? with
  | some n => if n < UInt8.size then some (UInt8.ofNat n) else none
  | none => none

def asList {α : Type} (decode : Value → Option α) (v : Value) : Option (List α) :=
  v.array?.bind (·.mapM decode)

def asBytes (v : Value) : Option (List UInt8) := asList asByte v

def asRound (v : Value) : Option Round := (asWord v).map Round.mk

def asAddress (v : Value) : Option Address := v.string?.map Address.mk

def asPath (v : Value) : Option Path := v.string?.map Path.mk

/-- Thirty-two bytes in hexadecimal. -/
def asHex32 (v : Value) : Option Bytes32 := (v.string?.bind Text.Hex.decode).bind Bytes32.ofList?

/-- Thirty-two bytes one by one. -/
def asBytes32 (v : Value) : Option Bytes32 := (asBytes v).bind Bytes32.ofList?

/-- One of several names, alone or as the only key of an object that holds null. -/
def asChoice {α : Type} (names : List (String × α)) : Value → Option α
  | .string name => names.lookup name
  | .object [(name, .null)] => names.lookup name
  | _ => none

def ofWord64 (n : UInt64) : Value := .natural n.toNat

def ofByte (b : UInt8) : Value := .natural b.toNat

def ofBytes (bytes : List UInt8) : Value := .array (bytes.map ofByte)

def ofRound (r : Round) : Value := ofWord64 r.number

def ofHex32 (b : Bytes32) : Value := .string (Text.Hex.encode b.bytes)

def ofNullable {α : Type} (encode : α → Value) : Option α → Value
  | some a => encode a
  | none => .null

/-- The name of a choice. -/
def ofChoice {α : Type} [DecidableEq α] (names : List (String × α)) (a : α) : Value :=
  match names.find? (fun n => n.2 = a) with
  | some n => .string n.1
  | none => .null

end KeyRenewal.Json
