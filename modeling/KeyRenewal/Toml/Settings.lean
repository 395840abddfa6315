import KeyRenewal.Config
import KeyRenewal.Files.Tree
import KeyRenewal.Json.Settings
import KeyRenewal.Text.Utf8
import KeyRenewal.Toml.Document

/-!
# Configurations in TOML

A configuration is a document whose keys are its fields. Unknown keys are refused at every level. A
record may also be an array of its fields in order, of which more than there are fields are passed
over; a name may also be the only key of a table that holds nothing.
-/

namespace KeyRenewal

namespace Toml

/-- The value of one field. -/
def field (entries : Entries) (name : String) : Option Value := entries.lookup name

/-- The values of the fields in order, as far as they are given. -/
def Value.fields (names : List String) : Value → Option (List (Option Value))
  | .table _ entries =>
    if entries.all fun e => names.contains e.1 then some (names.map (field entries)) else none
  | .array items =>
    let given := items.take names.length
    some (given.map some ++ List.replicate (names.length - given.length) none)
  | .tables items =>
    let given := (items.map (Value.table .header)).take names.length
    some (given.map some ++ List.replicate (names.length - given.length) none)
  | _ => none

def needed {α : Type} (decode : Value → Option α) (v : Option Value) : Option α := v.bind decode

def orElse {α : Type} (default : α) (decode : Value → Option α) (v : Option Value) : Option α :=
  match v with
  | some v => decode v
  | none => some default

def asString : Value → Option String
  | .string text => some text
  | _ => none

def asBool : Value → Option Bool
  | .boolean value => some value
  | _ => none

/-- A number of 64 bits without a sign. -/
def asWord : Value → Option UInt64
  | .integer (.ofNat n) => if n < UInt64.size then some (UInt64.ofNat n) else none
  | _ => none

def asList {α : Type} (decode : Value → Option α) : Value → Option (List α)
  | .array items => items.mapM decode
  | .tables items => items.mapM fun entries => decode (.table .header entries)
  | _ => none

/-- A value that holds nothing. -/
def holdsNothing : Value → Bool
  | .table _ entries => entries.isEmpty
  | .array items => items.isEmpty
  | .tables items => items.isEmpty
  | _ => false

def asChoice {α : Type} (names : List (String × α)) : Value → Option α
  | .string name => names.lookup name
  | .table _ [(name, v)] => if holdsNothing v then names.lookup name else none
  | _ => none

end Toml

open Toml

def ProtocolEntry.ofToml? (v : Toml.Value) : Option ProtocolEntry := do
  match ← v.fields ["version", "max_txn_life"] with
  | [version, life] => return ⟨← needed asString version, ← needed asWord life⟩
  | _ => none

def LoggingConfig.ofToml? (v : Toml.Value) : Option LoggingConfig := do
  let usual : LoggingConfig := {}
  match ← v.fields ["level", "format", "ansi", "span_timings"] with
  | [level, format, ansi, timings] =>
    return {
      level := ← orElse usual.level asString level
      format := ← orElse usual.format (asChoice LogFormat.names) format
      ansi := ← orElse usual.ansi asBool ansi
      spanTimings := ← orElse usual.spanTimings asBool timings }
  | _ => none

namespace EngineConfig

def ofToml? (v : Toml.Value) : Option EngineConfig := do
  let usual : EngineConfig := {}
  match ← v.fields ["default_fee", "key_dilution", "wait_mode", "lapse_policy", "logging",
      "protocol"] with
  | [fee, dilution, mode, policy, logging, protocols] =>
    return {
      defaultFee := ← orElse usual.defaultFee asWord fee
      keyDilution := ← orElse usual.keyDilution asWord dilution
      waitMode := ← orElse usual.waitMode (asChoice WaitMode.names) mode
      lapsePolicy := ← orElse usual.lapsePolicy (asChoice LapsePolicy.names) policy
      logging := ← orElse usual.logging LoggingConfig.ofToml? logging
      protocols := ← orElse usual.protocols (asList ProtocolEntry.ofToml?) protocols }
  | _ => none

/-- The configuration a document describes, if it is consistent. -/
def ofDocument (document : String) : Except ConfigError EngineConfig := do
  match (Toml.parse document).bind fun entries => ofToml? (.table .header entries) with
  | none => .error (.unreadable "the document is not a configuration")
  | some config =>
    config.validate
    return config

/-- The configuration in a file. -/
def load (files : FileTree) (path : Path) : Except RenewalError EngineConfig :=
  match files.read path with
  | .error kind => .error (.io (.ofKind kind))
  | .ok (bytes, _) =>
    match Text.Utf8.decode bytes with
    | none => .error (.io (.ofKind .invalidData))
    | some document =>
      match ofDocument document with
      | .ok config => .ok config
      | .error e => .error (.config e)

end EngineConfig

end KeyRenewal
