import KeyRenewal.Attempt
import KeyRenewal.Config
import KeyRenewal.Json.Record

/-!
# Settings and phases in JSON

A configuration refuses members it does not know, at every level; each of its fields has a default.
A phase with data is an object with the name of the phase as its only key.
-/

namespace KeyRenewal

open Json

def WaitMode.names : List (String × WaitMode) :=
  [("wait-for-confirmation", .waitForConfirmation), ("fire-and-forget", .fireAndForget)]

def LapsePolicy.names : List (String × LapsePolicy) :=
  [("manual-below-horizon", .manualBelowHorizon), ("manual-when-expired", .manualWhenExpired)]

def LogFormat.names : List (String × LogFormat) :=
  [("pretty", .pretty), ("compact", .compact), ("json", .json)]

def ProtocolEntry.toJson (e : ProtocolEntry) : Value :=
  .object [("version", .string e.version), ("max_txn_life", ofWord64 e.maxTxnLife)]

def ProtocolEntry.ofJson? (v : Value) : Option ProtocolEntry := do
  match ← v.fields .refused ["version", "max_txn_life"] with
  | [version, life] => return ⟨← needed Value.string? version, ← needed asWord life⟩
  | _ => none

def LoggingConfig.toJson (c : LoggingConfig) : Value :=
  .object [
    ("level", .string c.level),
    ("format", ofChoice LogFormat.names c.format),
    ("ansi", .bool c.ansi),
    ("span_timings", .bool c.spanTimings)]

def LoggingConfig.ofJson? (v : Value) : Option LoggingConfig := do
  let usual : LoggingConfig := {}
  match ← v.fields .refused ["level", "format", "ansi", "span_timings"] with
  | [level, format, ansi, timings] =>
    return {
      level := ← orElse usual.level Value.string? level
      format := ← orElse usual.format (asChoice LogFormat.names) format
      ansi := ← orElse usual.ansi Value.bool? ansi
      spanTimings := ← orElse usual.spanTimings Value.bool? timings }
  | _ => none

def EngineConfig.toJson (c : EngineConfig) : Value :=
  .object [
    ("default_fee", ofWord64 c.defaultFee),
    ("key_dilution", ofWord64 c.keyDilution),
    ("wait_mode", ofChoice WaitMode.names c.waitMode),
    ("lapse_policy", ofChoice LapsePolicy.names c.lapsePolicy),
    ("logging", c.logging.toJson),
    ("protocol", .array (c.protocols.map ProtocolEntry.toJson))]

def EngineConfig.ofJson? (v : Value) : Option EngineConfig := do
  let usual : EngineConfig := {}
  match ← v.fields .refused ["default_fee", "key_dilution", "wait_mode", "lapse_policy",
      "logging", "protocol"] with
  | [fee, dilution, mode, policy, logging, protocols] =>
    return {
      defaultFee := ← orElse usual.defaultFee asWord fee
      keyDilution := ← orElse usual.keyDilution asWord dilution
      waitMode := ← orElse usual.waitMode (asChoice WaitMode.names) mode
      lapsePolicy := ← orElse usual.lapsePolicy (asChoice LapsePolicy.names) policy
      logging := ← orElse usual.logging LoggingConfig.ofJson? logging
      protocols := ← orElse usual.protocols (asList ProtocolEntry.ofJson?) protocols }
  | _ => none

namespace Phase

def toJson : Phase → Value
  | validated => .string "Validated"
  | credentialGenerated handle =>
    .object [("CredentialGenerated", .object [("handle", .string handle.text)])]
  | submitted txId => .object [("Submitted", .object [("tx_id", .string txId.text)])]
  | confirmed txId round =>
    .object [("Confirmed", .object [("tx_id", .string txId.text), ("round", ofRound round)])]
  | exported => .string "Exported"
  | failed reason atPhase rolledBack =>
    .object [("Failed", .object [("reason", .string reason), ("at_phase", .string atPhase),
      ("rolled_back", .bool rolledBack)])]

/-- The phases without data by name. -/
def plainNames : List (String × Phase) := [("Validated", validated), ("Exported", exported)]

/-- A phase with data, from its name and the record of its data. -/
def ofData? (name : String) (v : Value) : Option Phase :=
  match name with
  | "CredentialGenerated" => do
    match ← v.fields .ignored ["handle"] with
    | [handle] => return .credentialGenerated (← needed asPath handle)
    | _ => none
  | "Submitted" => do
    match ← v.fields .ignored ["tx_id"] with
    | [txId] => return .submitted ⟨← needed Value.string? txId⟩
    | _ => none
  | "Confirmed" => do
    match ← v.fields .ignored ["tx_id", "round"] with
    | [txId, r] => return .confirmed ⟨← needed Value.string? txId⟩ (← needed asRound r)
    | _ => none
  | "Failed" => do
    match ← v.fields .ignored ["reason", "at_phase", "rolled_back"] with
    | [reason, atPhase, rolledBack] =>
      return .failed (← needed Value.string? reason) (← needed Value.string? atPhase)
        (← needed Value.bool? rolledBack)
    | _ => none
  | _ => none

def ofJson? (v : Value) : Option Phase :=
  match asChoice plainNames v with
  | some phase => some phase
  | none =>
    match v with
    | .object [(name, data)] => ofData? name data
    | _ => none

end Phase

end KeyRenewal
