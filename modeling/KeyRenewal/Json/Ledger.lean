import KeyRenewal.Envelope
import KeyRenewal.Json.Record

/-!
# Ledger records in JSON

Credentials, transactions, envelopes and what a node reports, written as objects with their fields
in a fixed order. A transaction without a registration leaves the field out.
-/

namespace KeyRenewal

open Json

def Credential.toJson (c : Credential) : Value :=
  .object [
    ("address", .string c.address.text),
    ("first_valid", ofRound c.firstValid),
    ("last_valid", ofRound c.lastValid),
    ("vote_verifier", ofHex32 c.voteVerifier),
    ("selection_verifier", ofHex32 c.selectionVerifier),
    ("key_dilution", ofWord64 c.keyDilution)]

def Credential.ofJson? (v : Value) : Option Credential := do
  match ← v.fields .ignored ["address", "first_valid", "last_valid", "vote_verifier",
      "selection_verifier", "key_dilution"] with
  | [a, f, l, vote, selection, d] =>
    return {
      address := ← needed asAddress a
      firstValid := ← needed asRound f
      lastValid := ← needed asRound l
      voteVerifier := ← needed asHex32 vote
      selectionVerifier := ← needed asHex32 selection
      keyDilution := ← needed asWord d }
  | _ => none

def KeyRegistration.toJson (r : KeyRegistration) : Value :=
  .object [
    ("vote_verifier", ofHex32 r.voteVerifier),
    ("selection_verifier", ofHex32 r.selectionVerifier),
    ("vote_first", ofRound r.voteFirst),
    ("vote_last", ofRound r.voteLast),
    ("key_dilution", ofWord64 r.keyDilution)]

def KeyRegistration.ofJson? (v : Value) : Option KeyRegistration := do
  match ← v.fields .ignored ["vote_verifier", "selection_verifier", "vote_first", "vote_last",
      "key_dilution"] with
  | [vote, selection, f, l, d] =>
    return {
      voteVerifier := ← needed asHex32 vote
      selectionVerifier := ← needed asHex32 selection
      voteFirst := ← needed asRound f
      voteLast := ← needed asRound l
      keyDilution := ← needed asWord d }
  | _ => none

def StatusTransaction.toJson (t : StatusTransaction) : Value :=
  .object ([
    ("address", .string t.address.text),
    ("first_valid", ofRound t.firstValid),
    ("last_valid", ofRound t.lastValid),
    ("fee", ofWord64 t.fee)] ++
    (t.registration.map fun r => ("registration", r.toJson)).toList)

def StatusTransaction.ofJson? (v : Value) : Option StatusTransaction := do
  match ← v.fields .ignored ["address", "first_valid", "last_valid", "fee", "registration"] with
  | [a, f, l, fee, r] =>
    return {
      address := ← needed asAddress a
      firstValid := ← needed asRound f
      lastValid := ← needed asRound l
      fee := ← needed asWord fee
      registration := ← orElse none (asNullable KeyRegistration.ofJson?) r }
  | _ => none

def PendingStatus.toJson (s : PendingStatus) : Value :=
  .object [("confirmed_round", ofRound s.confirmedRound), ("pool_error", .string s.poolError)]

def PendingStatus.ofJson? (v : Value) : Option PendingStatus := do
  match ← v.fields .ignored ["confirmed_round", "pool_error"] with
  | [r, e] => return ⟨← needed asRound r, ← orElse "" Value.string? e⟩
  | _ => none

def NodeStatus.toJson (s : NodeStatus) : Value := .object [("last_round", ofRound s.lastRound)]

def NodeStatus.ofJson? (v : Value) : Option NodeStatus := do
  match ← v.fields .ignored ["last_round"] with
  | [r] => return ⟨← needed asRound r⟩
  | _ => none

def ProtocolParameters.toJson (p : ProtocolParameters) : Value :=
  .object [("version", .string p.version.text), ("max_txn_life", ofWord64 p.maxTxnLife)]

def ProtocolParameters.ofJson? (v : Value) : Option ProtocolParameters := do
  match ← v.fields .ignored ["version", "max_txn_life"] with
  | [version, life] => return ⟨⟨← needed Value.string? version⟩, ← needed asWord life⟩
  | _ => none

def SuggestedParams.toJson (p : SuggestedParams) : Value :=
  .object [("consensus_version", .string p.consensusVersion.text), ("fee", ofWord64 p.fee)]

def SuggestedParams.ofJson? (v : Value) : Option SuggestedParams := do
  match ← v.fields .ignored ["consensus_version", "fee"] with
  | [version, fee] => return ⟨⟨← needed Value.string? version⟩, ← needed asWord fee⟩
  | _ => none

def MultisigInfo.toJson (info : MultisigInfo) : Value :=
  .object [
    ("version", ofByte info.version),
    ("threshold", ofByte info.threshold),
    ("public_keys", .array (info.publicKeys.map fun key => ofBytes key.bytes))]

def MultisigInfo.ofJson? (v : Value) : Option MultisigInfo := do
  match ← v.fields .ignored ["version", "threshold", "public_keys"] with
  | [version, threshold, keys] =>
    return ⟨← needed asByte version, ← needed asByte threshold, ← needed (asList asBytes32) keys⟩
  | _ => none

def Subsignature.toJson (s : Subsignature) : Value :=
  .object [("key", ofHex32 s.key), ("sig", ofBytes s.signature)]

def Subsignature.ofJson? (v : Value) : Option Subsignature := do
  match ← v.fields .ignored ["key", "sig"] with
  | [key, signature] => return ⟨← needed asHex32 key, ← orElse [] asBytes signature⟩
  | _ => none

def MultisigTemplate.toJson (t : MultisigTemplate) : Value :=
  .object [
    ("version", ofByte t.version),
    ("threshold", ofByte t.threshold),
    ("subsigs", .array (t.subsignatures.map Subsignature.toJson))]

def MultisigTemplate.ofJson? (v : Value) : Option MultisigTemplate := do
  match ← v.fields .ignored ["version", "threshold", "subsigs"] with
  | [version, threshold, slots] =>
    return ⟨← needed asByte version, ← needed asByte threshold,
      ← needed (asList Subsignature.ofJson?) slots⟩
  | _ => none

def Envelope.toJson (e : Envelope) : Value :=
  .object [
    ("txn", e.transaction.toJson),
    ("sig", ofBytes e.signature),
    ("msig", ofNullable MultisigTemplate.toJson e.multisig)]

def Envelope.ofJson? (v : Value) : Option Envelope := do
  match ← v.fields .ignored ["txn", "sig", "msig"] with
  | [transaction, signature, multisig] =>
    return {
      transaction := ← needed StatusTransaction.ofJson? transaction
      signature := ← orElse [] asBytes signature
      multisig := ← orElse none (asNullable MultisigTemplate.ofJson?) multisig }
  | _ => none

end KeyRenewal
