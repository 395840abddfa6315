import KeyRenewal.Cbor.Encode
import KeyRenewal.Cbor.Record
import KeyRenewal.Cbor.Scan
import KeyRenewal.Envelope

/-!
# Ledger records in CBOR

Transactions, envelopes and credentials as bytes. Verifiers are hexadecimal text, signatures arrays
of numbers, a missing template is null, and a missing registration is left out.
-/

namespace KeyRenewal

open Cbor

def KeyRegistration.toItem (r : KeyRegistration) : Item :=
  record [
    ("vote_verifier", ofHex32 r.voteVerifier),
    ("selection_verifier", ofHex32 r.selectionVerifier),
    ("vote_first", ofRound r.voteFirst),
    ("vote_last", ofRound r.voteLast),
    ("key_dilution", .natural r.keyDilution)]

def KeyRegistration.ofItem? (depth : Nat) (item : Item) : Option KeyRegistration := do
  match ← fields depth ["vote_verifier", "selection_verifier", "vote_first", "vote_last",
      "key_dilution"] item with
  | [vote, selection, f, l, d] =>
    return {
      voteVerifier := ← needed asHex32 vote
      selectionVerifier := ← needed asHex32 selection
      voteFirst := ← needed asRound f
      voteLast := ← needed asRound l
      keyDilution := ← needed asWord d }
  | _ => none

def StatusTransaction.toItem (t : StatusTransaction) : Item :=
  record ([
    ("address", .ofText t.address.text),
    ("first_valid", ofRound t.firstValid),
    ("last_valid", ofRound t.lastValid),
    ("fee", .natural t.fee)] ++
    (t.registration.map fun r => ("registration", r.toItem)).toList)

def StatusTransaction.ofItem? (depth : Nat) (item : Item) : Option StatusTransaction := do
  match ← fields depth ["address", "first_valid", "last_valid", "fee", "registration"] item with
  | [a, f, l, fee, r] =>
    return {
      address := ⟨← needed asText a⟩
      firstValid := ← needed asRound f
      lastValid := ← needed asRound l
      fee := ← needed asWord fee
      registration := ← orElse none (asNullable (KeyRegistration.ofItem? (depth - 1))) r }
  | _ => none

/-- The bytes of a transaction, from which its identifier is drawn. -/
def StatusTransaction.toCbor (t : StatusTransaction) : List UInt8 := t.toItem.encode

def Subsignature.toItem (s : Subsignature) : Item :=
  record [("key", ofHex32 s.key), ("sig", ofBytes s.signature)]

def Subsignature.ofItem? (depth : Nat) (item : Item) : Option Subsignature := do
  match ← fields depth ["key", "sig"] item with
  | [key, signature] => return ⟨← needed asHex32 key, ← orElse [] asBytes signature⟩
  | _ => none

def MultisigTemplate.toItem (t : MultisigTemplate) : Item :=
  record [
    ("version", ofByte t.version),
    ("threshold", ofByte t.threshold),
    ("subsigs", .array (t.subsignatures.map Subsignature.toItem))]

def MultisigTemplate.ofItem? (depth : Nat) (item : Item) : Option MultisigTemplate := do
  match ← fields depth ["version", "threshold", "subsigs"] item with
  | [version, threshold, slots] =>
    return ⟨← needed asByte version, ← needed asByte threshold,
      ← needed (asList (Subsignature.ofItem? (depth - 2))) slots⟩
  | _ => none

def Envelope.toItem (e : Envelope) : Item :=
  record [
    ("txn", e.transaction.toItem),
    ("sig", ofBytes e.signature),
    ("msig", match e.multisig with
      | some template => template.toItem
      | none => .null)]

def Envelope.ofItem? (depth : Nat) (item : Item) : Option Envelope := do
  match ← fields depth ["txn", "sig", "msig"] item with
  | [transaction, signature, multisig] =>
    return {
      transaction := ← needed (StatusTransaction.ofItem? (depth - 1)) transaction
      signature := ← orElse [] asBytes signature
      multisig := ← orElse none (asNullable (MultisigTemplate.ofItem? (depth - 1))) multisig }
  | _ => none

def Envelope.toCbor (e : Envelope) : List UInt8 := e.toItem.encode

/-- The envelope at the front of some bytes. -/
def Envelope.ofCbor? (bytes : List UInt8) : Option Envelope :=
  (parse bytes).bind (ofItem? depthLimit)

def Credential.toItem (c : Credential) : Item :=
  record [
    ("address", .ofText c.address.text),
    ("first_valid", ofRound c.firstValid),
    ("last_valid", ofRound c.lastValid),
    ("vote_verifier", ofHex32 c.voteVerifier),
    ("selection_verifier", ofHex32 c.selectionVerifier),
    ("key_dilution", .natural c.keyDilution)]

def Credential.ofItem? (depth : Nat) (item : Item) : Option Credential := do
  match ← fields depth ["address", "first_valid", "last_valid", "vote_verifier",
      "selection_verifier", "key_dilution"] item with
  | [a, f, l, vote, selection, d] =>
    return {
      address := ⟨← needed asText a⟩
      firstValid := ← needed asRound f
      lastValid := ← needed asRound l
      voteVerifier := ← needed asHex32 vote
      selectionVerifier := ← needed asHex32 selection
      keyDilution := ← needed asWord d }
  | _ => none

end KeyRenewal
