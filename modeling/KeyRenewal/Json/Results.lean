import KeyRenewal.Batch.Report
import KeyRenewal.Json.Failures
import KeyRenewal.Json.Ledger

/-!
# Results in JSON

What was asked of a store, what a dispatch or a renewal achieved, what became of an account, and
what was logged.
-/

namespace KeyRenewal

open Json

def GenerationRequest.toJson (r : GenerationRequest) : Value :=
  .object [
    ("address", .string r.address.text),
    ("first_valid", ofRound r.firstValid),
    ("last_valid", ofRound r.lastValid),
    ("key_dilution", ofWord64 r.keyDilution),
    ("output_dir", ofNullable (fun path => .string path.text) r.outputDir)]

def GeneratedCredential.toJson (g : GeneratedCredential) : Value :=
  .object [("credential", g.credential.toJson), ("handle", .string g.handle.text)]

def DispatchOutcome.toJson : DispatchOutcome → Value
  | confirmed txId round =>
    .object [("kind", .string "Confirmed"), ("tx_id", .string txId.text), ("round", ofRound round)]
  | submitted txId => .object [("kind", .string "Submitted"), ("tx_id", .string txId.text)]
  | exported path =>
    .object [("kind", .string "Exported"), ("tx_id", .null), ("path", .string path.text)]

/-- The members of a renewal. -/
def Renewal.members (r : Renewal) : List (String × Value) := [
  ("address", .string r.address.text),
  ("credential", r.credential.toJson),
  ("dispatch", r.dispatch.toJson)]

def Renewal.toJson (r : Renewal) : Value := .object r.members

/-- The label of an outcome with what belongs to it. -/
def AccountOutcome.toJson (o : AccountOutcome) : Value :=
  .object (("label", .string o.label) :: match o with
    | renewed renewal => renewal.members
    | alreadyCovered existing | needsManualRenewal existing => [("existing", ofRound existing)]
    | failed error => [("failure", error.toJson)])

def AccountResult.toJson (r : AccountResult) : Value :=
  .object [("address", .string r.address.text), ("outcome", r.outcome.toJson)]

namespace Logging

def Field.toJson : Field → Value
  | text value => .string value
  | number value => .natural value

def Span.toJson (s : Span) : Value :=
  .object [
    ("name", .string s.name),
    ("fields", .object (s.fields.map fun (key, value) => (key, value.toJson)))]

def Entry.toJson (e : Entry) : Value :=
  .object [
    ("level", .string e.notice.severity.name),
    ("message", .string e.notice.message),
    ("fields", .object (e.notice.fields.map fun (key, value) => (key, value.toJson))),
    ("spans", .array (e.spans.map Span.toJson))]

end Logging

end KeyRenewal
