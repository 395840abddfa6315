import KeyRenewal.Json.Record
import KeyRenewal.RenewalError

/-!
# Failures in JSON

A failure is reported with its name, the data it carries and its wording. The wording of the
operating system differs from machine to machine, so it is left out, also where it is the cause of
another failure.
-/

namespace KeyRenewal

open Json

def IoKind.name : IoKind → String
  | notFound => "NotFound"
  | permissionDenied => "PermissionDenied"
  | alreadyExists => "AlreadyExists"
  | notADirectory => "NotADirectory"
  | isADirectory => "IsADirectory"
  | invalidInput => "InvalidInput"
  | invalidData => "InvalidData"
  | invalidFilename => "InvalidFilename"
  | storageFull => "StorageFull"
  | other => "Other"

namespace ServiceError

def name : ServiceError → String
  | request _ => "Request"
  | notFound _ => "NotFound"
  | rejected _ => "Rejected"
  | serialization _ => "Serialization"
  | io _ => "Io"

/-- Whether the operating system worded it. -/
def isSystemWorded : ServiceError → Bool
  | io error => error.text.isNone
  | _ => false

/-- The data it carries beside its wording. -/
def data : ServiceError → List (String × Value)
  | io error => [("io_kind", .string error.kind.name)]
  | _ => []

def toJson (e : ServiceError) : Value :=
  .object (("error", .string e.name) :: e.data ++
    if e.isSystemWorded then [] else [("message", .string e.message)])

end ServiceError

namespace RenewalError

def name : RenewalError → String
  | windowTooShort .. => "WindowTooShort"
  | zeroValidity => "ZeroValidity"
  | invalidRange .. => "InvalidRange"
  | existingCredential .. => "ExistingCredential"
  | outputDirMissing _ => "OutputDirMissing"
  | noCredential _ => "NoCredential"
  | unknownProtocol _ => "UnknownProtocol"
  | generationFailed _ => "GenerationFailed"
  | registrationFailed .. => "RegistrationFailed"
  | poolRejected .. => "PoolRejected"
  | queryFailed _ => "QueryFailed"
  | exportFailed .. => "Export"
  | serialization _ => "Serialization"
  | config _ => "Config"
  | io _ => "Io"
  | batchFailed .. => "BatchFailed"

/-- The failure of a collaborator behind it. -/
def source? : RenewalError → Option ServiceError
  | generationFailed source | queryFailed source => some source
  | registrationFailed _ _ source => some source
  | exportFailed _ source => some source
  | _ => none

/-- Whether the operating system worded it or its cause. -/
def isSystemWorded (e : RenewalError) : Bool :=
  match e with
  | io error => error.text.isNone
  | e => e.source?.any ServiceError.isSystemWorded

/-- The data it carries beside its wording and its cause. -/
def data : RenewalError → List (String × Value)
  | windowTooShort requested current maxTxnLife =>
    [("requested", ofRound requested), ("current", ofRound current),
      ("max_txn_life", ofWord64 maxTxnLife)]
  | invalidRange firstValid lastValid =>
    [("first_valid", ofRound firstValid), ("last_valid", ofRound lastValid)]
  | existingCredential requested existing =>
    [("requested", ofRound requested), ("existing", ofRound existing)]
  | outputDirMissing path | exportFailed path _ => [("path", .string path.text)]
  | noCredential address => [("address", .string address.text)]
  | unknownProtocol version => [("version", .string version.text)]
  | registrationFailed address rolledBack _ =>
    [("address", .string address.text),
      ("rolled_back", ofNullable (fun handle => .string handle.text) rolledBack)]
  | poolRejected txId reason => [("tx_id", .string txId.text), ("reason", .string reason)]
  | io error => [("io_kind", .string error.kind.name)]
  | batchFailed failed succeeded => [("failed", .natural failed), ("succeeded", .natural succeeded)]
  | zeroValidity | generationFailed _ | queryFailed _ | serialization _ | config _ => []

def toJson (e : RenewalError) : Value :=
  .object ([
    ("error", .string e.name),
    ("fields", .object (e.data ++ (e.source?.map fun s => ("source", s.toJson)).toList))] ++
    if e.isSystemWorded then [] else [("message", .string e.message)])

end RenewalError

end KeyRenewal
