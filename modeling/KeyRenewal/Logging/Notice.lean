import KeyRenewal.Config

/-!
# Notices

What the library reports while it works. A notice says what happened; its severity, wording and
fields follow from that. It is logged together with the spans it happened in.
-/

namespace KeyRenewal.Logging

inductive Severity
  | error
  | warn
  | info
  | debug
  | trace
deriving DecidableEq

def Severity.name : Severity → String
  | error => "ERROR"
  | warn => "WARN"
  | info => "INFO"
  | debug => "DEBUG"
  | trace => "TRACE"

/-- The value of a logged field. -/
inductive Field
  | text (value : String)
  | number (value : Nat)
deriving DecidableEq

/-- A field shown as text. -/
def Field.shown {α : Type} [ToString α] (value : α) : Field := .text (toString value)

/-- An activity that notices belong to. -/
inductive Span
  | renewal (address : Address) (lastValid : Round)
  | batchRenewal (horizon : Round)
deriving DecidableEq

namespace Span

def name : Span → String
  | renewal .. => "renewal"
  | batchRenewal _ => "batch_renewal"

def fields : Span → List (String × Field)
  | renewal address lastValid => [("address", .shown address), ("last_valid", .shown lastValid)]
  | batchRenewal horizon => [("horizon", .shown horizon)]

end Span

inductive Notice
  | snapshotTaken (current : Round) (parameters : ProtocolParameters)
  | keyGenerated (handle : KeyHandle) (address : Address) (firstValid lastValid : Round)
      (keyDilution : UInt64)
  | submitted (txId : TxId) (address : Address)
  | notWaiting (txId : TxId)
  | exported (path : Path) (address : Address)
  | confirmed (txId : TxId) (round : Round)
  | poolRejected (txId : TxId) (reason : String)
  | stillPending (txId : TxId) (round : Round)
  | keyDeleted (address : Address) (handle : KeyHandle)
  | keyLeftBehind (address : Address) (handle : KeyHandle) (error : ServiceError)
  | batchStarted (accounts : Nat) (horizon current : Round) (policy : LapsePolicy)
  | accountCovered (address : Address) (existing horizon : Round)
  | accountLapsed (address : Address) (existing : Round)
  | accountFailed (address : Address) (error : RenewalError)
  | batchFinished (succeeded failed skipped : Nat)
  | nodeStarted (node : String)
  | nodeAborted (node : String) (error : RenewalError)
  | keyFileSkipped (path : Path) (error : ServiceError)
  | acceptedByScript (address : Address) (txId : TxId)
deriving DecidableEq

namespace Notice

def severity : Notice → Severity
  | snapshotTaken .. | acceptedByScript .. => .debug
  | keyGenerated .. | submitted .. | notWaiting _ | exported .. | confirmed .. | stillPending .. =>
    .info
  | batchStarted .. | accountCovered .. | batchFinished .. | nodeStarted _ => .info
  | poolRejected .. | keyDeleted .. | accountLapsed .. | keyFileSkipped .. => .warn
  | keyLeftBehind .. | accountFailed .. | nodeAborted .. => .error

def message : Notice → String
  | snapshotTaken .. => "Captured round snapshot"
  | keyGenerated .. => "Generated participation key"
  | submitted .. => "Submitted status change transaction"
  | notWaiting _ => "Not waiting: status will not change until transaction is finalized"
  | exported .. => "Wrote unsigned status change transaction"
  | confirmed .. => "Transaction committed"
  | poolRejected .. => "Transaction rejected by pool"
  | stillPending .. => "Transaction still pending as of round"
  | keyDeleted .. => "Error registering keys, deleted newly generated key file"
  | keyLeftBehind .. =>
    "Error registering keys and could not delete key file; remove it manually"
  | batchStarted .. => "Renewing participation keys"
  | accountCovered .. =>
    "Skipping account: already has a participation key valid beyond horizon"
  | accountLapsed .. =>
    "Skipping account: participation key expires before horizon, renew it explicitly"
  | accountFailed .. => "Error renewing participation key"
  | batchFinished .. => "Batch renewal finished"
  | nodeStarted _ => "Renewing participation keys on node"
  | nodeAborted .. => "Batch renewal aborted on node"
  | keyFileSkipped .. => "Skipping unreadable key file"
  | acceptedByScript .. => "Scripted signer accepted transaction"

def fields : Notice → List (String × Field)
  | snapshotTaken current parameters =>
    [("current_round", .shown current), ("version", .shown parameters.version),
      ("max_txn_life", .number parameters.maxTxnLife.toNat)]
  | keyGenerated handle address firstValid lastValid keyDilution =>
    [("address", .shown address), ("first_valid", .shown firstValid),
      ("last_valid", .shown lastValid), ("key_dilution", .number keyDilution.toNat),
      ("handle", .shown handle)]
  | submitted txId address => [("tx_id", .shown txId), ("address", .shown address)]
  | notWaiting txId => [("tx_id", .shown txId)]
  | exported path address => [("path", .shown path), ("address", .shown address)]
  | confirmed txId round => [("tx_id", .shown txId), ("confirmed_round", .shown round)]
  | poolRejected txId reason => [("tx_id", .shown txId), ("reason", .text reason)]
  | stillPending txId round => [("tx_id", .shown txId), ("round", .shown round)]
  | keyDeleted address handle => [("address", .shown address), ("handle", .shown handle)]
  | keyLeftBehind address handle error =>
    [("address", .shown address), ("handle", .shown handle), ("error", .text error.message)]
  | batchStarted accounts horizon current policy =>
    [("accounts", .number accounts), ("horizon", .shown horizon),
      ("current_round", .shown current), ("policy", .text policy.name)]
  | accountCovered address existing horizon =>
    [("address", .shown address), ("existing", .shown existing), ("horizon", .shown horizon)]
  | accountLapsed address existing =>
    [("address", .shown address), ("existing", .shown existing)]
  | accountFailed address error =>
    [("address", .shown address), ("error", .text error.message)]
  | batchFinished succeeded failed skipped =>
    [("succeeded", .number succeeded), ("failed", .number failed), ("skipped", .number skipped)]
  | nodeStarted node => [("node", .text node)]
  | nodeAborted node error => [("node", .text node), ("error", .text error.message)]
  | keyFileSkipped path error => [("path", .shown path), ("error", .text error.message)]
  | acceptedByScript address txId => [("address", .shown address), ("tx_id", .shown txId)]

end Notice

/-- A notice and the spans around it, the outermost first. -/
structure Entry where
  notice : Notice
  spans : List Span
deriving DecidableEq

end KeyRenewal.Logging
