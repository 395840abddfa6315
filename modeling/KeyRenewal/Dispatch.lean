import KeyRenewal.Confirmation
import KeyRenewal.Envelope.Cbor

/-!
# Dispatch

A built transaction is either signed and submitted, and then perhaps watched until it is confirmed,
or written unsigned to the artifact sink.
-/

namespace KeyRenewal

inductive DispatchTarget
  | submit (mode : WaitMode)
  | file (path : Path)
deriving DecidableEq, Inhabited

/-- Write to a path if one is given, submit otherwise. -/
def DispatchTarget.choose (exportPath : Option Path) (mode : WaitMode) : DispatchTarget :=
  match exportPath with
  | some path => .file path
  | none => .submit mode

inductive DispatchOutcome
  | confirmed (txId : TxId) (round : Round)
  | submitted (txId : TxId)
  | exported (path : Path)
deriving DecidableEq, Inhabited

def DispatchOutcome.txId? : DispatchOutcome → Option TxId
  | confirmed txId _ => some txId
  | submitted txId => some txId
  | exported _ => none

namespace Collaborators

variable {σ : Type} (c : Collaborators σ)

def submit (transaction : StatusTransaction) (mode : WaitMode) :
    Action σ RenewalError DispatchOutcome := do
  let txId ← (c.signer.signAndSubmit transaction).mapError
    (.registrationFailed transaction.address none)
  Action.log (.submitted txId transaction.address)
  match mode with
  | .fireAndForget =>
    Action.log (.notWaiting txId)
    return .submitted txId
  | .waitForConfirmation =>
    let start ← c.ledger.status.mapError .queryFailed
    let round ← c.ledger.awaitConfirmation txId start.lastRound
    return .confirmed txId round

def writeUnsigned (transaction : StatusTransaction) (path : Path) :
    Action σ RenewalError DispatchOutcome := do
  let sender ← (c.signer.multisigInfo transaction.address).mapError (.exportFailed path)
  let bytes := (Envelope.unsigned transaction sender).toCbor
  (c.sink.write path bytes).mapError (.exportFailed path)
  Action.log (.exported path transaction.address)
  return .exported path

def dispatch (transaction : StatusTransaction) :
    DispatchTarget → Action σ RenewalError DispatchOutcome
  | .submit mode => c.submit transaction mode
  | .file path => c.writeUnsigned transaction path

end Collaborators

end KeyRenewal
