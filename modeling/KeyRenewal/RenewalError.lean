import KeyRenewal.Logging.Filter
import KeyRenewal.ServiceError
import KeyRenewal.Text.Quoted
import KeyRenewal.Transaction

/-!
# Failures of key renewal

One constructor per cause; `message` words it.
-/

namespace KeyRenewal

/-- The collaborators an engine cannot do without. -/
inductive Role
  | ledger
  | store
  | signer
deriving DecidableEq

def Role.noun : Role → String
  | ledger => "ledger client"
  | store => "credential store"
  | signer => "transaction signer"

/-- What is wrong with a configuration. -/
inductive ConfigError
  | missing (role : Role)
  | zeroLifetime (version : String)
  | repeatedVersion (version : String)
  | zeroLifetimeInForce (version : ConsensusVersion)
  | invalidLevel (level : String) (error : Logging.FilterError)
  | unreadable (reason : String)
  | loggingInstalled
  | other (text : String)
deriving DecidableEq

namespace ConfigError

def message : ConfigError → String
  | missing role => role.noun ++ " is required"
  | zeroLifetime version => s!"protocol {version} must have a non-zero max_txn_life"
  | repeatedVersion version => s!"protocol {version} is configured more than once"
  | zeroLifetimeInForce version => s!"protocol {version} has a zero max_txn_life"
  | invalidLevel level error =>
    "invalid logging level " ++ Text.Quoted.encode level ++ ": " ++ error.message
  | unreadable reason => reason
  | loggingInstalled => "logging init failed: a subscriber is already installed"
  | other text => text

end ConfigError

inductive RenewalError
  | windowTooShort (requested current : Round) (maxTxnLife : UInt64)
  | zeroValidity
  | invalidRange (firstValid lastValid : Round)
  | existingCredential (requested existing : Round)
  | outputDirMissing (path : Path)
  | noCredential (address : Address)
  | unknownProtocol (version : ConsensusVersion)
  | generationFailed (source : ServiceError)
  /-- Signing or submission failed; the handle is that of the new credential, if it was deleted. -/
  | registrationFailed (address : Address) (rolledBack : Option KeyHandle) (source : ServiceError)
  | poolRejected (txId : TxId) (reason : String)
  | queryFailed (source : ServiceError)
  | exportFailed (path : Path) (source : ServiceError)
  | serialization (reason : String)
  | config (error : ConfigError)
  | io (error : IoError)
  | batchFailed (failed succeeded : Nat)
deriving DecidableEq

namespace RenewalError

def message : RenewalError → String
  | windowTooShort requested current maxTxnLife =>
    s!"last valid round {requested} must be greater than current round {current} plus max transaction life {maxTxnLife}"
  | zeroValidity => "status transaction must be valid for at least one round"
  | invalidRange firstValid lastValid =>
    s!"invalid credential range: first valid {firstValid} is after last valid {lastValid}"
  | existingCredential requested existing =>
    s!"account already has a participation key valid through {existing}, which covers requested round {requested}"
  | outputDirMissing path => s!"output directory does not exist: {path}"
  | noCredential address => s!"no participation key installed for account {address}"
  | unknownProtocol version => s!"unknown consensus protocol version: {version}"
  | generationFailed source => "participation key generation failed: " ++ source.message
  | registrationFailed address _ source =>
    s!"status change registration failed for {address}: " ++ source.message
  | poolRejected txId reason => s!"transaction {txId} was rejected by the pool: {reason}"
  | queryFailed source => "network query failed: " ++ source.message
  | exportFailed path source => s!"failed to write transaction to {path}: " ++ source.message
  | serialization reason => "serialization error: " ++ reason
  | config error => "configuration error: " ++ error.message
  | io error => "IO error: " ++ error.message
  | batchFailed failed succeeded =>
    s!"{failed} renewal attempt(s) failed, {succeeded} succeeded"

/-- The text of what caused the failure, where it was another failure. -/
def cause? : RenewalError → Option String
  | generationFailed source | queryFailed source => some source.message
  | registrationFailed _ _ source => some source.message
  | exportFailed _ source => some source.message
  | io error => some error.message
  | _ => none

/-- Whether the submitted transaction will never be confirmed. -/
def isPoolRejection : RenewalError → Bool
  | poolRejected .. => true
  | _ => false

end RenewalError

end KeyRenewal
