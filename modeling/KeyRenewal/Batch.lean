import KeyRenewal.Batch.Report
import KeyRenewal.SingleRenewal

/-!
# Renewing every account

A batch looks at each account's latest credential, in address order and against one snapshot, and
renews, skips or leaves it as the lapse policy says. An account that fails is recorded and the batch
goes on. Several nodes take the same batch in turn; one whose batch aborts does not stop the others.
-/

namespace KeyRenewal

structure BatchRequest where
  lastValid : Round
  fee : Option UInt64
  keyDilution : Option UInt64
  waitMode : Option WaitMode
deriving DecidableEq, Inhabited

/-- A batch on a named node: its report, or the failure that aborted it. -/
structure NodeResult where
  node : String
  result : Except RenewalError BatchReport

namespace Engine

variable {σ : Type}

/-- Deal with one account, given its latest credential. -/
def renewIfDue (e : Engine σ) (request : BatchRequest) (snapshot : RoundSnapshot)
    (latest : GeneratedCredential) : Action σ RenewalError AccountResult := do
  let address := latest.credential.address
  let existing := latest.credential.lastValid
  match e.config.lapsePolicy.classify existing snapshot.currentRound request.lastValid with
  | .alreadyCovered =>
    Action.log (.accountCovered address existing request.lastValid)
    return ⟨address, .alreadyCovered existing⟩
  | .needsManualRenewal =>
    Action.log (.accountLapsed address existing)
    return ⟨address, .needsManualRenewal existing⟩
  | .renew =>
    match ← (e.renewAccount address snapshot request.lastValid (e.config.feeOr request.fee)
        (e.config.dilutionOr request.keyDilution)
        (.submit (e.config.waitModeOr request.waitMode))).attempt with
    | .ok renewal => return ⟨address, .renewed renewal⟩
    | .error error =>
      Action.log (.accountFailed address error)
      return ⟨address, .failed error⟩

/-- Deal with accounts one after another. -/
def renewDue (e : Engine σ) (request : BatchRequest) (snapshot : RoundSnapshot) :
    List GeneratedCredential → Action σ RenewalError (List AccountResult)
  | [] => pure []
  | account :: rest => do
    let row ← e.renewIfDue request snapshot account
    let rows ← e.renewDue request snapshot rest
    return row :: rows

def runBatchRenewal (e : Engine σ) (request : BatchRequest) :
    Action σ RenewalError BatchReport :=
  Action.within (.batchRenewal request.lastValid) do
    let installed ← e.listCredentials
    let accounts := installed.latest
    let snapshot ← e.snapshot
    Action.ofExcept
      (checkWindow snapshot.currentRound request.lastValid snapshot.parameters.maxTxnLife)
    Action.log (.batchStarted accounts.size request.lastValid snapshot.currentRound
      e.config.lapsePolicy)
    let results ← e.renewDue request snapshot accounts.values
    let report : BatchReport := ⟨request.lastValid, snapshot.currentRound, results⟩
    Action.log (.batchFinished report.succeeded report.failed report.skipped)
    return report

end Engine

/-- Run the same batch on each node in turn. -/
def renewAllNodes {σ ε : Type} (request : BatchRequest) :
    List (String × Engine σ) → Action σ ε (List NodeResult)
  | [] => pure []
  | (node, engine) :: rest => do
    Action.log (.nodeStarted node)
    let result ← (engine.runBatchRenewal request).attempt
    match result with
    | .error error => Action.log (.nodeAborted node error)
    | .ok _ => pure ()
    let results ← renewAllNodes request rest
    return ⟨node, result⟩ :: results

end KeyRenewal
