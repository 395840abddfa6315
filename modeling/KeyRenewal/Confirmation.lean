import KeyRenewal.Collaborators

/-!
# Confirmation

A submitted transaction is watched until the pool confirms or rejects it. Each turn queries the pool
once and, while the transaction is pending, waits for the next round. The rounds waited for grow
strictly, whatever the node reports, until they reach the last one.
-/

namespace KeyRenewal

variable {σ : Type}

/-- Watch a transaction for at most the given number of turns, from a round on. -/
def Ledger.watch (ledger : Ledger σ) (txId : TxId) : Nat → Round → Action σ RenewalError Round
  | 0, _ => Action.block
  | turns + 1, round => do
    let status ← (ledger.pendingTransaction txId).mapError .queryFailed
    if status.isConfirmed then
      Action.log (.confirmed txId status.confirmedRound)
      return status.confirmedRound
    else if status.isRejected then
      Action.log (.poolRejected txId status.poolError)
      Action.fail (.poolRejected txId status.poolError)
    else
      Action.log (.stillPending txId round)
      let seen ← (ledger.waitForRound round.next).mapError .queryFailed
      ledger.watch txId turns (max seen.lastRound round.next)

/-- Watch a transaction until the pool decides, or for ever. -/
def Ledger.awaitConfirmation (ledger : Ledger σ) (txId : TxId) (start : Round) :
    Action σ RenewalError Round := do
  let s ← Action.get
  ledger.watch txId (ledger.patience s + 1) start

end KeyRenewal
