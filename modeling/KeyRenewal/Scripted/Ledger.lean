import KeyRenewal.Collaborators

/-!
# A scripted ledger

Pool queries take their answers from a queue; once it is empty every transaction is confirmed in the
next round. Waiting for a round brings the ledger there at once. Queries and waits can be made to
fail, and waits to hang.
-/

namespace KeyRenewal

structure ScriptedLedger where
  round : Round
  version : ConsensusVersion
  statuses : List PendingStatus
  queried : List TxId
  waited : List Round
  queryFailures : Nat
  failWaits : Bool
  hangWaits : Bool
  failRoundQueries : Bool
deriving DecidableEq, Inhabited

namespace ScriptedLedger

/-- The version a ledger reports unless told otherwise. -/
def testVersion : ConsensusVersion := ⟨"test-v1"⟩

def startingAt (round : Round) (version : ConsensusVersion) : ScriptedLedger :=
  ⟨round, version, [], [], [], 0, false, false, false⟩

/-- Answer with something about the ledger, unless its round cannot be queried. -/
def observe {α : Type} (look : ScriptedLedger → α) : Action ScriptedLedger ServiceError α := do
  let l ← Action.get
  if l.failRoundQueries then Action.fail (.request "node unreachable") else return look l

def pendingTransaction (txId : TxId) : Action ScriptedLedger ServiceError PendingStatus := do
  Action.modify fun l => { l with queried := l.queried ++ [txId] }
  let l ← Action.get
  match l.queryFailures, l.statuses with
  | failures + 1, _ =>
    Action.modify fun l => { l with queryFailures := failures }
    Action.fail (.request "pending query failed")
  | 0, status :: rest =>
    Action.modify fun l => { l with statuses := rest }
    return status
  | 0, [] => return .confirmed l.round.next

def waitForRound (round : Round) : Action ScriptedLedger ServiceError NodeStatus := do
  Action.modify fun l => { l with waited := l.waited ++ [round] }
  let l ← Action.get
  if l.hangWaits then Action.block
  else if l.failWaits then Action.fail (.request "wait for round failed")
  else
    Action.modify fun l => { l with round := max l.round round }
    return ⟨max l.round round⟩

/-- The scripted ledger as a collaborator. Every wait follows a pending status of the queue, so the
queue bounds the waits. -/
def ledger : Ledger ScriptedLedger where
  currentRound := observe round
  suggestedParams := observe fun l => ⟨l.version, 0⟩
  status := observe fun l => ⟨l.round⟩
  pendingTransaction := pendingTransaction
  waitForRound := waitForRound
  patience l := l.statuses.length

end ScriptedLedger

end KeyRenewal
