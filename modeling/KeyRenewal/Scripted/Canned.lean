import KeyRenewal.Engine
import KeyRenewal.KeyFolder

/-!
# Canned answers

One collaborator in the place of all: every call takes the next of the answers prepared for it and
is remembered. A call without an answer fails, and an answer may also be to hang.
-/

namespace KeyRenewal

inductive Answer (α : Type)
  | value (a : α)
  | error (e : ServiceError)
  | hang

inductive Call
  | currentRound
  | suggestedParams
  | status
  | pendingTransaction (txId : TxId)
  | waitForRound (round : Round)
  | list
  | generate (request : GenerationRequest)
  | delete (handle : KeyHandle)
  | signAndSubmit (transaction : StatusTransaction)
  | multisigInfo (address : Address)
  | write (path : Path) (bytes : List UInt8)
deriving DecidableEq

def Call.name : Call → String
  | currentRound => "current_round"
  | suggestedParams => "suggested_params"
  | status => "status"
  | pendingTransaction _ => "pending_transaction"
  | waitForRound _ => "wait_for_round"
  | list => "list"
  | generate _ => "generate"
  | delete _ => "delete"
  | signAndSubmit _ => "sign_and_submit"
  | multisigInfo _ => "multisig_info"
  | write .. => "write"

/-- The answers that are left for each kind of call. -/
structure Answers where
  currentRound : List (Answer Round) := []
  suggestedParams : List (Answer SuggestedParams) := []
  status : List (Answer NodeStatus) := []
  pendingTransaction : List (Answer PendingStatus) := []
  waitForRound : List (Answer NodeStatus) := []
  list : List (Answer Keyring) := []
  generate : List (Answer GeneratedCredential) := []
  delete : List (Answer Unit) := []
  signAndSubmit : List (Answer TxId) := []
  multisigInfo : List (Answer (Option MultisigInfo)) := []
  write : List (Answer Unit) := []

/-- The answers and the calls so far, on a machine with files. -/
structure Canned where
  answers : Answers
  calls : List Call
  machine : Machine

namespace Canned

/-- Remember a call and give the next answer from its queue. -/
def reply {α : Type} (call : Call) (queue : Answers → List (Answer α))
    (keep : Answers → List (Answer α) → Answers) : Action Canned ServiceError α := do
  Action.modify fun c => { c with calls := c.calls ++ [call] }
  let c ← Action.get
  match queue c.answers with
  | [] => Action.fail (.request s!"unscripted {call.name}")
  | answer :: rest =>
    Action.modify fun c => { c with answers := keep c.answers rest }
    match answer with
    | .value a => return a
    | .error e => Action.fail e
    | .hang => Action.block

/-- The answers as a ledger. Every wait follows an answered query, so the answers bound the waits. -/
def ledger : Ledger Canned where
  currentRound := reply .currentRound Answers.currentRound fun a currentRound =>
    { a with currentRound }
  suggestedParams := reply .suggestedParams Answers.suggestedParams fun a suggestedParams =>
    { a with suggestedParams }
  status := reply .status Answers.status fun a status => { a with status }
  pendingTransaction txId := reply (.pendingTransaction txId) Answers.pendingTransaction
    fun a pendingTransaction => { a with pendingTransaction }
  waitForRound round := reply (.waitForRound round) Answers.waitForRound fun a waitForRound =>
    { a with waitForRound }
  patience c := c.answers.pendingTransaction.length

def store : CredentialStore Canned where
  list := reply .list Answers.list fun a list => { a with list }
  generate request := reply (.generate request) Answers.generate fun a generate =>
    { a with generate }
  delete handle := reply (.delete handle) Answers.delete fun a delete => { a with delete }

def signer : Signer Canned where
  signAndSubmit transaction := reply (.signAndSubmit transaction) Answers.signAndSubmit
    fun a signAndSubmit => { a with signAndSubmit }
  multisigInfo address := reply (.multisigInfo address) Answers.multisigInfo
    fun a multisigInfo => { a with multisigInfo }

def sink : ArtifactSink Canned where
  write path bytes := reply (.write path bytes) Answers.write fun a write => { a with write }

def machineLens : Lens Canned Machine :=
  ⟨Canned.machine, fun c machine => { c with machine }, fun _ _ => rfl, fun _ => rfl,
    fun _ _ _ => rfl⟩

/-- The parts of an engine whose collaborators all give canned answers. -/
def parts (config : EngineConfig) : EngineParts Canned where
  ledger := some ledger
  store := some store
  signer := some signer
  sink := some sink
  files := Machine.fileSink.focus machineLens
  isDirectory path c := c.machine.files.isDirectory path
  protocols := none
  config := config

end Canned

end KeyRenewal
