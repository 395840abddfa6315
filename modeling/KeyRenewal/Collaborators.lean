import KeyRenewal.Action
import KeyRenewal.Envelope

/-!
# Collaborators

An engine never talks to a node, a wallet or a disk itself. It drives collaborators, which are
actions over one shared state. Nothing is assumed of them here: any of them may fail at any time,
and a ledger may report whatever rounds and statuses it likes.
-/

namespace KeyRenewal

/-- Access to the ledger's progress and to its pool of pending transactions. -/
structure Ledger (σ : Type) where
  currentRound : Action σ ServiceError Round
  suggestedParams : Action σ ServiceError SuggestedParams
  status : Action σ ServiceError NodeStatus
  pendingTransaction : TxId → Action σ ServiceError PendingStatus
  /-- Wait until the node has seen a round; answers with how far it has come by then. -/
  waitForRound : Round → Action σ ServiceError NodeStatus
  /-- How many waits for one transaction are looked at before it counts as waiting for ever. -/
  patience : σ → Nat

/-- What a store is asked to generate. Without an output directory the key is installed. -/
structure GenerationRequest where
  address : Address
  firstValid : Round
  lastValid : Round
  keyDilution : UInt64
  outputDir : Option Path
deriving DecidableEq, Inhabited

/-- Where credentials are kept and made. -/
structure CredentialStore (σ : Type) where
  list : Action σ ServiceError Keyring
  generate : GenerationRequest → Action σ ServiceError GeneratedCredential
  delete : KeyHandle → Action σ ServiceError Unit

/-- The wallet: it signs, broadcasts, and knows which accounts are multisig. -/
structure Signer (σ : Type) where
  signAndSubmit : StatusTransaction → Action σ ServiceError TxId
  multisigInfo : Address → Action σ ServiceError (Option MultisigInfo)

/-- Where exported transactions are written. -/
structure ArtifactSink (σ : Type) where
  write : Path → List UInt8 → Action σ ServiceError Unit

/-- All that an engine works with. -/
structure Collaborators (σ : Type) where
  ledger : Ledger σ
  store : CredentialStore σ
  signer : Signer σ
  sink : ArtifactSink σ
  isDirectory : Path → σ → Bool

section focus

variable {σ τ : Type} (lens : Lens σ τ)

def Ledger.focus (l : Ledger τ) : Ledger σ where
  currentRound := l.currentRound.focus lens
  suggestedParams := l.suggestedParams.focus lens
  status := l.status.focus lens
  pendingTransaction txId := (l.pendingTransaction txId).focus lens
  waitForRound round := (l.waitForRound round).focus lens
  patience s := l.patience (lens.get s)

def CredentialStore.focus (c : CredentialStore τ) : CredentialStore σ where
  list := c.list.focus lens
  generate request := (c.generate request).focus lens
  delete handle := (c.delete handle).focus lens

def Signer.focus (s : Signer τ) : Signer σ where
  signAndSubmit transaction := (s.signAndSubmit transaction).focus lens
  multisigInfo address := (s.multisigInfo address).focus lens

def ArtifactSink.focus (s : ArtifactSink τ) : ArtifactSink σ where
  write path bytes := (s.write path bytes).focus lens

end focus

end KeyRenewal
