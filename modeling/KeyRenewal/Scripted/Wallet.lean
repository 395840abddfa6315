import KeyRenewal.Collaborators
import KeyRenewal.Envelope.Cbor
import KeyRenewal.Sha256

/-!
# A scripted wallet and a sink in memory

The wallet accepts every transaction, except from accounts it is told to refuse, and gives each the
digest of its bytes as identifier. The sink keeps what is written by path.
-/

namespace KeyRenewal

structure ScriptedWallet where
  submitted : List StatusTransaction
  refuses : List Address
  multisig : OrderedMap Address MultisigInfo
  failLookups : Bool
deriving DecidableEq

namespace ScriptedWallet

def empty : ScriptedWallet := ⟨[], [], .empty, false⟩

instance : Inhabited ScriptedWallet := ⟨empty⟩

/-- The identifier of a transaction: the digest of its bytes. -/
def txIdFor (transaction : StatusTransaction) : TxId :=
  ⟨Text.Hex.encode (Sha256.digest transaction.toCbor).bytes⟩

def signAndSubmit (transaction : StatusTransaction) :
    Action ScriptedWallet ServiceError TxId := do
  let w ← Action.get
  if w.refuses.contains transaction.address then
    Action.fail (.rejected s!"wallet refused to sign for {transaction.address}")
  else
    let txId := txIdFor transaction
    Action.log (.acceptedByScript transaction.address txId)
    Action.modify fun w => { w with submitted := w.submitted ++ [transaction] }
    return txId

def multisigInfo (address : Address) :
    Action ScriptedWallet ServiceError (Option MultisigInfo) := do
  let w ← Action.get
  if w.failLookups then Action.fail (.request "wallet unavailable")
  else return w.multisig.find? address

def signer : Signer ScriptedWallet := ⟨signAndSubmit, multisigInfo⟩

end ScriptedWallet

structure MemorySink where
  artifacts : OrderedMap Path (List UInt8)
  failWrites : Bool
deriving DecidableEq

namespace MemorySink

def empty : MemorySink := ⟨.empty, false⟩

instance : Inhabited MemorySink := ⟨empty⟩

def write (path : Path) (bytes : List UInt8) : Action MemorySink ServiceError Unit := do
  let s ← Action.get
  if s.failWrites then Action.fail (.io ⟨.permissionDenied, some "read-only sink"⟩)
  else Action.modify fun s => { s with artifacts := s.artifacts.insert path bytes }

def sink : ArtifactSink MemorySink := ⟨write⟩

end MemorySink

end KeyRenewal
