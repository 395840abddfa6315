import KeyRenewal.Attempt
import KeyRenewal.Generation

/-!
# The engine

An engine is a set of collaborators with a protocol registry and a configuration. Every operation
that renews or changes status first takes a snapshot of the round and of the rules in force, and
works from that snapshot alone.
-/

namespace KeyRenewal

structure Engine (σ : Type) where
  collaborators : Collaborators σ
  protocols : ProtocolRegistry
  config : EngineConfig

/-- What an engine is put together from. Without a sink, transactions are exported to files; without
a registry, it is read from the configuration. -/
structure EngineParts (σ : Type) where
  ledger : Option (Ledger σ)
  store : Option (CredentialStore σ)
  signer : Option (Signer σ)
  sink : Option (ArtifactSink σ)
  files : ArtifactSink σ
  isDirectory : Path → σ → Bool
  protocols : Option ProtocolRegistry
  config : EngineConfig

/-- A collaborator that must be there. -/
def require {α : Type} (role : Role) (part : Option α) : Except ConfigError α :=
  match part with
  | some a => .ok a
  | none => .error (.missing role)

namespace EngineParts

variable {σ : Type}

def assemble (parts : EngineParts σ) : Except ConfigError (Engine σ) := do
  let ledger ← require .ledger parts.ledger
  let store ← require .store parts.store
  let signer ← require .signer parts.signer
  let protocols ← match parts.protocols with
    | some registry => pure registry
    | none => parts.config.registry
  return {
    collaborators := {
      ledger, store, signer
      sink := parts.sink.getD parts.files
      isDirectory := parts.isDirectory }
    protocols
    config := parts.config }

end EngineParts

/-- The round and the rules an operation works from. -/
structure RoundSnapshot where
  currentRound : Round
  parameters : ProtocolParameters
deriving DecidableEq, Inhabited

namespace Engine

variable {σ : Type}

def snapshot (e : Engine σ) : Action σ RenewalError RoundSnapshot := do
  let currentRound ← e.collaborators.ledger.currentRound.mapError .queryFailed
  let suggested ← e.collaborators.ledger.suggestedParams.mapError .queryFailed
  let parameters ← Action.ofExcept (e.protocols.lookup suggested.consensusVersion)
  if parameters.maxTxnLife = 0 then
    Action.fail (.config (.zeroLifetimeInForce parameters.version))
  else
    Action.log (.snapshotTaken currentRound parameters)
    return { currentRound, parameters }

/-- The installed credentials by handle. -/
def listCredentials (e : Engine σ) : Action σ RenewalError Keyring :=
  e.collaborators.store.list.mapError .queryFailed

/-- Generate a credential without registering it. -/
def addCredential (e : Engine σ) (address : Address) (firstValid lastValid : Round)
    (keyDilution : Option UInt64) (destination : Destination) :
    Action σ RenewalError GeneratedCredential :=
  e.collaborators.generate address firstValid lastValid (e.config.dilutionOr keyDilution)
    destination

end Engine

end KeyRenewal
