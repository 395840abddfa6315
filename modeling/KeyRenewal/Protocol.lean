import KeyRenewal.RenewalError

/-!
# Protocol registry

What is known of each consensus version. A registry read from a configuration refuses a lifetime of
zero and a version given twice; one put together by hand takes the last word on each version.
-/

namespace KeyRenewal

/-- One version as a configuration lists it. -/
structure ProtocolEntry where
  version : String
  maxTxnLife : UInt64
deriving DecidableEq, Inhabited

/-- Parameters by consensus version. -/
structure ProtocolRegistry where
  parameters : OrderedMap ConsensusVersion ProtocolParameters
deriving DecidableEq

namespace ProtocolRegistry

def empty : ProtocolRegistry := ⟨.empty⟩

/-- Register a version, replacing what was known of it. -/
def add (registry : ProtocolRegistry) (entry : ProtocolEntry) : ProtocolRegistry :=
  ⟨registry.parameters.insert ⟨entry.version⟩ ⟨⟨entry.version⟩, entry.maxTxnLife⟩⟩

/-- Register a configured version that must be new and have a lifetime. -/
def addEntry (registry : ProtocolRegistry) (entry : ProtocolEntry) :
    Except ConfigError ProtocolRegistry :=
  if entry.maxTxnLife = 0 then .error (.zeroLifetime entry.version)
  else if registry.parameters.contains ⟨entry.version⟩ then
    .error (.repeatedVersion entry.version)
  else .ok (registry.add entry)

/-- Add configured versions in order, up to the first that is refused. -/
def addEntries (registry : ProtocolRegistry) : List ProtocolEntry → Except ConfigError ProtocolRegistry
  | [] => .ok registry
  | entry :: rest => do
    let registry ← registry.addEntry entry
    registry.addEntries rest

def ofEntries (entries : List ProtocolEntry) : Except ConfigError ProtocolRegistry :=
  empty.addEntries entries

def lookup (registry : ProtocolRegistry) (version : ConsensusVersion) :
    Except RenewalError ProtocolParameters :=
  match registry.parameters.find? version with
  | some parameters => .ok parameters
  | none => .error (.unknownProtocol version)

def size (registry : ProtocolRegistry) : Nat := registry.parameters.size

def isEmpty (registry : ProtocolRegistry) : Bool := registry.parameters.toList.isEmpty

end ProtocolRegistry

end KeyRenewal
