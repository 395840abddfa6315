import KeyRenewal.Credential

/-!
# Status transactions

A status transaction brings an account online, by registering a credential, or takes it offline. It
may be included in a round of its own window, which has nothing to do with the credential's range.
-/

namespace KeyRenewal

/-- The identifier a submitted transaction gets. -/
structure TxId where
  text : String
deriving DecidableEq, Inhabited

instance : ToString TxId := ⟨TxId.text⟩

/-- The public data of a credential as a go-online transaction carries it. -/
structure KeyRegistration where
  voteVerifier : Bytes32
  selectionVerifier : Bytes32
  voteFirst : Round
  voteLast : Round
  keyDilution : UInt64
deriving DecidableEq, Inhabited

def Credential.registration (c : Credential) : KeyRegistration where
  voteVerifier := c.voteVerifier
  selectionVerifier := c.selectionVerifier
  voteFirst := c.firstValid
  voteLast := c.lastValid
  keyDilution := c.keyDilution

/-- An unsigned change of an account's status. A fee of zero asks for the suggested fee. -/
structure StatusTransaction where
  address : Address
  firstValid : Round
  lastValid : Round
  fee : UInt64
  registration : Option KeyRegistration
deriving DecidableEq, Inhabited

namespace StatusTransaction

def goesOnline (t : StatusTransaction) : Bool := t.registration.isSome

/-- The transaction over `validRounds` rounds from `firstValid`; none if it would be valid for none. -/
def build? (address : Address) (credential : Option Credential) (firstValid : Round)
    (validRounds fee : UInt64) : Option StatusTransaction :=
  if validRounds = 0 then none
  else some {
    address, firstValid, fee
    lastValid := firstValid.advance validRounds
    registration := credential.map Credential.registration }

end StatusTransaction

/-- What the pool says of a submitted transaction. -/
structure PendingStatus where
  confirmedRound : Round
  poolError : String
deriving DecidableEq, Inhabited

namespace PendingStatus

def pending : PendingStatus := ⟨.zero, ""⟩

def confirmed (round : Round) : PendingStatus := ⟨round, ""⟩

def rejected (reason : String) : PendingStatus := ⟨.zero, reason⟩

def isConfirmed (s : PendingStatus) : Bool := !s.confirmedRound.isZero

def isRejected (s : PendingStatus) : Bool := s.poolError != ""

end PendingStatus

/-- The version of the consensus rules a node follows. -/
structure ConsensusVersion where
  text : String
deriving DecidableEq, Inhabited

namespace ConsensusVersion

instance : Ord ConsensusVersion := ⟨compareOn text⟩

instance : Std.TransOrd ConsensusVersion := inferInstanceAs (Std.TransCmp (compareOn text))

instance : ToString ConsensusVersion := ⟨text⟩

end ConsensusVersion

/-- What the rules of one version fix. -/
structure ProtocolParameters where
  version : ConsensusVersion
  maxTxnLife : UInt64
deriving DecidableEq, Inhabited

/-- What a node suggests for a new transaction. -/
structure SuggestedParams where
  consensusVersion : ConsensusVersion
  fee : UInt64
deriving DecidableEq, Inhabited

/-- How far a node has come. -/
structure NodeStatus where
  lastRound : Round
deriving DecidableEq, Inhabited

end KeyRenewal
