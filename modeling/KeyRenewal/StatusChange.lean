import KeyRenewal.Engine

/-!
# Status changes

Bringing an account online or taking it offline with the keys there are. Nothing is generated, so
nothing is rolled back.
-/

namespace KeyRenewal

inductive StatusIntent
  /-- Register the given credential, or the installed one that ends last. -/
  | online (credential : Option Credential)
  | offline
deriving DecidableEq, Inhabited

structure StatusChangeRequest where
  address : Address
  intent : StatusIntent
  firstValid : Option Round
  validRounds : Option UInt64
  fee : Option UInt64
  waitMode : Option WaitMode
  exportPath : Option Path
deriving DecidableEq, Inhabited

namespace StatusChangeRequest

/-- Where the window starts; zero counts as not given. -/
def firstRound (request : StatusChangeRequest) (snapshot : RoundSnapshot) : Round :=
  match request.firstValid with
  | some round => if round.isZero then snapshot.currentRound else round
  | none => snapshot.currentRound

/-- How long the window is; zero counts as not given. -/
def length (request : StatusChangeRequest) (snapshot : RoundSnapshot) : UInt64 :=
  match request.validRounds with
  | some rounds => if rounds = 0 then snapshot.parameters.maxTxnLife else rounds
  | none => snapshot.parameters.maxTxnLife

end StatusChangeRequest

namespace Engine

variable {σ : Type}

/-- Build a transaction or fail for want of rounds. -/
def buildTransaction (address : Address) (credential : Option Credential) (firstValid : Round)
    (validRounds fee : UInt64) : Except RenewalError StatusTransaction :=
  match StatusTransaction.build? address credential firstValid validRounds fee with
  | some transaction => .ok transaction
  | none => .error .zeroValidity

/-- The credential an intent registers. -/
def chooseCredential (e : Engine σ) (address : Address) :
    StatusIntent → Action σ RenewalError (Option Credential)
  | .offline => pure none
  | .online (some credential) => pure (some credential)
  | .online none => do
    let installed ← e.listCredentials
    match installed.latest.find? address with
    | some latest => return some latest.credential
    | none => Action.fail (.noCredential address)

def changeOnlineStatus (e : Engine σ) (request : StatusChangeRequest) :
    Action σ RenewalError DispatchOutcome := do
  let snapshot ← e.snapshot
  let credential ← e.chooseCredential request.address request.intent
  let transaction ← Action.ofExcept (buildTransaction request.address credential
    (request.firstRound snapshot) (request.length snapshot) (e.config.feeOr request.fee))
  e.collaborators.dispatch transaction
    (.choose request.exportPath (e.config.waitModeOr request.waitMode))

end Engine

end KeyRenewal
