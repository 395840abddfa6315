import KeyRenewal.StatusChange

/-!
# Renewing one account

A renewal generates a credential from the current round to the requested one and registers it. It is
refused when the window is too short or when a credential of the account already covers the round.
-/

namespace KeyRenewal

structure RenewalRequest where
  address : Address
  lastValid : Round
  fee : Option UInt64
  keyDilution : Option UInt64
  waitMode : Option WaitMode
  exportPath : Option Path
deriving DecidableEq, Inhabited

namespace Engine

variable {σ : Type}

/-- Build and dispatch the registration of a new credential. -/
def register (e : Engine σ) (snapshot : RoundSnapshot) (fee : UInt64) (target : DispatchTarget)
    (generated : GeneratedCredential) (address : Address) :
    Action σ RenewalError DispatchOutcome := do
  let transaction ← Action.ofExcept (buildTransaction address (some generated.credential)
    snapshot.currentRound snapshot.parameters.maxTxnLife fee)
  e.collaborators.dispatch transaction target

/-- Record a failure of an attempt and report it. -/
def giveUp (e : Engine σ) (attempt : RenewalAttempt) (error : RenewalError) {α : Type} :
    Action σ RenewalError α := do
  let (_, error) ← attempt.fail e.collaborators.store error
  Action.fail error

/-- Generate, register, and roll back if the registration fails. The window has been checked. -/
def renewAccount (e : Engine σ) (address : Address) (snapshot : RoundSnapshot) (lastValid : Round)
    (fee keyDilution : UInt64) (target : DispatchTarget) : Action σ RenewalError Renewal := do
  let attempt := RenewalAttempt.start address
  match ← (e.collaborators.generate address snapshot.currentRound lastValid keyDilution
      .managed).attempt with
  | .error error => e.giveUp attempt error
  | .ok generated =>
    let attempt := attempt.credentialGenerated generated
    match ← (e.register snapshot fee target generated address).attempt with
    | .error error => e.giveUp attempt error
    | .ok dispatch => return ⟨address, generated, dispatch⟩

def runSingleRenewal (e : Engine σ) (request : RenewalRequest) : Action σ RenewalError Renewal :=
  Action.within (.renewal request.address request.lastValid) do
    let snapshot ← e.snapshot
    Action.ofExcept
      (checkWindow snapshot.currentRound request.lastValid snapshot.parameters.maxTxnLife)
    let installed ← e.listCredentials
    match installed.coverage? request.address request.lastValid with
    | some existing => Action.fail (.existingCredential request.lastValid existing)
    | none =>
      e.renewAccount request.address snapshot request.lastValid (e.config.feeOr request.fee)
        (e.config.dilutionOr request.keyDilution)
        (.choose request.exportPath (e.config.waitModeOr request.waitMode))

end Engine

end KeyRenewal
