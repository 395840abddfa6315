import KeyRenewal.Dispatch

/-!
# Renewal attempts

An attempt to renew one account passes through phases. It remembers the credential that was made for
it until the registration has been dispatched; if the registration fails, that credential is deleted,
and it is forgotten before it is deleted, so that no attempt deletes it twice. Any other failure
leaves the credential where it is.
-/

namespace KeyRenewal

inductive Phase
  | validated
  | credentialGenerated (handle : KeyHandle)
  | submitted (txId : TxId)
  | confirmed (txId : TxId) (round : Round)
  | exported
  | failed (reason atPhase : String) (rolledBack : Bool)
deriving DecidableEq, Inhabited

namespace Phase

def isTerminal : Phase → Bool
  | validated | credentialGenerated _ => false
  | submitted _ | confirmed .. | exported | failed .. => true

def display : Phase → String
  | validated => "Validated"
  | credentialGenerated handle => s!"CredentialGenerated({handle})"
  | submitted txId => s!"Submitted({txId})"
  | confirmed txId round => s!"Confirmed({txId}@{round})"
  | exported => "Exported"
  | failed reason .. => s!"Failed({reason})"

end Phase

/-- What a successful renewal did. -/
structure Renewal where
  address : Address
  credential : GeneratedCredential
  dispatch : DispatchOutcome
deriving DecidableEq, Inhabited

/-- The course of renewing one account. -/
structure RenewalAttempt where
  address : Address
  phase : Phase
  generated : Option GeneratedCredential
deriving DecidableEq, Inhabited

namespace RenewalAttempt

variable {σ ε : Type}

/-- An attempt whose window has been checked. -/
def start (address : Address) : RenewalAttempt := ⟨address, .validated, none⟩

def credentialGenerated (a : RenewalAttempt) (generated : GeneratedCredential) : RenewalAttempt :=
  { a with phase := .credentialGenerated generated.handle, generated := some generated }

/-- Record that the registration is on its way; from then on nothing is rolled back. -/
def dispatched (a : RenewalAttempt) (dispatch : DispatchOutcome) : RenewalAttempt :=
  { a with
    phase := match dispatch with
      | .confirmed txId round => .confirmed txId round
      | .submitted txId => .submitted txId
      | .exported _ => .exported
    generated := none }

/-- Delete the credential made for the attempt, if there is one; answers with its handle when it is
gone. -/
def rollBack (store : CredentialStore σ) (a : RenewalAttempt) :
    Action σ ε (Option KeyHandle) :=
  match a.generated with
  | none => pure none
  | some generated => do
    match ← (store.delete generated.handle).attempt with
    | .ok () =>
      Action.log (.keyDeleted a.address generated.handle)
      return some generated.handle
    | .error e =>
      Action.log (.keyLeftBehind a.address generated.handle e)
      return none

/-- Record a failure, rolling back if it is one of registration; answers with the failure to
report. -/
def fail (store : CredentialStore σ) (a : RenewalAttempt) (error : RenewalError) :
    Action σ ε (RenewalAttempt × RenewalError) :=
  match error with
  | .registrationFailed address _ source => do
    let rolledBack ← a.rollBack store
    let error := RenewalError.registrationFailed address rolledBack source
    return ({ a with
      phase := .failed error.message a.phase.display rolledBack.isSome
      generated := none }, error)
  | error =>
    return ({ a with phase := .failed error.message a.phase.display false }, error)

end RenewalAttempt

end KeyRenewal
