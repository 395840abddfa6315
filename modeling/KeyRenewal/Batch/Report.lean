import KeyRenewal.Attempt
import KeyRenewal.Json.Print

/-!
# Batch reports

What a batch did with each account, in address order, and the counts and the summary drawn from it.
-/

namespace KeyRenewal

inductive AccountOutcome
  | renewed (renewal : Renewal)
  | alreadyCovered (existing : Round)
  | needsManualRenewal (existing : Round)
  | failed (error : RenewalError)
deriving DecidableEq

namespace AccountOutcome

def label : AccountOutcome → String
  | renewed _ => "renewed"
  | alreadyCovered _ => "already-covered"
  | needsManualRenewal _ => "needs-manual-renewal"
  | failed _ => "failed"

def detail : AccountOutcome → String
  | renewed renewal => toString renewal.credential.handle
  | alreadyCovered existing | needsManualRenewal existing =>
    s!"existing key valid through {existing}"
  | failed error => error.message

def isRenewed : AccountOutcome → Bool
  | renewed _ => true
  | _ => false

def isFailed : AccountOutcome → Bool
  | failed _ => true
  | _ => false

/-- Whether nothing was done for the account. -/
def isSkipped : AccountOutcome → Bool
  | alreadyCovered _ | needsManualRenewal _ => true
  | _ => false

end AccountOutcome

structure AccountResult where
  address : Address
  outcome : AccountOutcome
deriving DecidableEq

structure BatchReport where
  horizon : Round
  currentRound : Round
  results : List AccountResult
deriving DecidableEq

namespace BatchReport

def succeeded (r : BatchReport) : Nat := r.results.countP (·.outcome.isRenewed)

def failed (r : BatchReport) : Nat := r.results.countP (·.outcome.isFailed)

def skipped (r : BatchReport) : Nat := r.results.countP (·.outcome.isSkipped)

/-- The accounts left to the operator. -/
def manual (r : BatchReport) : List Address :=
  r.results.filterMap fun row =>
    match row.outcome with
    | .needsManualRenewal _ => some row.address
    | _ => none

def errors (r : BatchReport) : List (Address × RenewalError) :=
  r.results.filterMap fun row =>
    match row.outcome with
    | .failed error => some (row.address, error)
    | _ => none

def outcome? (r : BatchReport) (address : Address) : Option AccountOutcome :=
  (r.results.find? (·.address == address)).map (·.outcome)

/-- The report, or one failure for all if any account failed. -/
def toResult (r : BatchReport) : Except RenewalError BatchReport :=
  if r.failed = 0 then .ok r else .error (.batchFailed r.failed r.succeeded)

def summary (r : BatchReport) : Json.Value :=
  .object [
    ("horizon", .natural r.horizon.number.toNat),
    ("current_round", .natural r.currentRound.number.toNat),
    ("succeeded", .natural r.succeeded),
    ("failed", .natural r.failed),
    ("skipped", .natural r.skipped),
    ("accounts", .array (r.results.map fun row =>
      .object [
        ("address", .string row.address.text),
        ("status", .string row.outcome.label),
        ("detail", .string row.outcome.detail)]))]

/-- The summary as indented text. -/
def summaryText (r : BatchReport) : String := r.summary.pretty

end BatchReport

end KeyRenewal
