import KeyRenewal.Batch

/-!
# Expectations

What one may expect of results: success or failure, a confirmation in a given round, the labels of a
batch in order, and that no account was skipped. Each holds or does not.
-/

namespace KeyRenewal.Expectation

def confirmedAt (round : Round) : DispatchOutcome → Bool
  | .confirmed _ actual => actual == round
  | _ => false

/-- The accounts of a report with their labels. -/
def labels (r : BatchReport) : List (String × String) :=
  r.results.map fun row => (row.address.text, row.outcome.label)

def nothingSkipped (r : BatchReport) : Bool := r.results.all fun row => !row.outcome.isSkipped

end KeyRenewal.Expectation
