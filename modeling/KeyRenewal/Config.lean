import KeyRenewal.Protocol

/-!
# Engine configuration

Defaults and policies of an engine, with the logging settings. A configuration is consistent when
its log level is a filter and its protocol entries form a registry, checked in that order.
-/

namespace KeyRenewal

/-- Whether a submission waits until the transaction is confirmed. -/
inductive WaitMode
  | waitForConfirmation
  | fireAndForget
deriving DecidableEq, Inhabited

/-- What a batch decides for one account. -/
inductive RenewalDecision
  | alreadyCovered
  | needsManualRenewal
  | renew
deriving DecidableEq

/-- Which credentials that end before the horizon a batch leaves to the operator: all of them, or
those that have expired. -/
inductive LapsePolicy
  | manualBelowHorizon
  | manualWhenExpired
deriving DecidableEq, Inhabited

namespace LapsePolicy

def name : LapsePolicy → String
  | manualBelowHorizon => "ManualBelowHorizon"
  | manualWhenExpired => "ManualWhenExpired"

/-- The decision for an account whose latest credential ends at `lastValid`. -/
def classify (policy : LapsePolicy) (lastValid current horizon : Round) : RenewalDecision :=
  if horizon ≤ lastValid then .alreadyCovered
  else
    match policy with
    | manualBelowHorizon => .needsManualRenewal
    | manualWhenExpired => if lastValid < current then .needsManualRenewal else .renew

end LapsePolicy

/-- How log lines look. -/
inductive LogFormat
  | pretty
  | compact
  | json
deriving DecidableEq, Inhabited

structure LoggingConfig where
  level : String := "info"
  format : LogFormat := .compact
  ansi : Bool := true
  spanTimings : Bool := false
deriving DecidableEq, Inhabited

namespace LoggingConfig

def validate (c : LoggingConfig) : Except ConfigError Unit :=
  match Logging.Filter.check c.level with
  | .ok () => .ok ()
  | .error e => .error (.invalidLevel c.level e)

end LoggingConfig

/-- Defaults and policies of an engine. A default dilution of zero derives one from the range. -/
structure EngineConfig where
  defaultFee : UInt64 := 0
  keyDilution : UInt64 := 0
  waitMode : WaitMode := .waitForConfirmation
  lapsePolicy : LapsePolicy := .manualBelowHorizon
  logging : LoggingConfig := {}
  protocols : List ProtocolEntry := []
deriving DecidableEq

namespace EngineConfig

instance : Inhabited EngineConfig := ⟨{}⟩

def registry (c : EngineConfig) : Except ConfigError ProtocolRegistry :=
  ProtocolRegistry.ofEntries c.protocols

def validate (c : EngineConfig) : Except ConfigError Unit := do
  c.logging.validate
  let _ ← c.registry
  return ()

def feeOr (c : EngineConfig) (fee : Option UInt64) : UInt64 := fee.getD c.defaultFee

def dilutionOr (c : EngineConfig) (dilution : Option UInt64) : UInt64 :=
  dilution.getD c.keyDilution

def waitModeOr (c : EngineConfig) (mode : Option WaitMode) : WaitMode := mode.getD c.waitMode

end EngineConfig

end KeyRenewal
