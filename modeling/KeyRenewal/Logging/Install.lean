import KeyRenewal.Config

/-!
# Installing logging

A process has room for one subscriber. The filter comes from the environment if there is one there
that can be read, and from the settings otherwise.
-/

namespace KeyRenewal.Logging

/-- What installing looks at: the filter in the environment, and whether a subscriber is there. -/
structure Installation where
  environment : Option String
  installed : Bool
deriving DecidableEq, Inhabited

namespace Installation

/-- Whether the environment holds a filter. -/
def hasFilter (i : Installation) : Bool := i.environment.any fun filter => (Filter.check filter).isOk

/-- Install a subscriber, unless the level is no filter or one is there already. -/
def install (i : Installation) (settings : LoggingConfig) : Except ConfigError Installation := do
  if i.hasFilter then pure () else settings.validate
  if i.installed then .error .loggingInstalled else return { i with installed := true }

/-- Install one after another; a failure leaves things as they were. -/
def installAll (i : Installation) : List LoggingConfig → List (Except ConfigError Unit)
  | [] => []
  | settings :: rest =>
    match i.install settings with
    | .ok next => .ok () :: next.installAll rest
    | .error e => .error e :: i.installAll rest

/-- Install a subscriber for tests, if there is none. -/
def installForTests (i : Installation) : Installation := { i with installed := true }

end Installation

end KeyRenewal.Logging
