import KeyRenewal.Collaborators
import KeyRenewal.Window

/-!
# Generation

Making a credential: the range must be ordered and an explicit directory must exist before the store
is asked. A dilution of zero stands for the default of the range.
-/

namespace KeyRenewal

/-- Where a new key goes: into the store, or into a directory of the caller's. -/
inductive Destination
  | managed
  | directory (path : Path)
deriving DecidableEq, Inhabited

variable {σ : Type}

/-- The output directory of a destination, if it is usable. -/
def Destination.outputDir (isDirectory : Path → σ → Bool) :
    Destination → Action σ RenewalError (Option Path)
  | .managed => pure none
  | .directory path => do
    let s ← Action.get
    if isDirectory path s then return some path
    else Action.fail (.outputDirMissing path)

/-- The dilution to use for a range. -/
def resolveDilution (keyDilution : UInt64) (firstValid lastValid : Round) : UInt64 :=
  if keyDilution = 0 then defaultDilution firstValid lastValid else keyDilution

def Collaborators.generate (c : Collaborators σ) (address : Address) (firstValid lastValid : Round)
    (keyDilution : UInt64) (destination : Destination) :
    Action σ RenewalError GeneratedCredential :=
  if lastValid < firstValid then Action.fail (.invalidRange firstValid lastValid)
  else do
    let outputDir ← destination.outputDir c.isDirectory
    let keyDilution := resolveDilution keyDilution firstValid lastValid
    let generated ← (c.store.generate
      { address, firstValid, lastValid, keyDilution, outputDir }).mapError .generationFailed
    Action.log (.keyGenerated generated.handle address firstValid lastValid keyDilution)
    return generated

end KeyRenewal
