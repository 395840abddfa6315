/-!
# Failures of collaborators

What a ledger client, a credential store, a signer or an artifact sink may report. A failure of the
file system is told by its kind; its wording is the system's own unless somebody gave another.
-/

namespace KeyRenewal

/-- Why the file system refused. -/
inductive IoKind
  | notFound
  | permissionDenied
  | alreadyExists
  | notADirectory
  | isADirectory
  | invalidInput
  | invalidData
  | invalidFilename
  | storageFull
  | other
deriving DecidableEq

namespace IoKind

def phrase : IoKind → String
  | notFound => "No such file or directory (os error 2)"
  | permissionDenied => "Permission denied (os error 13)"
  | alreadyExists => "File exists (os error 17)"
  | notADirectory => "Not a directory (os error 20)"
  | isADirectory => "Is a directory (os error 21)"
  | invalidInput => "file name contained an unexpected NUL byte"
  | invalidData => "stream did not contain valid UTF-8"
  | invalidFilename => "File name too long (os error 36)"
  | storageFull => "No space left on device (os error 28)"
  | other => "other error"

end IoKind

/-- A refusal, with wording of its own or none. -/
structure IoError where
  kind : IoKind
  text : Option String
deriving DecidableEq

namespace IoError

/-- A refusal in the system's own words. -/
def ofKind (kind : IoKind) : IoError := ⟨kind, none⟩

def message (e : IoError) : String := e.text.getD e.kind.phrase

end IoError

inductive ServiceError
  | request (reason : String)
  | notFound (what : String)
  | rejected (reason : String)
  | serialization (reason : String)
  | io (error : IoError)
deriving DecidableEq

namespace ServiceError

def message : ServiceError → String
  | request reason => "request failed: " ++ reason
  | notFound what => "not found: " ++ what
  | rejected reason => "rejected: " ++ reason
  | serialization reason => "serialization error: " ++ reason
  | io error => "IO error: " ++ error.message

end ServiceError

end KeyRenewal
