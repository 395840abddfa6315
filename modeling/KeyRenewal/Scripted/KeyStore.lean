import KeyRenewal.Collaborators
import KeyRenewal.Sha256
import KeyRenewal.Text.Utf8

/-!
# A key store in memory

Keys are kept in a map under handles of a fixed form. Verifiers are drawn from the request, so that
the same request always gives the same credential. Every request and every deletion is remembered,
and both can be made to fail.
-/

namespace KeyRenewal

structure MemoryStore where
  credentials : Keyring
  requests : List GenerationRequest
  deleted : List KeyHandle
  failGenerationFor : List Address
  failDeletes : Bool
deriving DecidableEq

namespace MemoryStore

def empty : MemoryStore := ⟨.empty, [], [], [], false⟩

instance : Inhabited MemoryStore := ⟨empty⟩

/-- The handle of an installed key. -/
def handleFor (address : Address) (firstValid lastValid : Round) : KeyHandle :=
  ⟨"memory/" ++ Credential.fileNameOf address firstValid lastValid⟩

/-- Put a credential under its handle, whatever is there. -/
def install (s : MemoryStore) (c : Credential) : MemoryStore :=
  { s with credentials :=
      s.credentials.insert (handleFor c.address c.firstValid c.lastValid) c }

def bytesOfRound (r : Round) : List UInt8 := BigEndian.encode 8 r.number.toNat

def verifierFor (label : String) (request : GenerationRequest) : Bytes32 :=
  Sha256.digest (Text.Utf8.encode label ++ Text.Utf8.encode request.address.text ++
    bytesOfRound request.firstValid ++ bytesOfRound request.lastValid)

def credentialFor (request : GenerationRequest) : Credential where
  address := request.address
  firstValid := request.firstValid
  lastValid := request.lastValid
  voteVerifier := verifierFor "vote" request
  selectionVerifier := verifierFor "selection" request
  keyDilution := request.keyDilution

def list : Action MemoryStore ServiceError Keyring := do
  let s ← Action.get
  return s.credentials

def generate (request : GenerationRequest) :
    Action MemoryStore ServiceError GeneratedCredential := do
  Action.modify fun s => { s with requests := s.requests ++ [request] }
  let s ← Action.get
  if s.failGenerationFor.contains request.address then
    Action.fail (.request "key generation failed")
  else
    let credential := credentialFor request
    match request.outputDir with
    | some directory => return ⟨credential, directory.join ⟨credential.fileName⟩⟩
    | none =>
      let handle := handleFor request.address request.firstValid request.lastValid
      if s.credentials.contains handle then
        Action.fail (.rejected s!"key file already exists: {handle}")
      else
        Action.modify fun s => { s with credentials := s.credentials.insert handle credential }
        return ⟨credential, handle⟩

def delete (handle : KeyHandle) : Action MemoryStore ServiceError Unit := do
  let s ← Action.get
  if s.failDeletes then Action.fail (.request "delete failed")
  else if s.credentials.contains handle then
    Action.modify fun s => { s with
      credentials := s.credentials.erase handle
      deleted := s.deleted ++ [handle] }
  else Action.fail (.notFound handle.text)

def store : CredentialStore MemoryStore := ⟨list, generate, delete⟩

/-- The account's credentials in handle order. -/
def credentialsOf (s : MemoryStore) (address : Address) : List Credential :=
  s.credentials.values.filter (·.address == address)

end MemoryStore

end KeyRenewal
