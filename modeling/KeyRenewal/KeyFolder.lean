import KeyRenewal.Envelope.Cbor
import KeyRenewal.Files.Machine

/-!
# Key folders

A folder holds one file per key, named after the account and the range. The file is a CBOR record of
the credential and its two secrets. Other files in the folder are passed over, and so are key files
that cannot be read.
-/

namespace KeyRenewal

/-- What a key file says. -/
structure KeyFile where
  credential : Credential
  voteSecret : Bytes32
  selectionSecret : Bytes32
deriving DecidableEq

namespace KeyFile

open Cbor

def toItem (f : KeyFile) : Item :=
  record [
    ("credential", f.credential.toItem),
    ("vote_secret", ofHex32 f.voteSecret),
    ("selection_secret", ofHex32 f.selectionSecret)]

def ofItem? (depth : Nat) (item : Item) : Option KeyFile := do
  match ← fields depth ["credential", "vote_secret", "selection_secret"] item with
  | [credential, vote, selection] =>
    return ⟨← needed (Credential.ofItem? (depth - 1)) credential, ← needed asHex32 vote,
      ← needed asHex32 selection⟩
  | _ => none

def toCbor (f : KeyFile) : List UInt8 := f.toItem.encode

def ofCbor? (bytes : List UInt8) : Option KeyFile := (parse bytes).bind (ofItem? depthLimit)

end KeyFile

/-- A directory in which keys are kept. -/
structure KeyFolder where
  root : Path
deriving DecidableEq, Inhabited

namespace KeyFolder

/-- Make the directory if it is not there. -/
def «open» (root : Path) : Action Machine ServiceError KeyFolder := do
  Machine.makeDirectories root
  return ⟨root⟩

/-- An address names a file if it is a single component of a path. -/
def isFileName (address : Address) : Bool :=
  (Path.mk address.text).components == [.name address.text]

def checkAddress (address : Address) : Except ServiceError Unit :=
  if isFileName address then .ok ()
  else .error (.rejected
    ("address Address(" ++ Text.Quoted.encode address.text ++
      ") cannot be used as a key file name"))

/-- The credential in a key file. -/
def readKey (path : Path) : Action Machine ServiceError Credential := do
  let (bytes, _) ← Machine.inspect fun files => files.read path
  match KeyFile.ofCbor? bytes with
  | some file => return file.credential
  | none => Action.fail (.serialization "not a key file")

/-- Collect the keys of some files. -/
def collect (keys : Keyring) : List Path → Action Machine ServiceError Keyring
  | [] => pure keys
  | path :: rest => do
    match ← (readKey path).attempt with
    | .ok credential => collect (keys.insert path credential) rest
    | .error e =>
      Action.log (.keyFileSkipped path e)
      collect keys rest

/-- The key files of the folder. -/
def keyFiles (folder : KeyFolder) (names : List String) : List Path :=
  (names.map fun name => folder.root.join ⟨name⟩).filter
    fun path => path.extension? == some Credential.fileExtension

def list (folder : KeyFolder) : Action Machine ServiceError Keyring := do
  let names ← Machine.inspect fun files => files.readDirectory folder.root
  collect .empty (folder.keyFiles names)

/-- Why a key file was not opened. -/
def notOpened (path : Path) : IoKind → ServiceError
  | .alreadyExists => .rejected s!"key file already exists: {path}"
  | kind => .io (.ofKind kind)

/-- Write a key file that must not be there yet. One that could not be written is removed again, or
left if that fails too. -/
def writeNew (path : Path) (bytes : List UInt8) : Action Machine ServiceError Unit := do
  let opened := Machine.openFile fun files => files.createFile path Machine.ownerOnly
  let place ← opened.mapError (notOpened path)
  match ← (Machine.fill place bytes).attempt with
  | .ok () => return
  | .error kind =>
    let _ ← (Machine.remove path).attempt
    Action.fail (.io (.ofKind kind))

def generate (folder : KeyFolder) (request : GenerationRequest) :
    Action Machine ServiceError GeneratedCredential := do
  Action.ofExcept (checkAddress request.address)
  let vote ← Machine.drawPair
  let selection ← Machine.drawPair
  let credential : Credential := {
    address := request.address
    firstValid := request.firstValid
    lastValid := request.lastValid
    voteVerifier := vote.verifier
    selectionVerifier := selection.verifier
    keyDilution := request.keyDilution }
  let path := (request.outputDir.getD folder.root).join ⟨credential.fileName⟩
  writeNew path (KeyFile.mk credential vote.secret selection.secret).toCbor
  return ⟨credential, path⟩

/-- Why a key was not deleted. -/
def notDeleted (handle : KeyHandle) : IoKind → ServiceError
  | .notFound => .notFound handle.text
  | kind => .io (.ofKind kind)

def delete (handle : KeyHandle) : Action Machine ServiceError Unit :=
  (Machine.remove handle).mapError (notDeleted handle)

/-- The folder as a credential store. -/
def store (folder : KeyFolder) : CredentialStore Machine where
  list := folder.list
  generate := folder.generate
  delete := delete

end KeyFolder

end KeyRenewal
