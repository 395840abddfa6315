import KeyRenewal.Collaborators
import KeyRenewal.Files.Tree

/-!
# A machine with files, a disk and fresh keys

The state that file-backed collaborators share: a tree of files, the disk they are on, and a supply
of key pairs. Where the pairs come from is not part of the library, nor is when the disk fails; any
stream will do.
-/

namespace KeyRenewal

structure KeyPair where
  secret : Bytes32
  verifier : Bytes32
deriving DecidableEq, Inhabited

/-- An endless supply of key pairs and how many of them are used up. -/
structure KeySource where
  pair : Nat → KeyPair
  drawn : Nat

/-- What a disk does with the writes and removals that its files allow. Each takes a turn. -/
structure Disk where
  /-- How many bytes of a write are kept, maybe all of them, and why it fails, unless it does not. -/
  write : Nat → Option (Nat × IoKind)
  /-- Why a removal fails, unless it does not. -/
  removal : Nat → Option IoKind
  turns : Nat

namespace Disk

/-- A disk on which nothing fails. -/
def reliable : Disk := ⟨fun _ => none, fun _ => none, 0⟩

def next (d : Disk) : Disk := { d with turns := d.turns + 1 }

end Disk

structure Machine where
  files : FileTree
  keys : KeySource
  disk : Disk := .reliable

namespace Machine

/-- The owner may read and write, nobody else anything. -/
def ownerOnly : Nat := 0o600

/-- Look at the files. -/
def inspect {α : Type} (look : FileTree → Except IoKind α) : Action Machine ServiceError α := do
  let m ← Action.get
  (Action.ofExcept (look m.files)).mapError fun kind => .io (.ofKind kind)

/-- Change the files, unless the change is refused. -/
def change (edit : FileTree → Except IoKind FileTree) : Action Machine ServiceError Unit := do
  let files ← inspect edit
  Action.modify fun m => { m with files }

/-- Make a directory and those on the way to it. -/
def makeDirectories (path : Path) : Action Machine ServiceError Unit := do
  let m ← Action.get
  let (files, result) := m.files.makeDirectories path
  Action.modify fun m => { m with files }
  (Action.ofExcept result).mapError fun kind => .io (.ofKind kind)

/-- A key pair that was not drawn before. -/
def drawPair : Action Machine ServiceError KeyPair := do
  let m ← Action.get
  Action.modify fun m => { m with keys := { m.keys with drawn := m.keys.drawn + 1 } }
  return m.keys.pair m.keys.drawn

/-- Open a file, unless that is refused. -/
def openFile (edit : FileTree → Except IoKind (Place × FileTree)) :
    Action Machine IoKind Place := do
  let m ← Action.get
  let (place, files) ← Action.ofExcept (edit m.files)
  Action.modify fun m => { m with files }
  return place

/-- Write to a file that was opened. When the disk fails, some of the bytes may be there. -/
def fill (place : Place) (bytes : List UInt8) : Action Machine IoKind Unit := do
  let m ← Action.get
  match m.disk.write m.disk.turns with
  | none =>
    Action.modify fun m => { m with files := m.files.fill place bytes, disk := m.disk.next }
  | some (kept, kind) =>
    Action.modify fun m =>
      { m with files := m.files.fill place (bytes.take kept), disk := m.disk.next }
    Action.fail kind

/-- Remove a file, unless the files or the disk refuse it. -/
def remove (path : Path) : Action Machine IoKind Unit := do
  let m ← Action.get
  let files ← Action.ofExcept (m.files.removeFile path)
  match m.disk.removal m.disk.turns with
  | none => Action.modify fun m => { m with files, disk := m.disk.next }
  | some kind =>
    Action.modify fun m => { m with disk := m.disk.next }
    Action.fail kind

/-- Open a file and write all of it. -/
def writeFile (path : Path) (bytes : List UInt8) : Action Machine IoKind Unit := do
  let place ← openFile fun files => files.openFile path ownerOnly
  fill place bytes

/-- Artifacts become files; a new one is for its owner only. -/
def fileSink : ArtifactSink Machine where
  write path bytes := (writeFile path bytes).mapError fun kind => .io (.ofKind kind)

end Machine

end KeyRenewal
