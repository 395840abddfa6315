import KeyRenewal.OrderedMap
import KeyRenewal.Path
import KeyRenewal.ServiceError

/-!
# A tree of files

Files and directories by their place below the root, without links. A path is followed step by step:
each step but the last must lead to a directory, also a step that goes nowhere, as a trailing slash
does. Operations fail with the kind of refusal that a POSIX system gives. Whoever asks for them owns
every file, so that it is the owner's permissions which let a file be read or opened for writing.
-/

namespace KeyRenewal

/-- What is found at a place; a file has the permission bits it was made with. -/
inductive FileNode
  | file (bytes : List UInt8) (mode : Nat)
  | directory
deriving DecidableEq

/-- The names on the way from the root. -/
abbrev Place := List String

/-- Everything below the root, and where relative paths start. -/
structure FileTree where
  nodes : OrderedMap Place FileNode
  workingDirectory : Place
deriving DecidableEq

namespace FileTree

instance : Inhabited FileTree := ⟨⟨.empty, []⟩⟩

/-- The root is always a directory. -/
def node? (t : FileTree) (place : Place) : Option FileNode :=
  if place = [] then some .directory else t.nodes.find? place

/-- The longest name, and one more than the longest path, in bytes. -/
def nameLimit : Nat := 255
def pathLimit : Nat := 4096

/-- Take one step of a path. -/
def step (t : FileTree) (place : Place) (piece : String) : Except IoKind Place :=
  match t.node? place with
  | none => .error .notFound
  | some (.file ..) => .error .notADirectory
  | some .directory =>
    if piece = "" ∨ piece = "." then .ok place
    else if piece = ".." then .ok place.dropLast
    else if nameLimit < piece.utf8ByteSize then .error .invalidFilename
    else if (t.node? (place ++ [piece])).isSome then .ok (place ++ [piece])
    else .error .notFound

/-- Take the steps one after another. -/
def follow (t : FileTree) : Place → List String → Except IoKind Place
  | place, [] => .ok place
  | place, piece :: rest => do
    let next ← t.step place piece
    t.follow next rest

/-- Where a path leads: to a directory by dots or slashes alone, or to a name in a directory, which
need not be there. A name with a slash behind it asks for a directory. -/
inductive Target
  | directory (place : Place)
  | entry (parent : Place) (name : String) (slashed : Bool)

/-- The pieces of a path without the empty ones at its end, and whether there were any. -/
def trimPieces (pieces : List String) : List String × Bool :=
  let kept := (pieces.reverse.dropWhile (· = "")).reverse
  (kept, kept.length < pieces.length)

def startOf (t : FileTree) (p : Path) : Place := if p.isAbsolute then [] else t.workingDirectory

/-- Find the directory a path ends in. -/
def locate (t : FileTree) (p : Path) : Except IoKind Target :=
  if p.text.toList.contains '\x00' then .error .invalidInput
  else if p.text = "" then .error .notFound
  else if pathLimit ≤ p.text.utf8ByteSize then .error .invalidFilename
  else
    let (pieces, slashed) := trimPieces (Path.pieces p.text.toList)
    match pieces.getLast? with
    | none => .ok (.directory [])
    | some name =>
      if name = "." ∨ name = ".." then do
        let place ← t.follow (t.startOf p) pieces
        return .directory place
      else do
        let parent ← t.follow (t.startOf p) pieces.dropLast
        match t.node? parent with
        | some .directory => return .entry parent name slashed
        | _ => .error .notADirectory

/-- What a directory holds under a name, if the name is not too long. -/
def child (t : FileTree) (parent : Place) (name : String) : Except IoKind (Option FileNode) :=
  if nameLimit < name.utf8ByteSize then .error .invalidFilename
  else .ok (t.node? (parent ++ [name]))

/-- What is found at the end of a path, and where. -/
def find (t : FileTree) (p : Path) : Except IoKind (Place × FileNode) := do
  match ← t.locate p with
  | .directory place => return (place, .directory)
  | .entry parent name slashed =>
    match ← t.child parent name with
    | none => .error .notFound
    | some (.file bytes mode) =>
      if slashed then .error .notADirectory else return (parent ++ [name], .file bytes mode)
    | some .directory => return (parent ++ [name], .directory)

def isDirectory (t : FileTree) (p : Path) : Bool :=
  match t.find p with
  | .ok (_, .directory) => true
  | _ => false

/-- The permission bit `0o400`. -/
def ownerReads (mode : Nat) : Bool := mode.testBit 8

/-- The permission bit `0o200`. -/
def ownerWrites (mode : Nat) : Bool := mode.testBit 7

/-- The content of a file that may be read, and its mode. -/
def read (t : FileTree) (p : Path) : Except IoKind (List UInt8 × Nat) := do
  match ← t.find p with
  | (_, .file bytes mode) =>
    if ownerReads mode then return (bytes, mode) else .error .permissionDenied
  | (_, .directory) => .error .isADirectory

/-- The names in a directory, in order. -/
def namesIn (t : FileTree) (place : Place) : List String :=
  t.nodes.keys.filterMap fun key => if key.dropLast = place then key.getLast? else none

def readDirectory (t : FileTree) (p : Path) : Except IoKind (List String) := do
  match ← t.find p with
  | (place, .directory) => return t.namesIn place
  | (_, .file ..) => .error .notADirectory

def put (t : FileTree) (place : Place) (node : FileNode) : FileTree :=
  { t with nodes := t.nodes.insert place node }

/-- Open a file to write it from its start: one that is not there is made with the given mode, and
one that is there loses its content and keeps its mode. -/
def openFile (t : FileTree) (p : Path) (mode : Nat) : Except IoKind (Place × FileTree) := do
  match ← t.locate p with
  | .directory _ => .error .isADirectory
  | .entry parent name slashed =>
    if slashed then .error .isADirectory
    else
      match ← t.child parent name with
      | none => return (parent ++ [name], t.put (parent ++ [name]) (.file [] mode))
      | some (.file _ old) =>
        if ownerWrites old then
          return (parent ++ [name], t.put (parent ++ [name]) (.file [] old))
        else .error .permissionDenied
      | some .directory => .error .isADirectory

/-- Open a file that must not be there yet. -/
def createFile (t : FileTree) (p : Path) (mode : Nat) : Except IoKind (Place × FileTree) := do
  match ← t.locate p with
  | .directory _ => .error .alreadyExists
  | .entry parent name slashed =>
    if slashed then .error .isADirectory
    else
      match ← t.child parent name with
      | none => return (parent ++ [name], t.put (parent ++ [name]) (.file [] mode))
      | some _ => .error .alreadyExists

/-- Give a file that was opened its content. -/
def fill (t : FileTree) (place : Place) (bytes : List UInt8) : FileTree :=
  match t.node? place with
  | some (.file _ mode) => t.put place (.file bytes mode)
  | _ => t

/-- Write a file from its start. -/
def writeFile (t : FileTree) (p : Path) (bytes : List UInt8) (mode : Nat) :
    Except IoKind FileTree := do
  let (place, t) ← t.openFile p mode
  return t.fill place bytes

/-- Remove a file. -/
def removeFile (t : FileTree) (p : Path) : Except IoKind FileTree := do
  match ← t.locate p with
  | .directory _ => .error .isADirectory
  | .entry parent name slashed =>
    match ← t.child parent name with
    | none => .error .notFound
    | some .directory => .error .isADirectory
    | some (.file ..) =>
      if slashed then .error .notADirectory
      else return { t with nodes := t.nodes.erase (parent ++ [name]) }

/-- Remove a file, or a directory with all that is in it. -/
def removeTree (t : FileTree) (p : Path) : Except IoKind FileTree := do
  let (place, _) ← t.find p
  return { t with nodes := ⟨t.nodes.entries.filter fun e => !place.isPrefixOf e.1,
    t.nodes.sorted.filter _⟩ }

/-- Make one directory. -/
def makeDirectory (t : FileTree) (p : Path) : Except IoKind FileTree := do
  match ← t.locate p with
  | .directory _ => .error .alreadyExists
  | .entry parent name _ =>
    match ← t.child parent name with
    | none => return t.put (parent ++ [name]) .directory
    | some _ => .error .alreadyExists

/-- The path of the first components. -/
def pathOf : List Path.Component → Path
  | .root :: rest => ⟨"/" ++ "/".intercalate (rest.map Path.Component.spelling)⟩
  | components => ⟨"/".intercalate (components.map Path.Component.spelling)⟩

/-- Make a directory at a path, unless there is one. -/
def ensureDirectory (t : FileTree) (p : Path) : FileTree × Except IoKind Unit :=
  match t.makeDirectory p with
  | .ok t => (t, .ok ())
  | .error e => (t, if t.isDirectory p then .ok () else .error e)

/-- Make a directory and those on the way to it that are not there, given how many components the
path has. Those that were made before a refusal stay. -/
def makeAll (t : FileTree) : Nat → Path → FileTree × Except IoKind Unit
  | 0, _ => (t, .ok ())
  | components + 1, p =>
    match t.makeDirectory p with
    | .error .notFound =>
      match t.makeAll components (pathOf p.components.dropLast) with
      | (t, .ok ()) => t.ensureDirectory p
      | refused => refused
    | _ => t.ensureDirectory p

def makeDirectories (t : FileTree) (p : Path) : FileTree × Except IoKind Unit :=
  t.makeAll p.components.length p

end FileTree

end KeyRenewal
