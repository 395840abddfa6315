import KeyRenewal.OrderedMap
import KeyRenewal.Path
import KeyRenewal.Round

/-!
# Participation credentials

A credential lets one account vote over an inclusive range of rounds. Its public half is two
verifiers of 32 bytes; its secret half lies behind a key handle.
-/

namespace KeyRenewal

/-- An account of the ledger. -/
structure Address where
  text : String
deriving DecidableEq, Inhabited

namespace Address

instance : Ord Address := ⟨compareOn text⟩

instance : Std.TransOrd Address := inferInstanceAs (Std.TransCmp (compareOn text))

instance : ToString Address := ⟨text⟩

end Address

/-- Thirty-two bytes: a verifier, a public key or a secret. -/
structure Bytes32 where
  bytes : List UInt8
  length_bytes : bytes.length = 32
deriving DecidableEq

namespace Bytes32

def ofList? (bytes : List UInt8) : Option Bytes32 :=
  if h : bytes.length = 32 then some ⟨bytes, h⟩ else none

/-- The same byte thirty-two times. -/
def filled (b : UInt8) : Bytes32 := ⟨List.replicate 32 b, List.length_replicate⟩

instance : Inhabited Bytes32 := ⟨filled 0⟩

theorem ofList?_bytes (b : Bytes32) : ofList? b.bytes = some b := by
  simp [ofList?, b.length_bytes]

end Bytes32

/-- The public half of a participation key: who may vote, and in which rounds. -/
structure Credential where
  address : Address
  firstValid : Round
  lastValid : Round
  voteVerifier : Bytes32
  selectionVerifier : Bytes32
  keyDilution : UInt64
deriving DecidableEq, Inhabited

namespace Credential

/-- Whether the account may vote with this credential in a round. -/
def isValidAt (c : Credential) (round : Round) : Bool :=
  decide (c.firstValid ≤ round) && decide (round ≤ c.lastValid)

/-- Whether the credential lasts at least until the horizon. -/
def covers (c : Credential) (horizon : Round) : Bool := decide (horizon ≤ c.lastValid)

/-- The name a key file of this account and range has. -/
def fileNameOf (address : Address) (firstValid lastValid : Round) : String :=
  s!"{address}.{firstValid}.{lastValid}.partkey"

def fileName (c : Credential) : String := fileNameOf c.address c.firstValid c.lastValid

/-- The extension that marks a key file. -/
def fileExtension : String := "partkey"

end Credential

/-- A credential and where its secret half was put. -/
structure GeneratedCredential where
  credential : Credential
  handle : KeyHandle
deriving DecidableEq, Inhabited

/-- Installed credentials by key handle. -/
abbrev Keyring := OrderedMap KeyHandle Credential

namespace Keyring

/-- Keep a credential if its account has none yet or only ones that end earlier. -/
def keepLatest (latest : OrderedMap Address GeneratedCredential) (handle : KeyHandle)
    (credential : Credential) : OrderedMap Address GeneratedCredential :=
  match latest.find? credential.address with
  | some best =>
    if credential.lastValid ≤ best.credential.lastValid then latest
    else latest.insert credential.address ⟨credential, handle⟩
  | none => latest.insert credential.address ⟨credential, handle⟩

/-- For each account, its credential that ends last; of several, the one with the least handle. -/
def latest (keys : Keyring) : OrderedMap Address GeneratedCredential :=
  keys.toList.foldl (fun best e => keepLatest best e.1 e.2) .empty

/-- Where the account's credentials end that reach the horizon, the greatest if there are several. -/
def coverage? (keys : Keyring) (address : Address) (horizon : Round) : Option Round :=
  ((keys.values.filter (fun c => c.address == address && c.covers horizon)).map (·.lastValid)).max?

end Keyring

end KeyRenewal
