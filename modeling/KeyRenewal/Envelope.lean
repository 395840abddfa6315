import KeyRenewal.Transaction

/-!
# Signed envelopes

An envelope is a transaction with room for its signatures: one for a plain account, and a template
with a slot per participant for a multisig account. An exported transaction travels in an envelope
in which nothing is signed yet.
-/

namespace KeyRenewal

/-- How the wallet describes a multisig account. -/
structure MultisigInfo where
  version : UInt8
  threshold : UInt8
  publicKeys : List Bytes32
deriving DecidableEq, Inhabited

/-- A participant's slot; the signature is empty until it is given. -/
structure Subsignature where
  key : Bytes32
  signature : List UInt8
deriving DecidableEq, Inhabited

structure MultisigTemplate where
  version : UInt8
  threshold : UInt8
  subsignatures : List Subsignature
deriving DecidableEq, Inhabited

/-- The template with an empty slot for each participant, in order. -/
def MultisigInfo.blank (info : MultisigInfo) : MultisigTemplate where
  version := info.version
  threshold := info.threshold
  subsignatures := info.publicKeys.map (fun key => ⟨key, []⟩)

/-- A transaction with its signatures. -/
structure Envelope where
  transaction : StatusTransaction
  signature : List UInt8
  multisig : Option MultisigTemplate
deriving DecidableEq, Inhabited

namespace Envelope

/-- The envelope without a signature, with a blank template for a multisig sender. -/
def unsigned (transaction : StatusTransaction) (sender : Option MultisigInfo) : Envelope :=
  ⟨transaction, [], sender.map MultisigInfo.blank⟩

/-- The template with signatures in its first slots. -/
def fillSlots (template : MultisigTemplate) (signatures : List (List UInt8)) : MultisigTemplate :=
  { template with
    subsignatures := template.subsignatures.zipIdx.map fun (slot, i) =>
      { slot with signature := signatures[i]?.getD slot.signature } }

/-- The envelope with a signature of its own and signatures in the first slots of its template. -/
def sign (e : Envelope) (signature : List UInt8) (signatures : List (List UInt8)) : Envelope :=
  { e with
    signature
    multisig := e.multisig.map (fillSlots · signatures) }

/-- Whether any signature is given. -/
def isSigned (e : Envelope) : Bool :=
  !e.signature.isEmpty ||
    e.multisig.any (fun template => template.subsignatures.any (fun s => !s.signature.isEmpty))

theorem isSigned_unsigned (t : StatusTransaction) (sender : Option MultisigInfo) :
    (unsigned t sender).isSigned = false := by
  cases sender <;> simp [unsigned, isSigned, MultisigInfo.blank]

end Envelope

end KeyRenewal
