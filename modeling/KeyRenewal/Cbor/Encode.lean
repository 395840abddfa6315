import KeyRenewal.BigEndian
import KeyRenewal.Cbor.Item
import KeyRenewal.Text.Utf8

/-!
# Writing CBOR
-/

namespace KeyRenewal.Cbor

/-- A kind of item with its number, in the fewest bytes. -/
def head (major : Nat) (n : Nat) : List UInt8 :=
  if n < 24 then [UInt8.ofNat (32 * major + n)]
  else if n < UInt8.size then UInt8.ofNat (32 * major + 24) :: BigEndian.encode 1 n
  else if n < UInt16.size then UInt8.ofNat (32 * major + 25) :: BigEndian.encode 2 n
  else if n < UInt32.size then UInt8.ofNat (32 * major + 26) :: BigEndian.encode 4 n
  else UInt8.ofNat (32 * major + 27) :: BigEndian.encode 8 n

/-- A string, whole or as the only segment of an open one. -/
def encodeString (major : Nat) (definite : Bool) (content : List UInt8) : List UInt8 :=
  let whole := head major content.length ++ content
  if definite then whole else UInt8.ofNat (32 * major + 31) :: whole ++ [0xFF]

namespace Item

mutual

def encode : Item → List UInt8
  | natural n => head 0 n.toNat
  | negative n => head 1 n.toNat
  | bytes definite content => encodeString 2 definite content
  | text definite content => encodeString 3 definite (Text.Utf8.encode content)
  | array items => head 4 items.length ++ encodeAll items
  | map entries => head 5 entries.length ++ encodeEntries entries
  | tag number item => head 6 number.toNat ++ encode item
  | simple code => if code < 24 then [0xE0 + code] else [0xF8, code]
  | float content =>
    (if content.length = 2 then 0xF9 else if content.length = 4 then 0xFA else 0xFB) :: content

def encodeAll : List Item → List UInt8
  | [] => []
  | item :: rest => encode item ++ encodeAll rest

def encodeEntries : List (Item × Item) → List UInt8
  | [] => []
  | (key, value) :: rest => encode key ++ (encode value ++ encodeEntries rest)

end

end Item

end KeyRenewal.Cbor
