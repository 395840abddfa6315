/-!
# CBOR items

An item is one value of CBOR as it is laid out: strings say whether their length was given at the
start, numbers are 64-bit. Writing always gives lengths at the start and uses the shortest head.
-/

namespace KeyRenewal.Cbor

inductive Item
  | natural (value : UInt64)
  /-- The number `-1 - value`. -/
  | negative (value : UInt64)
  | bytes (definite : Bool) (content : List UInt8)
  | text (definite : Bool) (content : String)
  | array (items : List Item)
  | map (entries : List (Item × Item))
  | tag (number : UInt64) (item : Item)
  | simple (code : UInt8)
  /-- A floating-point number by its bytes. -/
  | float (content : List UInt8)
deriving Inhabited

def Item.null : Item := .simple 22

def Item.ofText (text : String) : Item := .text true text

end KeyRenewal.Cbor
