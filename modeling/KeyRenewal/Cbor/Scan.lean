import KeyRenewal.BigEndian
import KeyRenewal.Cbor.Item
import KeyRenewal.Text.Utf8

/-!
# Reading CBOR

One item is read off the front of the bytes; what follows it is left alone. Heads need not be the
shortest, strings may come in segments, which may themselves be segmented, and every piece of text
must be UTF-8 by itself.
-/

namespace KeyRenewal.Cbor

/-- The number of a head: given, or left open until a break. -/
inductive Extent
  | given (n : Nat)
  | open

/-- The first byte of an item and its number: the kind, the width bits, the number. -/
structure Head where
  major : Nat
  minor : Nat
  extent : Extent

/-- The first `n` bytes, if there are so many. -/
def splitBytes (n : Nat) (bs : List UInt8) : Option (List UInt8 × List UInt8) :=
  if n ≤ bs.length then some (bs.take n, bs.drop n) else none

/-- How many bytes of a number follow a first byte. -/
def widthOf (minor : Nat) : Option Nat :=
  if minor < 24 then some 0
  else if minor = 24 then some 1
  else if minor = 25 then some 2
  else if minor = 26 then some 4
  else if minor = 27 then some 8
  else none

def scanHead : List UInt8 → Option (Head × List UInt8)
  | [] => none
  | b :: rest =>
    let major := b.toNat / 32
    let minor := b.toNat % 32
    if minor = 31 then some (⟨major, minor, .open⟩, rest)
    else do
      let width ← widthOf minor
      let (bytes, rest) ← splitBytes width rest
      let n := if width = 0 then minor else BigEndian.decode bytes
      return (⟨major, minor, .given n⟩, rest)

/-- The content of a segmented string up to the break that ends it. The number counts the strings
that are open. -/
def scanSegments (major : Nat) (check : List UInt8 → Bool) :
    Nat → Nat → List UInt8 → Option (List UInt8 × List UInt8)
  | 0, _, _ => none
  | turns + 1, nested, bs => do
    let (h, rest) ← scanHead bs
    match h.extent with
    | .open =>
      if h.major = 7 then
        if nested ≤ 1 then return ([], rest) else scanSegments major check turns (nested - 1) rest
      else if h.major = major then scanSegments major check turns (nested + 1) rest
      else none
    | .given n =>
      if h.major = major then
        let (segment, rest) ← splitBytes n rest
        if check segment then
          let (content, rest) ← scanSegments major check turns nested rest
          return (segment ++ content, rest)
        else none
      else none

/-- The content of a string and whether its length was given. -/
def scanString (major : Nat) (check : List UInt8 → Bool) (extent : Extent) (bs : List UInt8) :
    Option (Bool × List UInt8 × List UInt8) :=
  match extent with
  | .given n => do
    let (content, rest) ← splitBytes n bs
    if check content then some (true, content, rest) else none
  | .open => do
    let (content, rest) ← scanSegments major check (bs.length + 1) 1 bs
    return (false, content, rest)

def isUtf8 (bytes : List UInt8) : Bool := (Text.Utf8.decode bytes).isSome

/-- Keys and values that alternate. -/
def pairUp : List Item → Option (List (Item × Item))
  | [] => some []
  | [_] => none
  | key :: value :: rest => (pairUp rest).map ((key, value) :: ·)

/-- An item that is complete in its head: a number, a simple value or a float. -/
def scanPlain (h : Head) (rest : List UInt8) : Option (Item × List UInt8) :=
  match h.extent, h.major with
  | .given n, 0 => some (.natural (UInt64.ofNat n), rest)
  | .given n, 1 => some (.negative (UInt64.ofNat n), rest)
  | .given n, 7 =>
    if h.minor ≤ 24 then some (.simple (UInt8.ofNat n), rest)
    else
      let width := if h.minor = 25 then 2 else if h.minor = 26 then 4 else 8
      some (.float (BigEndian.encode width n), rest)
  | _, _ => none

mutual

/-- An item and what follows it. -/
def scanItem : Nat → List UInt8 → Option (Item × List UInt8)
  | 0, _ => none
  | turns + 1, bs => do
    let (h, rest) ← scanHead bs
    match h.major with
    | 2 =>
      let (definite, content, rest) ← scanString 2 (fun _ => true) h.extent rest
      return (.bytes definite content, rest)
    | 3 =>
      let (definite, content, rest) ← scanString 3 isUtf8 h.extent rest
      let text ← Text.Utf8.decode content
      return (.text definite text, rest)
    | 4 =>
      let (items, rest) ← scanItems turns h.extent rest
      return (.array items, rest)
    | 5 =>
      let (items, rest) ← scanItems turns
        (match h.extent with | .given n => .given (2 * n) | .open => .open) rest
      let entries ← pairUp items
      return (.map entries, rest)
    | 6 =>
      match h.extent with
      | .given n =>
        let (item, rest) ← scanItem turns rest
        return (.tag (UInt64.ofNat n) item, rest)
      | .open => none
    | _ => scanPlain h rest

/-- So many items, or the items up to a break. -/
def scanItems : Nat → Extent → List UInt8 → Option (List Item × List UInt8)
  | 0, _, _ => none
  | _ + 1, .given 0, bs => some ([], bs)
  | turns + 1, .given (n + 1), bs => do
    let (item, rest) ← scanItem turns bs
    let (items, rest) ← scanItems turns (.given n) rest
    return (item :: items, rest)
  | turns + 1, .open, bs =>
    match bs with
    | 0xFF :: rest => some ([], rest)
    | bs => do
      let (item, rest) ← scanItem turns bs
      let (items, rest) ← scanItems turns .open rest
      return (item :: items, rest)

end

/-- The item at the front of some bytes. -/
def parse (bs : List UInt8) : Option Item := (scanItem (2 * bs.length + 2) bs).map (·.1)

end KeyRenewal.Cbor
