import KeyRenewal.Cbor.Encode
import KeyRenewal.Cbor.Scan
import Mathlib.Data.List.Induction
import Mathlib.Tactic.SplitIfs

/-!
# Reading back CBOR

An item is read back from its bytes whatever follows them, as long as its lengths can be written in
heads. Reading takes at most two turns for every byte. Only what was written is spoken of here: the
bytes of an item are one of many ways to lay it out, and the others are read as well.
-/

namespace KeyRenewal

theorem BigEndian.encode_decode (bytes : List UInt8) :
    encode bytes.length (decode bytes) = bytes := by
  induction bytes using List.reverseRecOn with
  | nil => rfl
  | append_singleton bytes b ih =>
    have small : b.toNat < 256 := b.toNat_lt
    have quotient : (256 * decode bytes + b.toNat) / 256 = decode bytes := by omega
    have low : UInt8.ofNat (256 * decode bytes + b.toNat) = b := by
      rw [← UInt8.toNat_inj, UInt8.toNat_ofNat']
      omega
    rw [List.length_append, List.length_singleton, decode_append_singleton, encode, quotient, ih,
      low]

namespace Cbor

theorem splitBytes_append (bytes rest : List UInt8) :
    splitBytes bytes.length (bytes ++ rest) = some (bytes, rest) := by
  simp [splitBytes]

/-- The kind and the width bits are read off the first byte. -/
theorem firstByte_split {major minor : Nat} (kind : major < 8) (small : minor < 32) :
    (UInt8.ofNat (32 * major + minor)).toNat / 32 = major ∧
      (UInt8.ofNat (32 * major + minor)).toNat % 32 = minor := by
  have byte : (UInt8.ofNat (32 * major + minor)).toNat = 32 * major + minor :=
    UInt8.toNat_ofNat_of_lt' (by show _ < 256; omega)
  omega

/-- A first byte is read with the number behind it, in as many bytes as its width bits say. -/
theorem scanHead_cons {major minor width : Nat} (kind : major < 8)
    (wide : widthOf minor = some width) {number : List UInt8} (exact : number.length = width)
    (rest : List UInt8) :
    scanHead (UInt8.ofNat (32 * major + minor) :: (number ++ rest)) =
      some (⟨major, minor, .given (if width = 0 then minor else BigEndian.decode number)⟩,
        rest) := by
  have small : minor < 28 := by
    unfold widthOf at wide
    split_ifs at wide <;> omega
  obtain ⟨quotient, remainder⟩ := firstByte_split kind (show minor < 32 by omega)
  have split := splitBytes_append number rest
  rw [exact] at split
  simp only [scanHead, quotient, remainder, if_neg (show minor ≠ 31 by omega), wide,
    Option.bind_eq_bind, Option.bind_some, split]
  rfl

theorem scanHead_open {major : Nat} (kind : major < 8) (rest : List UInt8) :
    scanHead (UInt8.ofNat (32 * major + 31) :: rest) = some (⟨major, 31, .open⟩, rest) := by
  obtain ⟨quotient, remainder⟩ := firstByte_split kind (show 31 < 32 by decide)
  simp only [scanHead, quotient, remainder, if_true]

/-- A number that fits a head is read back from it; its width bits do not matter. -/
theorem scanHead_head {major n : Nat} (kind : major < 8) (fits : n < UInt64.size)
    (rest : List UInt8) :
    ∃ minor, scanHead (head major n ++ rest) = some (⟨major, minor, .given n⟩, rest) := by
  have read (width minor : Nat) (wide : widthOf minor = some width) (nonempty : width ≠ 0)
      (small : n < Nat.pow 256 width) :
      scanHead (UInt8.ofNat (32 * major + minor) :: BigEndian.encode width n ++ rest) =
        some (⟨major, minor, .given n⟩, rest) := by
    have scanned := scanHead_cons kind wide (BigEndian.length_encode width n) rest
    rw [if_neg nonempty, BigEndian.decode_encode small] at scanned
    exact scanned
  unfold head
  split
  next tiny =>
    have alone : ([] : List UInt8).length = 0 := rfl
    exact ⟨n, scanHead_cons kind (if_pos tiny) alone rest⟩
  split
  next one => exact ⟨24, read 1 24 rfl (by decide) one⟩
  split
  next two => exact ⟨25, read 2 25 rfl (by decide) two⟩
  split
  next four => exact ⟨26, read 4 26 rfl (by decide) four⟩
  next => exact ⟨27, read 8 27 rfl (by decide) fits⟩

theorem head_length_pos (major n : Nat) : 0 < (head major n).length := by
  unfold head
  split_ifs <;> simp

theorem encodeString_length_pos (major : Nat) (definite : Bool) (content : List UInt8) :
    0 < (encodeString major definite content).length := by
  have headed := head_length_pos major content.length
  cases definite with
  | true =>
    simp only [encodeString, if_true, List.length_append]
    omega
  | false => simp [encodeString]

/-- A string in a single segment ends with the break behind it. -/
theorem scanSegments_single {major : Nat} (kind : major < 8) {check : List UInt8 → Bool}
    {content : List UInt8} (fits : content.length < UInt64.size) (passes : check content = true)
    (turns : Nat) (rest : List UInt8) :
    scanSegments major check (turns + 2) 1
      (head major content.length ++ (content ++ 0xFF :: rest)) = some (content, rest) := by
  obtain ⟨minor, scanned⟩ := scanHead_head kind fits (content ++ 0xFF :: rest)
  have ended : scanHead (0xFF :: rest) = some (⟨7, 31, .open⟩, rest) :=
    scanHead_open (show 7 < 8 by decide) rest
  have last : scanSegments major check (turns + 1) 1 (0xFF :: rest) = some ([], rest) := by
    simp [scanSegments, ended]
  rw [scanSegments, scanned]
  simp [splitBytes_append, passes, last]

theorem scanString_encodeString {major : Nat} (kind : major < 8) (definite : Bool)
    (check : List UInt8 → Bool) {content : List UInt8} (fits : content.length < UInt64.size)
    (passes : check content = true) (rest : List UInt8) :
    ∃ minor extent rest',
      scanHead (encodeString major definite content ++ rest) =
        some (⟨major, minor, extent⟩, rest') ∧
      scanString major check extent rest' = some (definite, content, rest) := by
  cases definite with
  | true =>
    obtain ⟨minor, scanned⟩ := scanHead_head kind fits (content ++ rest)
    refine ⟨minor, .given content.length, content ++ rest, ?_, ?_⟩
    · simpa [encodeString] using scanned
    · simp [scanString, splitBytes_append, passes]
  | false =>
    refine ⟨31, .open, head major content.length ++ (content ++ 0xFF :: rest), ?_, ?_⟩
    · rw [← scanHead_open kind]
      simp [encodeString]
    · have room : ∃ turns, (head major content.length ++ (content ++ 0xFF :: rest)).length + 1 =
          turns + 2 := ⟨_, by simp; rfl⟩
      obtain ⟨turns, room⟩ := room
      simp only [scanString, room, scanSegments_single kind fits passes]
      rfl

namespace Item

mutual

/-- Whether all lengths fit the heads they are written in, and floats have a width there is. -/
def Fits : Item → Prop
  | natural _ | negative _ | simple _ => True
  | bytes _ content => content.length < UInt64.size
  | text _ content => content.utf8ByteSize < UInt64.size
  | array items => items.length < UInt64.size ∧ AllFit items
  | map entries => entries.length < UInt64.size ∧ EntriesFit entries
  | tag _ item => item.Fits
  | float content => content.length = 2 ∨ content.length = 4 ∨ content.length = 8

def AllFit : List Item → Prop
  | [] => True
  | item :: rest => item.Fits ∧ AllFit rest

def EntriesFit : List (Item × Item) → Prop
  | [] => True
  | (key, value) :: rest => key.Fits ∧ value.Fits ∧ EntriesFit rest

end

theorem encode_length_pos (item : Item) : 0 < item.encode.length := by
  cases item with
  | natural n => exact head_length_pos 0 n.toNat
  | negative n => exact head_length_pos 1 n.toNat
  | bytes definite content => exact encodeString_length_pos 2 definite content
  | text definite content => exact encodeString_length_pos 3 definite (Text.Utf8.encode content)
  | array items =>
    have headed := head_length_pos 4 items.length
    simp only [encode, List.length_append]
    omega
  | map entries =>
    have headed := head_length_pos 5 entries.length
    simp only [encode, List.length_append]
    omega
  | tag number item =>
    have headed := head_length_pos 6 number.toNat
    simp only [encode, List.length_append]
    omega
  | simple code =>
    rw [encode]
    split <;> simp
  | float content => simp [encode]

/-- Keys and values in the order they are written. -/
def alternate : List (Item × Item) → List Item
  | [] => []
  | (key, value) :: rest => key :: value :: alternate rest

theorem pairUp_alternate (entries : List (Item × Item)) :
    pairUp (alternate entries) = some entries := by
  induction entries with
  | nil => rfl
  | cons entry rest ih => simp [alternate, pairUp, ih]

end Item

open Item

/-- What is complete in its head takes one turn. -/
theorem scanItem_of_plain {bs rest : List UInt8} {minor n : Nat}
    (scanned : scanHead bs = some (⟨7, minor, .given n⟩, rest)) (turns : Nat) :
    scanItem (turns + 1) bs = scanPlain ⟨7, minor, .given n⟩ rest := by
  simp [scanItem, scanned]

theorem scanItem_simple (code : UInt8) (turns : Nat) (rest : List UInt8) :
    scanItem (turns + 1) ((simple code).encode ++ rest) = some (simple code, rest) := by
  rw [Item.encode]
  split
  next small =>
    have below : code.toNat < 24 := UInt8.lt_iff_toNat_lt.mp small
    have alone : ([] : List UInt8).length = 0 := rfl
    have scanned := scanHead_cons (show 7 < 8 by decide) (if_pos below) alone rest
    rw [UInt8.ofNat_add, UInt8.ofNat_toNat] at scanned
    refine (scanItem_of_plain scanned turns).trans ?_
    simp [scanPlain, show code.toNat ≤ 24 by omega]
  next =>
    have scanned := scanHead_cons (show 7 < 8 by decide) (show widthOf 24 = some 1 from rfl)
      (show [code].length = 1 from rfl) rest
    refine (scanItem_of_plain scanned turns).trans ?_
    simp [scanPlain, BigEndian.decode]

theorem scanItem_float {content : List UInt8} (fits : (float content).Fits) (turns : Nat)
    (rest : List UInt8) :
    scanItem (turns + 1) ((float content).encode ++ rest) = some (float content, rest) := by
  have back := BigEndian.encode_decode content
  have scanned {minor width : Nat} (wide : widthOf minor = some width)
      (exact : content.length = width) :=
    scanItem_of_plain (scanHead_cons (show 7 < 8 by decide) wide exact rest) turns
  rcases fits with two | four | eight
  · rw [two] at back
    simpa [Item.encode, two, scanPlain, back] using
      scanned (show widthOf 25 = some 2 from rfl) two
  · rw [four] at back
    simpa [Item.encode, four, scanPlain, back] using
      scanned (show widthOf 26 = some 4 from rfl) four
  · rw [eight] at back
    simpa [Item.encode, eight, scanPlain, back] using
      scanned (show widthOf 27 = some 8 from rfl) eight

mutual

/-- Two turns for every byte suffice: an item spends one on itself, a list one on each of its items
and one on its end, and no item is without bytes. -/
theorem scanItem_encode (item : Item) (fits : item.Fits) {turns : Nat}
    (enough : 2 * item.encode.length ≤ turns) (rest : List UInt8) :
    scanItem turns (item.encode ++ rest) = some (item, rest) := by
  have nonempty := item.encode_length_pos
  obtain _ | turns := turns
  · omega
  cases item with
  | natural n =>
    obtain ⟨minor, scanned⟩ := scanHead_head (show 0 < 8 by decide) n.toNat_lt_size rest
    simp [scanItem, Item.encode, scanned, scanPlain]
  | negative n =>
    obtain ⟨minor, scanned⟩ := scanHead_head (show 1 < 8 by decide) n.toNat_lt_size rest
    simp [scanItem, Item.encode, scanned, scanPlain]
  | bytes definite content =>
    obtain ⟨minor, extent, rest', scanned, whole⟩ :=
      scanString_encodeString (show 2 < 8 by decide) definite (fun _ => true) fits rfl rest
    simp [scanItem, Item.encode, scanned, whole]
  | text definite content =>
    have utf8 : isUtf8 (Text.Utf8.encode content) = true := by
      simp [isUtf8, Text.Utf8.decode_encode]
    obtain ⟨minor, extent, rest', scanned, whole⟩ :=
      scanString_encodeString (show 3 < 8 by decide) definite isUtf8
        (show (Text.Utf8.encode content).length < UInt64.size from fits) utf8 rest
    simp [scanItem, Item.encode, scanned, whole, Text.Utf8.decode_encode]
  | array items =>
    obtain ⟨minor, scanned⟩ :=
      scanHead_head (show 4 < 8 by decide) fits.1 (encodeAll items ++ rest)
    have room : 2 * (encodeAll items).length + 1 ≤ turns := by
      have headed := head_length_pos 4 items.length
      simp only [Item.encode, List.length_append] at enough
      omega
    have inner := scanItems_encodeAll items fits.2 room rest
    simp [scanItem, Item.encode, scanned, inner]
  | map entries =>
    obtain ⟨minor, scanned⟩ :=
      scanHead_head (show 5 < 8 by decide) fits.1 (encodeEntries entries ++ rest)
    have room : 2 * (encodeEntries entries).length + 1 ≤ turns := by
      have headed := head_length_pos 5 entries.length
      simp only [Item.encode, List.length_append] at enough
      omega
    have inner := scanItems_encodeEntries entries fits.2 room rest
    simp [scanItem, Item.encode, scanned, inner, pairUp_alternate]
  | tag number item =>
    obtain ⟨minor, scanned⟩ :=
      scanHead_head (show 6 < 8 by decide) number.toNat_lt_size (item.encode ++ rest)
    have room : 2 * item.encode.length ≤ turns := by
      have headed := head_length_pos 6 number.toNat
      simp only [Item.encode, List.length_append] at enough
      omega
    have inner := scanItem_encode item fits room rest
    simp [scanItem, Item.encode, scanned, inner]
  | simple code => exact scanItem_simple code turns rest
  | float content => exact scanItem_float fits turns rest

theorem scanItems_encodeAll (items : List Item) (fits : AllFit items) {turns : Nat}
    (enough : 2 * (encodeAll items).length + 1 ≤ turns) (rest : List UInt8) :
    scanItems turns (.given items.length) (encodeAll items ++ rest) = some (items, rest) := by
  obtain _ | turns := turns
  · omega
  cases items with
  | nil => rfl
  | cons item items =>
    have nonempty := item.encode_length_pos
    simp only [encodeAll, List.length_append] at enough
    have first := scanItem_encode item fits.1 (show _ ≤ turns by omega) (encodeAll items ++ rest)
    have others := scanItems_encodeAll items fits.2 (show _ ≤ turns by omega) rest
    simp [scanItems, encodeAll, first, others]

theorem scanItems_encodeEntries (entries : List (Item × Item)) (fits : EntriesFit entries)
    {turns : Nat} (enough : 2 * (encodeEntries entries).length + 1 ≤ turns) (rest : List UInt8) :
    scanItems turns (.given (2 * entries.length)) (encodeEntries entries ++ rest) =
      some (alternate entries, rest) := by
  obtain _ | _ | turns := turns
  · omega
  · cases entries with
    | nil => rfl
    | cons entry entries =>
      have nonempty := entry.1.encode_length_pos
      simp only [encodeEntries, List.length_append] at enough
      omega
  cases entries with
  | nil => rfl
  | cons entry entries =>
    obtain ⟨key, value⟩ := entry
    have nonempty := key.encode_length_pos
    simp only [encodeEntries, List.length_append] at enough
    have first := scanItem_encode key fits.1 (show _ ≤ turns + 1 by omega)
      (value.encode ++ (encodeEntries entries ++ rest))
    have second := scanItem_encode value fits.2.1 (show _ ≤ turns by omega)
      (encodeEntries entries ++ rest)
    have others := scanItems_encodeEntries entries fits.2.2 (show _ ≤ turns by omega) rest
    simp [scanItems, encodeEntries, alternate, Nat.mul_succ, first, second, others]

end

/-- An item is read back from its bytes, whatever follows them. -/
theorem parse_encode (item : Item) (fits : item.Fits) (rest : List UInt8) :
    parse (item.encode ++ rest) = some item := by
  have enough : 2 * item.encode.length ≤ 2 * (item.encode ++ rest).length + 2 := by
    rw [List.length_append]
    omega
  rw [parse, scanItem_encode item fits enough rest]
  rfl

end Cbor

end KeyRenewal
