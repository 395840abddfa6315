import KeyRenewal.Envelope.Cbor
import KeyRenewal.Proofs.Cbor
import KeyRenewal.Proofs.Fields
import Mathlib.Data.String.Basic

/-!
# Reading back records

A record is read back from the item it is written as, field by field, and with the items from the
bytes. Lengths of texts and lists are only bounded by the heads they are written in, which hold any
length there is in memory.
-/

namespace KeyRenewal

namespace Cbor

theorem namedEntries_record {given : List (String × Item)}
    (short : ∀ f ∈ given, f.1.utf8ByteSize ≤ shortLimit) :
    namedEntries (given.map fun f => (.ofText f.1, f.2)) =
      some (given.map fun f => (some f.1, f.2)) := by
  induction given with
  | nil => rfl
  | cons f given ih =>
    have key : keyName (untag (.ofText f.1)) = some (some f.1) := by
      simp [Item.ofText, untag, keyName, short f List.mem_cons_self]
    have others := ih fun g there => short g (List.mem_cons_of_mem _ there)
    unfold namedEntries at others ⊢
    simp [key, others]

theorem field_record {given : List (String × Item)} (once : (given.map (·.1)).Nodup)
    (name : String) :
    field (given.map fun f => (some f.1, f.2)) name = some (given.lookup name) := by
  have matching : (given.map fun f => (some f.1, f.2)).filter (fun e => e.1 == some name) =
      ((given.lookup name).map fun item => (some name, item)).toList := by
    have own : (given.map fun f => (some f.1, f.2)).filter (fun e => e.1 == some name) =
        (given.filter (·.1 == name)).map fun f => (some f.1, f.2) := List.filter_map
    rw [own, filter_name_eq once]
    cases given.lookup name <;> rfl
  unfold field
  rw [matching]
  cases given.lookup name <;> rfl

/-- The fields of a record are found under their names; a name that is left out is found to be. -/
theorem fields_record {depth : Nat} (room : depth ≠ 0) {names : List String}
    {given : List (String × Item)} (distinct : names.Nodup)
    (short : ∀ name ∈ names, name.utf8ByteSize ≤ shortLimit)
    (known : (given.map (·.1)).Sublist names) :
    fields depth names (record given) = some (names.map (List.lookup · given)) := by
  have named : ∀ f ∈ given, f.1 ∈ names := fun f there =>
    known.subset (List.mem_map_of_mem there)
  have familiar : (given.map fun f => (some f.1, f.2)).filter
      (fun e => isStranger names e.1) = [] := by
    rw [List.filter_eq_nil_iff]
    intro e there
    obtain ⟨f, listed, rfl⟩ := List.mem_map.mp there
    simpa [isStranger] using named f listed
  have found : names.mapM (field (given.map fun f => (some f.1, f.2))) =
      some (names.map (List.lookup · given)) :=
    mapM_of_total (field_record (known.nodup distinct)) names
  have entries := namedEntries_record fun f there => short f.1 (named f there)
  simp only [record, fields, untag, room, if_false, entries, Option.bind_eq_bind,
    Option.bind_some, familiar, List.all_nil, if_true, found]

theorem asRound_ofRound (r : Round) : asRound (ofRound r) = some r := rfl

theorem asHex32_ofHex32 (b : Bytes32) : asHex32 (ofHex32 b) = some b := by
  simp [asHex32, ofHex32, Item.ofText, untag, Text.Hex.decode_encode, Bytes32.ofList?_bytes]

theorem asByte_ofByte (b : UInt8) : asByte (ofByte b) = some b := by
  have small : b.toNat < 256 := b.toNat_lt
  have word : (UInt64.ofNat b.toNat).toNat = b.toNat :=
    UInt64.toNat_ofNat_of_lt' (Nat.lt_trans small (by decide))
  have below : UInt64.ofNat b.toNat < 256 := by
    rw [UInt64.lt_iff_toNat_lt, word]
    exact small
  simp only [asByte, ofByte, asWord, Option.bind_eq_bind, Option.bind_some, below, if_true, word,
    UInt8.ofNat_toNat]

theorem asList_array {α : Type} {decode : Item → Option α} {encode : α → Item}
    (back : ∀ x, decode (encode x) = some x) (xs : List α) :
    asList decode (.array (xs.map encode)) = some xs :=
  mapM_map_eq_some back xs

theorem asBytes_ofBytes (bytes : List UInt8) : asBytes (ofBytes bytes) = some bytes :=
  asList_array asByte_ofByte bytes

end Cbor

open Cbor

theorem KeyRegistration.ofItem?_toItem (r : KeyRegistration) {depth : Nat} (room : depth ≠ 0) :
    ofItem? depth r.toItem = some r := by
  rw [ofItem?, toItem, fields_record room (by decide) (by decide) (by exact .refl _)]
  simp [List.lookup_cons, needed, asHex32_ofHex32, asRound_ofRound, asWord]

theorem StatusTransaction.ofItem?_toItem (t : StatusTransaction) {depth : Nat}
    (room : 2 ≤ depth) : ofItem? depth t.toItem = some t := by
  have inner : depth - 1 ≠ 0 := by omega
  obtain ⟨address, firstValid, lastValid, fee, registration⟩ := t
  rw [ofItem?, toItem]
  cases registration with
  | none =>
    rw [fields_record (by omega) (by decide) (by decide) (by simp)]
    simp [List.lookup_cons, needed, orElse, asRound_ofRound, asWord, asText, untag, Item.ofText]
  | some r =>
    have back := r.ofItem?_toItem inner
    have nullable : asNullable (KeyRegistration.ofItem? (depth - 1)) r.toItem = some (some r) := by
      rw [← Option.map_some, ← back]
      rfl
    rw [fields_record (by omega) (by decide) (by decide) (by exact .refl _)]
    simp [List.lookup_cons, needed, orElse, asRound_ofRound, asWord, asText, untag, Item.ofText,
      nullable]

theorem Subsignature.ofItem?_toItem (s : Subsignature) {depth : Nat} (room : depth ≠ 0) :
    ofItem? depth s.toItem = some s := by
  rw [ofItem?, toItem, fields_record room (by decide) (by decide) (by exact .refl _)]
  simp [List.lookup_cons, needed, orElse, asHex32_ofHex32, asBytes_ofBytes]

theorem MultisigTemplate.ofItem?_toItem (t : MultisigTemplate) {depth : Nat} (room : 3 ≤ depth) :
    ofItem? depth t.toItem = some t := by
  have slots := asList_array
    (fun s => Subsignature.ofItem?_toItem s (show depth - 2 ≠ 0 by omega)) t.subsignatures
  rw [ofItem?, toItem, fields_record (by omega) (by decide) (by decide) (by exact .refl _)]
  simp [List.lookup_cons, needed, asByte_ofByte, slots]

theorem Envelope.ofItem?_toItem (e : Envelope) {depth : Nat} (room : 4 ≤ depth) :
    ofItem? depth e.toItem = some e := by
  have transaction := e.transaction.ofItem?_toItem (show 2 ≤ depth - 1 by omega)
  obtain ⟨t, signature, multisig⟩ := e
  rw [ofItem?, toItem, fields_record (by omega) (by decide) (by decide) (by exact .refl _)]
  cases multisig with
  | none =>
    simp [List.lookup_cons, needed, orElse, asBytes_ofBytes, transaction, asNullable, Item.null]
  | some template =>
    have back := template.ofItem?_toItem (show 3 ≤ depth - 1 by omega)
    have nullable : asNullable (MultisigTemplate.ofItem? (depth - 1)) template.toItem =
        some (some template) := by
      rw [← Option.map_some, ← back]
      rfl
    simp [List.lookup_cons, needed, orElse, asBytes_ofBytes, transaction, nullable]

theorem Credential.ofItem?_toItem (c : Credential) {depth : Nat} (room : depth ≠ 0) :
    ofItem? depth c.toItem = some c := by
  rw [ofItem?, toItem, fields_record room (by decide) (by decide) (by exact .refl _)]
  simp [List.lookup_cons, needed, asHex32_ofHex32, asRound_ofRound, asWord, asText, untag,
    Item.ofText]

namespace Cbor

theorem Item.allFit_iff (items : List Item) : AllFit items ↔ ∀ item ∈ items, item.Fits := by
  induction items with
  | nil => simp [AllFit]
  | cons item rest ih => simp [AllFit, ih]

theorem record_fits {given : List (String × Item)} (few : given.length < UInt64.size)
    (names : ∀ f ∈ given, f.1.utf8ByteSize < UInt64.size) (values : ∀ f ∈ given, f.2.Fits) :
    (record given).Fits := by
  refine ⟨by simpa using few, ?_⟩
  clear few
  induction given with
  | nil => trivial
  | cons f given ih =>
    exact ⟨names f List.mem_cons_self, values f List.mem_cons_self,
      ih (fun g there => names g (List.mem_cons_of_mem _ there))
        fun g there => values g (List.mem_cons_of_mem _ there)⟩

theorem ofHex32_fits (b : Bytes32) : (ofHex32 b).Fits := by
  have digits (bytes : List UInt8) : (Text.Hex.encodeChars bytes).length = 2 * bytes.length := by
    induction bytes with
    | nil => rfl
    | cons b bytes ih =>
      simp only [Text.Hex.encodeChars, List.length_cons, ih]
      omega
  have narrow (cs : List Char) : String.utf8Len cs ≤ 4 * cs.length := by
    induction cs with
    | nil => simp
    | cons c cs ih =>
      have width := c.utf8Size_le_four
      simp only [String.utf8Len_cons, List.length_cons]
      omega
  have bound := narrow (Text.Hex.encodeChars b.bytes)
  rw [digits, b.length_bytes, ← String.utf8ByteSize_ofList] at bound
  exact Nat.lt_of_le_of_lt bound (by decide)

theorem ofBytes_fits {bytes : List UInt8} (short : bytes.length < UInt64.size) :
    (ofBytes bytes).Fits := by
  refine ⟨by simpa using short, (Item.allFit_iff _).mpr ?_⟩
  simp [ofByte, Item.Fits]

end Cbor

theorem KeyRegistration.toItem_fits (r : KeyRegistration) : r.toItem.Fits := by
  refine record_fits (show 5 < UInt64.size by decide) (by simp; decide) ?_
  simp [ofHex32_fits, ofRound, Item.Fits]

/-- The length of the address can be written in a head. -/
def StatusTransaction.Fits (t : StatusTransaction) : Prop :=
  t.address.text.utf8ByteSize < UInt64.size

theorem StatusTransaction.toItem_fits {t : StatusTransaction} (fits : t.Fits) :
    t.toItem.Fits := by
  obtain ⟨address, firstValid, lastValid, fee, registration⟩ := t
  have text : (Item.ofText address.text).Fits := fits
  cases registration with
  | none =>
    refine record_fits (show 4 < UInt64.size by decide) (by simp; decide) ?_
    simp [text, ofRound, Item.Fits]
  | some r =>
    refine record_fits (show 5 < UInt64.size by decide) (by simp; decide) ?_
    simp [text, ofRound, Item.Fits, r.toItem_fits]

def MultisigTemplate.Fits (t : MultisigTemplate) : Prop :=
  t.subsignatures.length < UInt64.size ∧
    ∀ slot ∈ t.subsignatures, slot.signature.length < UInt64.size

theorem Subsignature.toItem_fits {s : Subsignature} (short : s.signature.length < UInt64.size) :
    s.toItem.Fits := by
  refine record_fits (show 2 < UInt64.size by decide) (by simp; decide) ?_
  simp [ofHex32_fits, ofBytes_fits short]

theorem MultisigTemplate.toItem_fits {t : MultisigTemplate} (fits : t.Fits) : t.toItem.Fits := by
  have slots : (Item.array (t.subsignatures.map Subsignature.toItem)).Fits := by
    refine ⟨by simpa using fits.1, (Item.allFit_iff _).mpr ?_⟩
    intro item there
    obtain ⟨slot, listed, rfl⟩ := List.mem_map.mp there
    exact Subsignature.toItem_fits (fits.2 slot listed)
  refine record_fits (show 3 < UInt64.size by decide) (by simp; decide) ?_
  simp only [List.forall_mem_cons, List.not_mem_nil, IsEmpty.forall_iff, implies_true, and_true]
  exact ⟨trivial, trivial, slots⟩

/-- All lengths in the envelope can be written in heads. -/
structure Envelope.Fits (e : Envelope) : Prop where
  transaction : e.transaction.Fits
  signature : e.signature.length < UInt64.size
  multisig : ∀ template, e.multisig = some template → template.Fits

theorem Envelope.toItem_fits {e : Envelope} (fits : e.Fits) : e.toItem.Fits := by
  obtain ⟨t, signature, multisig⟩ := e
  have transaction := StatusTransaction.toItem_fits fits.transaction
  have bytes := ofBytes_fits fits.signature
  refine record_fits (show 3 < UInt64.size by decide) (by simp; decide) ?_
  cases multisig with
  | none => simp [transaction, bytes, Item.null, Item.Fits]
  | some template =>
    simp [transaction, bytes, MultisigTemplate.toItem_fits (fits.multisig template rfl)]

theorem Credential.toItem_fits {c : Credential} (fits : c.address.text.utf8ByteSize < UInt64.size) :
    c.toItem.Fits := by
  have text : (Item.ofText c.address.text).Fits := fits
  refine record_fits (show 6 < UInt64.size by decide) (by simp; decide) ?_
  simp [text, ofHex32_fits, ofRound, Item.Fits]

theorem Envelope.ofCbor?_toCbor {e : Envelope} (fits : e.Fits) (rest : List UInt8) :
    ofCbor? (e.toCbor ++ rest) = some e := by
  rw [ofCbor?, toCbor, parse_encode _ (toItem_fits fits), Option.bind_some,
    ofItem?_toItem e (by decide)]

theorem Envelope.eq_of_prefix {e e' : Envelope} (fits : e.Fits) (fits' : e'.Fits)
    (begins : e.toCbor <+: e'.toCbor) : e = e' := by
  obtain ⟨rest, whole⟩ := begins
  have back := ofCbor?_toCbor fits rest
  have back' := ofCbor?_toCbor fits' []
  rw [whole] at back
  rw [List.append_nil] at back'
  exact Option.some.inj (back.symm.trans back')

theorem StatusTransaction.read_toCbor {t : StatusTransaction} (fits : t.Fits) :
    (parse t.toCbor).bind (ofItem? depthLimit) = some t := by
  have back := parse_encode _ (toItem_fits fits) []
  rw [List.append_nil] at back
  rw [toCbor, back, Option.bind_some, ofItem?_toItem t (by decide)]

theorem StatusTransaction.toCbor_inj {t t' : StatusTransaction} (fits : t.Fits) (fits' : t'.Fits)
    (same : t.toCbor = t'.toCbor) : t = t' := by
  have back := read_toCbor fits
  rw [same, read_toCbor fits'] at back
  exact (Option.some.inj back).symm

/-- Nothing is lost in writing: an envelope is read back whatever follows its bytes, different
envelopes have different bytes, of which none begin another's, and so have the transactions that
identifiers are drawn from. -/
theorem codec_lossless :
    (∀ (e : Envelope) (rest : List UInt8), e.Fits → Envelope.ofCbor? (e.toCbor ++ rest) = some e) ∧
    (∀ e e' : Envelope, e.Fits → e'.Fits → e.toCbor = e'.toCbor → e = e') ∧
    (∀ e e' : Envelope, e.Fits → e'.Fits → e.toCbor <+: e'.toCbor → e = e') ∧
    ∀ t t' : StatusTransaction, t.Fits → t'.Fits → t.toCbor = t'.toCbor → t = t' :=
  ⟨fun _ rest fits => Envelope.ofCbor?_toCbor fits rest,
    fun _ _ fits fits' same => Envelope.eq_of_prefix fits fits' (same ▸ List.prefix_rfl),
    fun _ _ fits fits' begins => Envelope.eq_of_prefix fits fits' begins,
    fun _ _ fits fits' same => StatusTransaction.toCbor_inj fits fits' same⟩

/-- An envelope with a slot that is signed, followed by a stray byte. -/
theorem codec_lossless_of_signed_slot :
    let t : StatusTransaction := ⟨⟨"Ä"⟩, ⟨1000⟩, .last, 0, some default⟩
    let e : Envelope := ⟨t, [], some ⟨1, 2, [⟨.filled 7, [0, 255]⟩, ⟨.filled 9, []⟩]⟩⟩
    t.Fits ∧ e.Fits ∧ Envelope.ofCbor? (e.toCbor ++ [0xFF]) = some e ∧
      (e.toCbor = e.toCbor → e = e) ∧ (e.toCbor <+: e.toCbor → e = e) ∧
      (t.toCbor = t.toCbor → t = t) := by
  intro t e
  have fitsT : t.Fits := by unfold StatusTransaction.Fits; decide
  have fits : e.Fits := ⟨fitsT, by decide, by rintro _ ⟨⟩; exact ⟨by decide, by decide⟩⟩
  obtain ⟨back, same, begins, transactions⟩ := codec_lossless
  exact ⟨fitsT, fits, back e [0xFF] fits, same e e fits fits, begins e e fits fits,
    transactions t t fitsT fitsT⟩

end KeyRenewal
