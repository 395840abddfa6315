import KeyRenewal.Json.Ledger
import KeyRenewal.Json.Settings
import KeyRenewal.Proofs.Json

/-!
# Reading back records from JSON

Each record is read back field by field from the value it is written as, and with that value from
its compact text. Two different records are therefore never written alike.
-/

namespace KeyRenewal

namespace Json

variable {α : Type} {encode : α → Value} {decode : Value → Option α}

/-- Nothing is lost in a way of writing: the text is read back, and no two values share it. -/
def Lossless (encode : α → Value) (decode : Value → Option α) : Prop :=
  (∀ a, (parse (encode a).compact).bind decode = some a) ∧
    ∀ a b, (encode a).compact = (encode b).compact → a = b

/-- What is written can be read back from its value, and the value from its text. -/
structure Faithful (encode : α → Value) (decode : Value → Option α) : Prop where
  kept : ∀ a, (encode a).Kept
  back : ∀ a, decode (encode a) = some a

theorem Faithful.lossless (faithful : Faithful encode decode) : Lossless encode decode := by
  have read (a : α) : (parse (encode a).compact).bind decode = some a := by
    rw [parse_compact (faithful.kept a), Option.bind_some, faithful.back]
  refine ⟨read, fun a b same => Option.some.inj ?_⟩
  rw [← read a, same, read b]

theorem Value.allKept_iff (items : List Value) : AllKept items ↔ ∀ item ∈ items, item.Kept := by
  induction items with
  | nil => simp [AllKept]
  | cons item rest ih => simp [AllKept, ih]

theorem field_eq_lookup {given : List (String × Value)} (once : (given.map (·.1)).Nodup)
    (name : String) : field given name = some (given.lookup name) := by
  rw [field, filter_name_eq once]
  cases given.lookup name <;> rfl

/-- The fields of a record are found under their names; a name that is left out is found to be. -/
theorem fields_object (strangers : Strangers) {names : List String}
    {given : List (String × Value)} (distinct : names.Nodup)
    (known : (given.map (·.1)).Sublist names) :
    Value.fields strangers names (.object given) = some (names.map (List.lookup · given)) := by
  have named : ∀ name v, (name, v) ∈ given → name ∈ names := fun name v there =>
    known.subset (List.mem_map.mpr ⟨(name, v), there, rfl⟩)
  have found : names.mapM (field given) = some (names.map (List.lookup · given)) :=
    mapM_of_total (field_eq_lookup (known.nodup distinct)) names
  have familiar : ¬(strangers = .refused ∧ !(given.all fun m => names.contains m.1)) := by
    simpa using fun _ => named
  rw [Value.fields, if_neg familiar, found]

namespace Faithful

theorem word : Faithful ofWord64 asWord where
  kept _ := trivial
  back n := by
    simp [asWord, ofWord64, Value.natural?, n.toNat_lt_size]

theorem byte : Faithful ofByte asByte where
  kept _ := trivial
  back b := by
    simp [asByte, ofByte, Value.natural?, b.toNat_lt_size]

theorem round : Faithful ofRound asRound where
  kept _ := trivial
  back r := by
    rw [asRound, ofRound, word.back, Option.map_some]

theorem hex32 : Faithful ofHex32 asHex32 where
  kept _ := trivial
  back b := by
    simp [asHex32, ofHex32, Value.string?, Text.Hex.decode_encode, Bytes32.ofList?_bytes]

theorem address : Faithful (fun a : Address => .string a.text) asAddress where
  kept _ := trivial
  back _ := rfl

theorem path : Faithful (fun p : Path => .string p.text) asPath where
  kept _ := trivial
  back _ := rfl

theorem list (faithful : Faithful encode decode) :
    Faithful (fun xs => .array (xs.map encode)) (asList decode) where
  kept xs := by
    refine (Value.allKept_iff _).mpr fun item there => ?_
    obtain ⟨x, -, rfl⟩ := List.mem_map.mp there
    exact faithful.kept x
  back xs := mapM_map_eq_some faithful.back xs

theorem bytes : Faithful ofBytes asBytes := byte.list

theorem bytes32 : Faithful (fun b : Bytes32 => ofBytes b.bytes) asBytes32 where
  kept b := bytes.kept b.bytes
  back b := by
    rw [asBytes32, bytes.back, Option.bind_some, Bytes32.ofList?_bytes]

theorem nullable (faithful : Faithful encode decode) (present : ∀ a, encode a ≠ .null) :
    Faithful (ofNullable encode) (asNullable decode) where
  kept
    | none => trivial
    | some a => faithful.kept a
  back
    | none => rfl
    | some a => by
      rw [ofNullable, asNullable, faithful.back, Option.map_some]
      exact present a

theorem choice [DecidableEq α] {names : List (String × α)}
    (named : ∀ a, asChoice names (ofChoice names a) = some a) :
    Faithful (ofChoice names) (asChoice names) where
  kept a := by
    rw [ofChoice]
    cases names.find? (fun n => n.2 = a) <;> trivial
  back := named

end Faithful

theorem object_kept {given : List (String × Value)} (kept : ∀ m ∈ given, m.2.Kept) :
    (Value.object given).Kept := by
  induction given with
  | nil => trivial
  | cons m given ih =>
    exact ⟨kept m List.mem_cons_self, ih fun g there => kept g (List.mem_cons_of_mem _ there)⟩

end Json

open Json

theorem Credential.json_faithful : Faithful toJson ofJson? where
  kept c := by
    refine object_kept ?_
    simp [Value.Kept, Faithful.round.kept, Faithful.hex32.kept, Faithful.word.kept]
  back c := by
    rw [ofJson?, toJson, fields_object _ (by decide) (by exact .refl _)]
    simp [List.lookup_cons, needed, Faithful.address.back, Faithful.round.back,
      Faithful.hex32.back, Faithful.word.back]

theorem KeyRegistration.json_faithful : Faithful toJson ofJson? where
  kept r := by
    refine object_kept ?_
    simp [Faithful.round.kept, Faithful.hex32.kept, Faithful.word.kept]
  back r := by
    rw [ofJson?, toJson, fields_object _ (by decide) (by exact .refl _)]
    simp [List.lookup_cons, needed, Faithful.round.back, Faithful.hex32.back, Faithful.word.back]

theorem StatusTransaction.json_faithful : Faithful toJson ofJson? where
  kept t := by
    refine object_kept ?_
    cases t.registration <;>
      simp [Value.Kept, Faithful.round.kept, Faithful.word.kept,
        KeyRegistration.json_faithful.kept]
  back t := by
    obtain ⟨address, firstValid, lastValid, fee, registration⟩ := t
    rw [ofJson?, toJson]
    cases registration with
    | none =>
      rw [fields_object _ (by decide) (by simp)]
      simp [List.lookup_cons, needed, orElse, Faithful.address.back, Faithful.round.back,
        Faithful.word.back]
    | some r =>
      have given : asNullable KeyRegistration.ofJson? r.toJson = some (some r) :=
        (KeyRegistration.json_faithful.nullable nofun).back (some r)
      rw [fields_object _ (by decide) (by exact .refl _)]
      simp [List.lookup_cons, needed, orElse, Faithful.address.back, Faithful.round.back,
        Faithful.word.back, given]

theorem PendingStatus.json_faithful : Faithful toJson ofJson? where
  kept s := by
    refine object_kept ?_
    simp [Value.Kept, Faithful.round.kept]
  back s := by
    rw [ofJson?, toJson, fields_object _ (by decide) (by exact .refl _)]
    simp [List.lookup_cons, needed, orElse, Faithful.round.back, Value.string?]

theorem MultisigInfo.json_faithful : Faithful toJson ofJson? where
  kept info := by
    refine object_kept ?_
    simp [Faithful.byte.kept, Faithful.bytes32.list.kept]
  back info := by
    rw [ofJson?, toJson, fields_object _ (by decide) (by exact .refl _)]
    simp [List.lookup_cons, needed, Faithful.byte.back, Faithful.bytes32.list.back]

theorem Subsignature.json_faithful : Faithful toJson ofJson? where
  kept s := by
    refine object_kept ?_
    simp [Faithful.hex32.kept, Faithful.bytes.kept]
  back s := by
    rw [ofJson?, toJson, fields_object _ (by decide) (by exact .refl _)]
    simp [List.lookup_cons, needed, orElse, Faithful.hex32.back, Faithful.bytes.back]

theorem MultisigTemplate.json_faithful : Faithful toJson ofJson? where
  kept t := by
    refine object_kept ?_
    simp [Faithful.byte.kept, Subsignature.json_faithful.list.kept]
  back t := by
    rw [ofJson?, toJson, fields_object _ (by decide) (by exact .refl _)]
    simp [List.lookup_cons, needed, Faithful.byte.back, Subsignature.json_faithful.list.back]

theorem Envelope.json_faithful : Faithful toJson ofJson? where
  kept e := by
    refine object_kept ?_
    simp [StatusTransaction.json_faithful.kept, Faithful.bytes.kept,
      (MultisigTemplate.json_faithful.nullable nofun).kept]
  back e := by
    rw [ofJson?, toJson, fields_object _ (by decide) (by exact .refl _)]
    simp [List.lookup_cons, needed, orElse, StatusTransaction.json_faithful.back,
      Faithful.bytes.back, (MultisigTemplate.json_faithful.nullable nofun).back]

theorem ProtocolEntry.json_faithful : Faithful toJson ofJson? where
  kept e := by
    refine object_kept ?_
    simp [Value.Kept, Faithful.word.kept]
  back e := by
    rw [ofJson?, toJson, fields_object _ (by decide) (by exact .refl _)]
    simp [List.lookup_cons, needed, Value.string?, Faithful.word.back]

theorem WaitMode.json_faithful : Faithful (ofChoice names) (asChoice names) :=
  .choice fun mode => by cases mode <;> rfl

theorem LapsePolicy.json_faithful : Faithful (ofChoice names) (asChoice names) :=
  .choice fun policy => by cases policy <;> rfl

theorem LogFormat.json_faithful : Faithful (ofChoice names) (asChoice names) :=
  .choice fun format => by cases format <;> rfl

theorem LoggingConfig.json_faithful : Faithful toJson ofJson? where
  kept c := by
    refine object_kept ?_
    simp [Value.Kept, LogFormat.json_faithful.kept]
  back c := by
    rw [ofJson?, toJson, fields_object _ (by decide) (by exact .refl _)]
    simp [List.lookup_cons, orElse, Value.string?, Value.bool?, LogFormat.json_faithful.back]

theorem EngineConfig.json_faithful : Faithful toJson ofJson? where
  kept c := by
    refine object_kept ?_
    simp [Faithful.word.kept, WaitMode.json_faithful.kept, LapsePolicy.json_faithful.kept,
      LoggingConfig.json_faithful.kept, ProtocolEntry.json_faithful.list.kept]
  back c := by
    rw [ofJson?, toJson, fields_object _ (by decide) (by exact .refl _)]
    simp [List.lookup_cons, orElse, Faithful.word.back, WaitMode.json_faithful.back,
      LapsePolicy.json_faithful.back, LoggingConfig.json_faithful.back,
      ProtocolEntry.json_faithful.list.back]

/-- A phase with data is told by the only key there is. -/
theorem Phase.ofJson?_data (name : String) (members : List (String × Value)) :
    ofJson? (.object [(name, .object members)]) = ofData? name (.object members) := rfl

theorem Phase.json_faithful : Faithful toJson ofJson? where
  kept phase := by
    have data {name : String} {given : List (String × Value)} (kept : ∀ m ∈ given, m.2.Kept) :
        (Value.object [(name, .object given)]).Kept := ⟨object_kept kept, trivial⟩
    cases phase with
    | validated | exported => trivial
    | credentialGenerated | submitted | failed => exact data (by simp [Value.Kept])
    | confirmed => exact data (by simp [Value.Kept, Faithful.round.kept])
  back phase := by
    cases phase with
    | validated => rfl
    | exported => rfl
    | credentialGenerated handle =>
      rw [toJson, ofJson?_data, ofData?, fields_object _ (by decide) (by exact .refl _)]
      simp [List.lookup_cons, needed, Faithful.path.back]
    | submitted txId =>
      rw [toJson, ofJson?_data, ofData?, fields_object _ (by decide) (by exact .refl _)]
      simp [List.lookup_cons, needed, Value.string?]
    | confirmed txId round =>
      rw [toJson, ofJson?_data, ofData?, fields_object _ (by decide) (by exact .refl _)]
      simp [List.lookup_cons, needed, Value.string?, Faithful.round.back]
    | failed reason atPhase rolledBack =>
      rw [toJson, ofJson?_data, ofData?, fields_object _ (by decide) (by exact .refl _)]
      simp [List.lookup_cons, needed, Value.string?, Value.bool?]

/-- Records, settings and phases are read back from the text they are written as, and no two of a
kind are written alike. -/
theorem json_lossless :
    Lossless ofRound asRound ∧
    Lossless (fun a : Address => .string a.text) asAddress ∧
    Lossless (fun h : KeyHandle => .string h.text) asPath ∧
    Lossless Credential.toJson Credential.ofJson? ∧
    Lossless KeyRegistration.toJson KeyRegistration.ofJson? ∧
    Lossless StatusTransaction.toJson StatusTransaction.ofJson? ∧
    Lossless PendingStatus.toJson PendingStatus.ofJson? ∧
    Lossless MultisigInfo.toJson MultisigInfo.ofJson? ∧
    Lossless Envelope.toJson Envelope.ofJson? ∧
    Lossless Phase.toJson Phase.ofJson? ∧
    Lossless EngineConfig.toJson EngineConfig.ofJson? :=
  ⟨Faithful.round.lossless, Faithful.address.lossless, Faithful.path.lossless,
    Credential.json_faithful.lossless, KeyRegistration.json_faithful.lossless,
    StatusTransaction.json_faithful.lossless, PendingStatus.json_faithful.lossless,
    MultisigInfo.json_faithful.lossless, Envelope.json_faithful.lossless,
    Phase.json_faithful.lossless, EngineConfig.json_faithful.lossless⟩

end KeyRenewal
