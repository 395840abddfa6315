import KeyRenewal.Protocol
import KeyRenewal.Proofs.OrderedMap
import Mathlib.Data.Finset.Card
import Mathlib.Data.List.Induction

/-!
# What a registry knows

Entries that are read make up a registry just if each of them has a lifetime and no version comes
twice; otherwise the first one that does not fit is reported. What is put in by hand afterwards is
never refused, and of each version the last word counts.
-/

namespace KeyRenewal

instance : Std.LawfulEqOrd ConsensusVersion where
  compare_self := Std.ReflCmp.compare_self
  eq_of_compare {a b} same := by
    have texts : a.text = b.text :=
      Std.LawfulEqOrd.eq_of_compare (show compare a.text b.text = .eq from same)
    cases a
    cases b
    cases texts
    rfl

namespace ProtocolRegistry

variable {registry registry' : ProtocolRegistry} {entry : ProtocolEntry}
  {before entries later : List ProtocolEntry} {version : ConsensusVersion} {text : String}

/-- The versions that are known. -/
def versions (registry : ProtocolRegistry) : List String := registry.parameters.keys.map (·.text)

theorem text_injective : Function.Injective ConsensusVersion.text := by
  rintro ⟨text⟩ ⟨_⟩ rfl
  rfl

theorem mem_versions_iff : text ∈ registry.versions ↔ ⟨text⟩ ∈ registry.parameters.keys :=
  List.mem_map_of_injective text_injective

theorem contains_iff : registry.parameters.contains ⟨text⟩ = true ↔ text ∈ registry.versions :=
  OrderedMap.contains_iff_mem_keys.trans mem_versions_iff.symm

theorem mem_versions_add :
    text ∈ (registry.add entry).versions ↔ text = entry.version ∨ text ∈ registry.versions := by
  rw [mem_versions_iff, mem_versions_iff, add, OrderedMap.mem_keys_insert]
  simp

theorem mem_versions_foldl :
    text ∈ (later.foldl add registry).versions ↔
      text ∈ registry.versions ∨ text ∈ later.map (·.version) := by
  induction later generalizing registry with
  | nil => simp
  | cons entry rest ih =>
    rw [List.foldl_cons, ih, mem_versions_add, List.map_cons, List.mem_cons]
    tauto

theorem size_eq_card (registry : ProtocolRegistry) :
    registry.size = registry.versions.toFinset.card := by
  have distinct : registry.versions.Nodup := (OrderedMap.nodup_keys _).map text_injective
  rw [List.toFinset_card_of_nodup distinct]
  simp [versions, size, OrderedMap.size, OrderedMap.keys]

theorem lookup_add_self :
    (registry.add entry).lookup ⟨entry.version⟩ = .ok ⟨⟨entry.version⟩, entry.maxTxnLife⟩ := by
  simp [lookup, add, OrderedMap.find?_insert_self]

theorem lookup_add_of_ne (other : entry.version ≠ version.text) :
    (registry.add entry).lookup version = registry.lookup version := by
  have apart : version ≠ ⟨entry.version⟩ := by
    rintro rfl
    exact other rfl
  simp [lookup, add, OrderedMap.find?_insert_of_ne apart]

/-- Of entries put in one after another, the last of a version counts. -/
theorem lookup_foldl_add (later : List ProtocolEntry) (registry : ProtocolRegistry)
    (version : ConsensusVersion) :
    (later.foldl add registry).lookup version =
      (later.reverse.find? (·.version = version.text)).elim (registry.lookup version)
        fun entry => .ok ⟨version, entry.maxTxnLife⟩ := by
  induction later generalizing registry with
  | nil => rfl
  | cons entry rest ih =>
    rw [List.foldl_cons, ih, List.reverse_cons, List.find?_append]
    cases rest.reverse.find? (·.version = version.text) with
    | some later => rfl
    | none =>
      by_cases mine : entry.version = version.text
      · obtain ⟨text⟩ := version
        subst mine
        simp [lookup_add_self]
      · simp [mine, lookup_add_of_ne mine]

/-- No entry has a lifetime of zero, and no version is given twice. -/
structure Consistent (entries : List ProtocolEntry) : Prop where
  lasting : ∀ entry ∈ entries, entry.maxTxnLife ≠ 0
  distinct : (entries.map (·.version)).Nodup

/-- What is wrong with an entry that comes after others. Of two faults the lifetime is reported. -/
inductive Offends (before : List ProtocolEntry) (entry : ProtocolEntry) : ConfigError → Prop
  | zeroLifetime (zero : entry.maxTxnLife = 0) :
    Offends before entry (.zeroLifetime entry.version)
  | repeatedVersion (lasting : entry.maxTxnLife ≠ 0)
    (repeated : entry.version ∈ before.map (·.version)) :
    Offends before entry (.repeatedVersion entry.version)

theorem consistent_nil : Consistent [] :=
  ⟨List.forall_mem_nil _, List.nodup_nil⟩

theorem consistent_concat_iff :
    Consistent (before ++ [entry]) ↔
      Consistent before ∧ entry.maxTxnLife ≠ 0 ∧ entry.version ∉ before.map (·.version) := by
  constructor
  · rintro ⟨lasting, distinct⟩
    rw [List.map_append, List.map_singleton, List.nodup_append_comm, List.singleton_append,
      List.nodup_cons] at distinct
    refine ⟨⟨fun e there => lasting e (List.mem_append_left _ there), distinct.2⟩, ?_, distinct.1⟩
    exact lasting entry (List.mem_append_right _ List.mem_cons_self)
  · rintro ⟨⟨lasting, distinct⟩, last, fresh⟩
    refine ⟨fun e there => ?_, ?_⟩
    · rcases List.mem_append.mp there with earlier | latest
      · exact lasting e earlier
      · exact List.mem_singleton.mp latest ▸ last
    · rw [List.map_append, List.map_singleton, List.nodup_append_comm, List.singleton_append]
      exact List.nodup_cons.mpr ⟨fresh, distinct⟩

/-- Every list is consistent, or has a first entry that is not so with those before it. -/
theorem consistent_or_offends (entries : List ProtocolEntry) :
    Consistent entries ∨ ∃ before entry after error, entries = before ++ entry :: after ∧
      Consistent before ∧ Offends before entry error := by
  induction entries using List.reverseRecOn with
  | nil => exact Or.inl consistent_nil
  | append_singleton before last ih =>
    rcases ih with consistent | ⟨start, entry, after, error, rfl, consistent, offends⟩
    · by_cases zero : last.maxTxnLife = 0
      · exact Or.inr ⟨before, last, [], _, rfl, consistent, .zeroLifetime zero⟩
      by_cases repeated : last.version ∈ before.map (·.version)
      · exact Or.inr ⟨before, last, [], _, rfl, consistent, .repeatedVersion zero repeated⟩
      · exact Or.inl (consistent_concat_iff.mpr ⟨consistent, zero, repeated⟩)
    · exact Or.inr ⟨start, entry, after ++ [last], error, by simp, consistent, offends⟩

theorem addEntries_append (before after : List ProtocolEntry) (registry : ProtocolRegistry) :
    registry.addEntries (before ++ after) =
      registry.addEntries before >>= fun registry => registry.addEntries after := by
  induction before generalizing registry with
  | nil => rfl
  | cons entry rest ih =>
    simp only [List.cons_append, addEntries, ih, bind_assoc]

/-- One more entry, where those before it have all been put in. -/
theorem addEntry_foldl (before : List ProtocolEntry) (entry : ProtocolEntry) :
    (before.foldl add empty).addEntry entry =
      if entry.maxTxnLife = 0 then .error (.zeroLifetime entry.version)
      else if entry.version ∈ before.map (·.version) then .error (.repeatedVersion entry.version)
      else .ok ((before ++ [entry]).foldl add empty) := by
  have known : entry.version ∈ (before.foldl add empty).versions ↔
      entry.version ∈ before.map (·.version) := by
    rw [mem_versions_foldl]
    exact or_iff_right List.not_mem_nil
  simp only [addEntry, contains_iff, known, List.foldl_append, List.foldl_cons, List.foldl_nil]

theorem ofEntries_of_consistent (consistent : Consistent entries) :
    ofEntries entries = .ok (entries.foldl add empty) := by
  induction entries using List.reverseRecOn with
  | nil => rfl
  | append_singleton before entry ih =>
    obtain ⟨consistent, lasting, fresh⟩ := consistent_concat_iff.mp consistent
    have read : empty.addEntries before = .ok (before.foldl add empty) := ih consistent
    have last := addEntry_foldl before entry
    rw [if_neg lasting, if_neg fresh] at last
    rw [ofEntries, addEntries_append, read]
    show ((before.foldl add empty).addEntry entry >>= fun registry => .ok registry) = _
    rw [last]
    rfl

/-- The first entry that offends is reported, whatever follows. -/
theorem ofEntries_of_offends {error : ConfigError} (consistent : Consistent before)
    (offends : Offends before entry error) (after : List ProtocolEntry) :
    ofEntries (before ++ entry :: after) = .error error := by
  have read : empty.addEntries before = .ok (before.foldl add empty) :=
    ofEntries_of_consistent consistent
  have refused : (before.foldl add empty).addEntry entry = .error error := by
    rw [addEntry_foldl]
    cases offends with
    | zeroLifetime zero => rw [if_pos zero]
    | repeatedVersion lasting repeated => rw [if_neg lasting, if_pos repeated]
  rw [ofEntries, addEntries_append, read]
  show ((before.foldl add empty).addEntry entry >>= fun registry => registry.addEntries after) = _
  rw [refused]
  rfl

theorem ofEntries_ok_iff :
    ofEntries entries = .ok registry ↔ Consistent entries ∧ registry = entries.foldl add empty := by
  constructor
  · intro read
    rcases consistent_or_offends entries with
      consistent | ⟨before, entry, after, error, rfl, consistent, offends⟩
    · rw [ofEntries_of_consistent consistent] at read
      cases read
      exact ⟨consistent, rfl⟩
    · rw [ofEntries_of_offends consistent offends] at read
      cases read
  · rintro ⟨consistent, rfl⟩
    exact ofEntries_of_consistent consistent

theorem ofEntries_error_iff {error : ConfigError} :
    ofEntries entries = .error error ↔ ∃ before entry after, entries = before ++ entry :: after ∧
      Consistent before ∧ Offends before entry error := by
  constructor
  · intro refused
    rcases consistent_or_offends entries with
      consistent | ⟨before, entry, after, error', rfl, consistent, offends⟩
    · rw [ofEntries_of_consistent consistent] at refused
      cases refused
    · rw [ofEntries_of_offends consistent offends] at refused
      cases refused
      exact ⟨before, entry, after, rfl, consistent, offends⟩
  · rintro ⟨before, entry, after, rfl, consistent, offends⟩
    exact ofEntries_of_offends consistent offends after

/-- Where no version is given twice, it does not matter from which end an entry is looked for. -/
theorem Consistent.find?_reverse (consistent : Consistent entries) (text : String) :
    entries.reverse.find? (·.version = text) = entries.find? (·.version = text) := by
  have distinct := consistent.distinct
  clear consistent
  induction entries with
  | nil => rfl
  | cons entry rest ih =>
    obtain ⟨fresh, distinct⟩ := List.nodup_cons.mp distinct
    rw [List.reverse_cons, List.find?_append, ih distinct, List.find?_cons]
    by_cases mine : entry.version = text
    · subst mine
      have others : rest.find? (·.version = entry.version) = none := by
        simpa using fresh
      simp [others]
    · simp [mine]

theorem Consistent.find?_eq_some (consistent : Consistent entries) (there : entry ∈ entries)
    (mine : entry.version = text) : entries.find? (·.version = text) = some entry := by
  have found : (entries.find? (·.version = text)).isSome :=
    List.find?_isSome.mpr ⟨entry, there, by simpa using mine⟩
  obtain ⟨entry', first⟩ := Option.isSome_iff_exists.mp found
  have same : entry'.version = text := by simpa using List.find?_some first
  rw [first, List.inj_on_of_nodup_map consistent.distinct (List.mem_of_find?_eq_some first) there
    (same.trans mine.symm)]

theorem Consistent.lookup (consistent : Consistent entries) (version : ConsensusVersion) :
    (entries.foldl add empty).lookup version =
      (entries.find? (·.version = version.text)).elim (.error (.unknownProtocol version))
        fun entry => .ok ⟨version, entry.maxTxnLife⟩ := by
  rw [lookup_foldl_add, consistent.find?_reverse]
  rfl

/-- Entries are read just if they are consistent, and otherwise the first that offends is named. In
what is read and then added to, a version has the lifetime it was last given by hand, or else the
one it was read with, or else is unknown, and each version counts once. -/
theorem registry_exact (entries : List ProtocolEntry) :
    ((∃ registry, ofEntries entries = .ok registry) ↔ Consistent entries) ∧
    (∀ error, ofEntries entries = .error error ↔ ∃ before entry after,
      entries = before ++ entry :: after ∧ Consistent before ∧ Offends before entry error) ∧
    (∀ before entry error, Offends before entry error → error.message =
      if entry.maxTxnLife = 0 then s!"protocol {entry.version} must have a non-zero max_txn_life"
      else s!"protocol {entry.version} is configured more than once") ∧
    ∀ registry, ofEntries entries = .ok registry → ∀ later : List ProtocolEntry,
      (∀ version, (later.foldl add registry).lookup version =
        ((later.reverse.find? (·.version = version.text)).or
          (entries.find? (·.version = version.text))).elim (.error (.unknownProtocol version))
            fun entry => .ok ⟨version, entry.maxTxnLife⟩) ∧
      (later.foldl add registry).size = ((entries ++ later).map (·.version)).toFinset.card := by
  refine ⟨?_, fun error => ofEntries_error_iff, ?_, ?_⟩
  · constructor
    · rintro ⟨registry, read⟩
      exact (ofEntries_ok_iff.mp read).1
    · exact fun consistent => ⟨_, ofEntries_of_consistent consistent⟩
  · intro before entry error offends
    cases offends with
    | zeroLifetime zero => rw [if_pos zero]; rfl
    | repeatedVersion lasting => rw [if_neg lasting]; rfl
  · intro registry read later
    obtain ⟨consistent, rfl⟩ := ofEntries_ok_iff.mp read
    constructor
    · intro version
      rw [lookup_foldl_add, consistent.lookup]
      cases later.reverse.find? (·.version = version.text) <;> rfl
    · rw [size_eq_card]
      congr 1
      ext text
      rw [List.mem_toFinset, List.mem_toFinset, ← List.foldl_append, mem_versions_foldl]
      exact or_iff_right List.not_mem_nil

/-- The third of four entries both has no lifetime and repeats a version. Without it and what
follows a registry is read, in which one of two versions is then given another lifetime. -/
theorem registry_exact_of_repeated :
    let first : List ProtocolEntry := [⟨"v1", 1000⟩, ⟨"v2", 500⟩]
    let registry := (empty.add ⟨"v1", 1000⟩).add ⟨"v2", 500⟩
    Offends first ⟨"v1", 0⟩ (.zeroLifetime "v1") ∧
    ofEntries (first ++ [⟨"v1", 0⟩, ⟨"v2", 7⟩]) = .error (.zeroLifetime "v1") ∧
    ofEntries first = .ok registry ∧
    (registry.add ⟨"v1", 0⟩).lookup ⟨"v1"⟩ = .ok ⟨⟨"v1"⟩, 0⟩ ∧
    (registry.add ⟨"v1", 0⟩).size = 2 := by
  intro first registry
  have consistent : Consistent first := ⟨by decide, by decide⟩
  have offends : Offends first ⟨"v1", 0⟩ (.zeroLifetime "v1") := .zeroLifetime rfl
  obtain ⟨-, refused, -, -⟩ := registry_exact (first ++ [⟨"v1", 0⟩, ⟨"v2", 7⟩])
  have read : ofEntries first = .ok registry := by decide +kernel
  obtain ⟨-, -, -, known⟩ := registry_exact first
  obtain ⟨lookup, size⟩ := known registry read [⟨"v1", 0⟩]
  refine ⟨offends, ?_, read, ?_, ?_⟩
  · exact (refused _).mpr ⟨first, ⟨"v1", 0⟩, [⟨"v2", 7⟩], rfl, consistent, offends⟩
  · exact lookup ⟨"v1"⟩
  · exact size

end ProtocolRegistry

end KeyRenewal
