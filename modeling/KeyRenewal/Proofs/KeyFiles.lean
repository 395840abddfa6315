import KeyRenewal.Proofs.Bench
import KeyRenewal.Proofs.Disks
import KeyRenewal.Proofs.Records

/-!
# Keys in a folder

A key file is read back as it was written. What a folder answers and leaves when it generates, lists
or deletes is read off the nodes of its directory: a key file of a plain name is made exactly where
there is none, and a folder of nothing but key files lists each under the path of its name.
-/

namespace KeyRenewal

open Cbor

namespace KeyFile

instance : Inhabited KeyFile := ⟨⟨default, default, default⟩⟩

theorem ofItem?_toItem (f : KeyFile) {depth : Nat} (room : 2 ≤ depth) :
    ofItem? depth f.toItem = some f := by
  have credential := f.credential.ofItem?_toItem (show depth - 1 ≠ 0 by omega)
  obtain ⟨c, voteSecret, selectionSecret⟩ := f
  rw [ofItem?, toItem, fields_record (by omega) (by decide) (by decide) (by exact .refl _)]
  simp [List.lookup_cons, needed, asHex32_ofHex32, credential]

theorem toItem_fits {f : KeyFile}
    (fits : f.credential.address.text.utf8ByteSize < UInt64.size) : f.toItem.Fits := by
  refine record_fits (show 3 < UInt64.size by decide) (by simp; decide) ?_
  simp [ofHex32_fits, Credential.toItem_fits fits]

/-- A key file is read back as it was written. -/
theorem ofCbor?_toCbor {f : KeyFile}
    (fits : f.credential.address.text.utf8ByteSize < UInt64.size) :
    ofCbor? f.toCbor = some f := by
  have back := parse_encode _ (toItem_fits fits) []
  rw [List.append_nil] at back
  rw [ofCbor?, toCbor, back, Option.bind_some, ofItem?_toItem f (by decide)]

end KeyFile

/-- The address is part of the file name. -/
theorem Credential.size_address_le (address : Address) (first last : Round) :
    address.text.utf8ByteSize ≤ (fileNameOf address first last).utf8ByteSize := by
  simp [fileNameOf, toString, String.utf8ByteSize_append]
  omega

/-- The same key but for its two verifiers. -/
structure Credential.SameKey (c c' : Credential) : Prop where
  address : c.address = c'.address
  firstValid : c.firstValid = c'.firstValid
  lastValid : c.lastValid = c'.lastValid
  keyDilution : c.keyDilution = c'.keyDilution

theorem Credential.SameKey.fileName {c c' : Credential} (same : c.SameKey c') :
    c.fileName = c'.fileName := by
  rw [Credential.fileName, Credential.fileName, same.address, same.firstValid, same.lastValid]

/-- The refusal of a key whose handle is taken. -/
def ServiceError.alreadyExists (handle : KeyHandle) : ServiceError :=
  .rejected s!"key file already exists: {handle}"

namespace KeyFolder

variable {folder : KeyFolder} {m : Machine} {place : Place} {name : String}

open FileTree

/-- The credential a file is read as, if it is a key file. -/
def credentialAt? (files : FileTree) (path : Path) : Option Credential :=
  match files.read path with
  | .ok (bytes, _) => (KeyFile.ofCbor? bytes).map (·.credential)
  | .error _ => none

/-- What the folder lists for a path. -/
def entryAt? (files : FileTree) (path : Path) : Option (KeyHandle × Credential) :=
  (credentialAt? files path).map (path, ·)

/-- A key file of a name lies in the folder and can be read. -/
structure HoldsKey (folder : KeyFolder) (files : FileTree) (place : Place) (name : String)
    (c : Credential) : Prop where
  marked : Path.extensionOf name = some Credential.fileExtension
  fits : FitsIn folder.root name
  readable : ∃ f bytes mode, files.node? (place ++ [name]) = some (.file bytes mode) ∧
    ownerReads mode = true ∧ KeyFile.ofCbor? bytes = some f ∧ f.credential = c

/-- A file is read as a credential, or else the reading fails. -/
theorem effect_readKey (path : Path) (m : Machine) :
    ∃ answer, (readKey path).effect m = (.ofExcept answer, m) ∧
      answer.toOption = credentialAt? m.files path := by
  simp only [readKey, credentialAt?, Action.effect_bind, Machine.effect_inspect]
  cases m.files.read path with
  | error kind => exact ⟨.error (.io (.ofKind kind)), rfl, rfl⟩
  | ok found =>
    simp only [Outcome.ofExcept_ok, Outcome.mapError_ok, Outcome.chain_ok]
    cases KeyFile.ofCbor? found.1 with
    | none => exact ⟨.error (.serialization "not a key file"), rfl, rfl⟩
    | some f => exact ⟨.ok f.credential, rfl, rfl⟩

/-- In a directory a name is read as a credential if it is that of a file that can be read. -/
theorem credentialAt?_join (leads : m.files.LeadsTo folder.root place) (single : SingleName name)
    {c : Credential} :
    credentialAt? m.files (folder.root.join ⟨name⟩) = some c ↔ FitsIn folder.root name ∧
      ∃ f bytes mode, m.files.node? (place ++ [name]) = some (.file bytes mode) ∧
        ownerReads mode = true ∧ KeyFile.ofCbor? bytes = some f ∧ f.credential = c := by
  unfold credentialAt?
  constructor
  · intro known
    cases found : m.files.read (folder.root.join ⟨name⟩) with
    | error kind =>
      rw [found] at known
      cases known
    | ok file =>
      rw [found] at known
      obtain ⟨f, parsed, same⟩ := Option.map_eq_some_iff.mp known
      obtain ⟨fits, filed, reads⟩ := (read_join_iff leads single).mp found
      exact ⟨fits, f, _, _, filed, reads, parsed, same⟩
  · rintro ⟨fits, f, bytes, mode, filed, reads, parsed, rfl⟩
    simp [(read_join_iff leads single).mpr ⟨fits, filed, reads⟩, parsed]

/-- Files in the order of their paths are collected in that order; what is no key file is passed
over. -/
theorem effect_collect {paths : List Path} {keys : Keyring}
    (sorted : (keys.keys ++ paths).Pairwise (compare · · = .lt)) :
    ∃ all, (collect keys paths).effect m = (.ok all, m) ∧
      all.toList = keys.toList ++ paths.filterMap (entryAt? m.files) := by
  induction paths generalizing keys with
  | nil => exact ⟨keys, rfl, (List.append_nil _).symm⟩
  | cons path paths ih =>
    obtain ⟨answer, read, known⟩ := effect_readKey path m
    simp only [collect, Action.effect_bind, Action.effect_attempt, read]
    cases answer with
    | error e =>
      have passed : entryAt? m.files path = none := by rw [entryAt?, ← known]; rfl
      have later := sorted.sublist ((List.Sublist.refl _).append (List.sublist_cons_self path paths))
      rw [List.filterMap_cons_none passed]
      simpa using ih later
    | ok c =>
      have kept : entryAt? m.files path = some (path, c) := by rw [entryAt?, ← known]; rfl
      have below : ∀ e ∈ keys.toList, compare path e.1 = .gt := fun e there =>
        Std.OrientedCmp.gt_iff_lt.mpr ((List.pairwise_append.mp sorted).2.2 e.1
          (List.mem_map_of_mem there) path List.mem_cons_self)
      have added : (keys.insert path c).toList = keys.toList ++ [(path, c)] := by
        have placed : OrderedMap.place path c (keys.toList ++ []) = keys.toList ++ [(path, c)] :=
          OrderedMap.place_append below (by simp) c
        rwa [List.append_nil] at placed
      have later : ((keys.insert path c).keys ++ paths).Pairwise (compare · · = .lt) := by
        have listed : (keys.insert path c).keys = keys.keys ++ [path] := by
          show (keys.insert path c).toList.map (·.1) = keys.toList.map (·.1) ++ [path]
          rw [added, List.map_append]
          rfl
        rwa [listed, List.append_assoc]
      obtain ⟨all, collected, listed⟩ := ih later
      exact ⟨all, by simpa using collected,
        by rw [listed, added, List.append_assoc, List.filterMap_cons_some kept]; rfl⟩

theorem keyFiles_eq {names : List String} (single : ∀ name ∈ names, SingleName name) :
    folder.keyFiles names =
      (names.filter fun name => Path.extensionOf name == some Credential.fileExtension).map
        (folder.root.join ⟨·⟩) := by
  rw [keyFiles, List.filter_map]
  congr 1
  refine List.filter_congr fun name there => ?_
  simp [Path.extension?, Path.fileName?_join (single name there)]

/-- A folder lists the keys of its key files in the order of their names. -/
theorem effect_list (leads : m.files.LeadsTo folder.root place)
    (single : ∀ name ∈ m.files.namesIn place, SingleName name) :
    ∃ keys, folder.list.effect m = (.ok keys, m) ∧ keys.toList =
      (folder.keyFiles (m.files.namesIn place)).filterMap (entryAt? m.files) := by
  have sorted : ((OrderedMap.empty : Keyring).keys ++
      folder.keyFiles (m.files.namesIn place)).Pairwise (compare · · = .lt) := by
    show (folder.keyFiles (m.files.namesIn place)).Pairwise (compare · · = .lt)
    rw [keyFiles_eq single, List.pairwise_map]
    refine ((m.files.namesIn_sorted place).sublist List.filter_sublist).imp_of_mem ?_
    intro name name' there there' below
    rwa [Path.compare_join (single name (List.mem_of_mem_filter there))
      (single name' (List.mem_of_mem_filter there'))]
  obtain ⟨keys, collected, listed⟩ := effect_collect sorted
  refine ⟨keys, ?_, listed⟩
  simp only [list, Action.effect_bind, Machine.effect_inspect, leads.readDirectory,
    Outcome.ofExcept_ok, Outcome.mapError_ok, Outcome.chain_ok]
  exact collected

/-- A new file is written whole. One that cannot be is removed, so that only a disk which fails at
that as well is left with a part of it. -/
theorem effect_writeNew (path : Path) (bytes : List UInt8) (m : Machine) :
    (writeNew path bytes).effect m =
      match m.files.createFile path Machine.ownerOnly with
      | .error kind => (.error (notOpened path kind), m)
      | .ok (target, files) =>
        match m.disk.write m.disk.turns with
        | none => (.ok (), { m with files := files.fill target bytes, disk := m.disk.next })
        | some (kept, kind) =>
          match m.disk.removal m.disk.next.turns with
          | none => (.error (.io (.ofKind kind)), { m with disk := m.disk.next.next })
          | some _ => (.error (.io (.ofKind kind)), { m with
              files := files.fill target (bytes.take kept)
              disk := m.disk.next.next }) := by
  simp only [writeNew, Action.effect_bind, Action.effect_mapError, Machine.effect_openFile]
  cases made : m.files.createFile path Machine.ownerOnly with
  | error kind => rfl
  | ok opened =>
    obtain ⟨target, files⟩ := opened
    simp only [Outcome.mapError_ok, Outcome.chain_ok, Action.effect_attempt, Machine.effect_fill]
    cases m.disk.write m.disk.turns with
    | none => rfl
    | some failure =>
      obtain ⟨kept, kind⟩ := failure
      simp only [Outcome.attempt_error, Outcome.chain_ok, Action.effect_bind,
        Action.effect_attempt, Machine.effect_remove, (removeFile_made made _).1,
        Disk.removal_next]
      cases m.disk.removal m.disk.next.turns with
      | none => rfl
      | some kind' => rfl

/-- In a directory on a disk that does not fail, a file is written where there is nothing. -/
theorem effect_writeNew_join {root : Path} (leads : m.files.LeadsTo root place)
    (fits : FitsIn root name) (never : m.disk.NeverFails) (bytes : List UInt8) :
    (writeNew (root.join ⟨name⟩) bytes).effect m =
      if (m.files.node? (place ++ [name])).isSome then
        (.error (.alreadyExists (root.join ⟨name⟩)), m)
      else (.ok (), { m with
        files := m.files.put (place ++ [name]) (.file bytes Machine.ownerOnly)
        disk := m.disk.next }) := by
  have created := createFile_join leads fits Machine.ownerOnly
  by_cases taken : (m.files.node? (place ++ [name])).isSome
  · rw [if_pos taken] at created ⊢
    simp only [effect_writeNew, created]
    rfl
  · rw [if_neg taken] at created ⊢
    simp only [effect_writeNew, created, never.writes, fill_put]

/-- A generation writes the file of a fresh key, given that the file can be named. -/
theorem effect_generate (folder : KeyFolder) {request : GenerationRequest}
    (passes : isFileName request.address = true) (m : Machine) :
    ∃ f : KeyFile, (MemoryStore.credentialFor request).SameKey f.credential ∧ ∃ keys,
      let path := (request.outputDir.getD folder.root).join
        ⟨Credential.fileNameOf request.address request.firstValid request.lastValid⟩
      (folder.generate request).effect m =
        Outcome.chain (fun _ left => (.ok ⟨f.credential, path⟩, left))
          ((writeNew path f.toCbor).effect { m with keys }) := by
  let vote := m.keys.pair m.keys.drawn
  let selection := m.keys.pair (m.keys.drawn + 1)
  let f : KeyFile := {
    credential := {
      address := request.address
      firstValid := request.firstValid
      lastValid := request.lastValid
      voteVerifier := vote.verifier
      selectionVerifier := selection.verifier
      keyDilution := request.keyDilution }
    voteSecret := vote.secret
    selectionSecret := selection.secret }
  let keys : KeySource := { m.keys with drawn := m.keys.drawn + 1 + 1 }
  refine ⟨f, ⟨rfl, rfl, rfl, rfl⟩, keys, ?_⟩
  intro path
  have checked : checkAddress request.address = .ok () := if_pos passes
  have drawn (m : Machine) : Machine.drawPair.effect m =
      (.ok (m.keys.pair m.keys.drawn),
        { m with keys := { m.keys with drawn := m.keys.drawn + 1 } }) := rfl
  simp only [generate, checked, Action.effect_bind, Action.effect_ofExcept, Outcome.ofExcept_ok,
    Outcome.chain_ok, drawn]
  rfl

theorem store_delete (folder : KeyFolder) : folder.store.delete = delete := rfl

theorem effect_delete (handle : KeyHandle) (m : Machine) :
    (delete handle).effect m =
      match m.files.removeFile handle with
      | .error kind => (.error (notDeleted handle kind), m)
      | .ok files =>
        match m.disk.removal m.disk.turns with
        | none => (.ok (), { m with files, disk := m.disk.next })
        | some kind => (.error (notDeleted handle kind), { m with disk := m.disk.next }) := by
  rw [delete, Action.effect_mapError, Machine.effect_remove]
  cases m.files.removeFile handle with
  | error kind => rfl
  | ok files =>
    cases m.disk.removal m.disk.turns with
    | none => rfl
    | some kind => rfl

theorem effect_delete_join {root : Path} (leads : m.files.LeadsTo root place)
    (fits : FitsIn root name) (removes : m.disk.Removes) :
    (delete (root.join ⟨name⟩)).effect m =
      match m.files.node? (place ++ [name]) with
      | none => (.error (.notFound (root.join ⟨name⟩).text), m)
      | some .directory => (.error (.io (.ofKind .isADirectory)), m)
      | some (.file ..) => (.ok (), { m with
          files := m.files.erase (place ++ [name])
          disk := m.disk.next }) := by
  rw [effect_delete, removeFile_join leads fits]
  rcases m.files.node? (place ++ [name]) with _ | _ | _
  · rfl
  · simp only [removes _]
  · rfl

end KeyFolder

end KeyRenewal
