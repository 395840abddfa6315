import KeyRenewal.Proofs.KeyFiles
import Mathlib.Data.List.Forall2

/-!
# Keys in memory and in a folder

A store in memory stands in for a folder of key files. Both are asked the same things here, starting
empty: to generate, to list and to delete. A relation between the two states is kept by every call:
each key in memory has its file, and the folder holds no other name. Whatever is asked, the two
answer alike, each in its own handles.
-/

namespace KeyRenewal

/-- What a store is asked about the keys it keeps. -/
inductive StoreCall
  | generate (address : Address) (firstValid lastValid : Round) (keyDilution : UInt64)
  | list
  | delete (address : Address) (firstValid lastValid : Round)

/-- What it answers; a refusal is an answer. -/
inductive StoreAnswer
  | generated (answer : Except ServiceError GeneratedCredential)
  | listed (answer : Except ServiceError Keyring)
  | deleted (answer : Except ServiceError Unit)

namespace StoreCall

variable {σ : Type}

/-- Ask a store whose handles lie in a root. -/
def perform (store : CredentialStore σ) (root : Path) : StoreCall → Action σ Empty StoreAnswer
  | generate address firstValid lastValid keyDilution => do
    let answer ← (store.generate
      { address, firstValid, lastValid, keyDilution, outputDir := none }).attempt
    return .generated answer
  | list => do
    let answer ← store.list.attempt
    return .listed answer
  | delete address firstValid lastValid => do
    let answer ←
      (store.delete (root.join ⟨Credential.fileNameOf address firstValid lastValid⟩)).attempt
    return .deleted answer

def performAll (store : CredentialStore σ) (root : Path) :
    List StoreCall → Action σ Empty (List StoreAnswer)
  | [] => pure []
  | call :: rest => do
    let answer ← call.perform store root
    let answers ← performAll store root rest
    return answer :: answers

section effects

variable {store : CredentialStore σ} {s s' : σ} (root : Path)

theorem effect_generate {address : Address} {firstValid lastValid : Round} {keyDilution : UInt64}
    (answer : Except ServiceError GeneratedCredential)
    (asked : (store.generate
      { address, firstValid, lastValid, keyDilution, outputDir := none }).effect s =
        (.ofExcept answer, s')) :
    ((generate address firstValid lastValid keyDilution).perform store root).effect s =
      (.ok (.generated answer), s') := by
  simp only [perform, Action.effect_bind, Action.effect_attempt, asked]
  cases answer <;> rfl

theorem effect_list (answer : Except ServiceError Keyring)
    (asked : store.list.effect s = (.ofExcept answer, s')) :
    (list.perform store root).effect s = (.ok (.listed answer), s') := by
  simp only [perform, Action.effect_bind, Action.effect_attempt, asked]
  cases answer <;> rfl

theorem effect_delete {address : Address} {firstValid lastValid : Round}
    (answer : Except ServiceError Unit)
    (asked : (store.delete (root.join ⟨Credential.fileNameOf address firstValid lastValid⟩)).effect
      s = (.ofExcept answer, s')) :
    ((delete address firstValid lastValid).perform store root).effect s =
      (.ok (.deleted answer), s') := by
  simp only [perform, Action.effect_bind, Action.effect_attempt, asked]
  cases answer <;> rfl

end effects

end StoreCall

/-- The key of an account and a range can be kept in a root: the address is a plain name, and the
file name and its path are not too long. -/
structure Keepable (root : Path) (address : Address) (firstValid lastValid : Round) : Prop where
  plain : PlainName address.text
  length : (Credential.fileNameOf address firstValid lastValid).utf8ByteSize ≤ FileTree.nameLimit
  path : (root.join ⟨Credential.fileNameOf address firstValid lastValid⟩).text.utf8ByteSize <
    FileTree.pathLimit

/-- The keys a call is about can be kept in a root. -/
def StoreCall.Keepable (root : Path) : StoreCall → Prop
  | .generate address firstValid lastValid _ | .delete address firstValid lastValid =>
    KeyRenewal.Keepable root address firstValid lastValid
  | .list => True

/-- The same key but for its verifiers, under the same name in two roots. -/
structure SameEntry (root root' : Path) (e e' : KeyHandle × Credential) : Prop where
  handle : e.1 = root.join ⟨e.2.fileName⟩
  handle' : e'.1 = root'.join ⟨e'.2.fileName⟩
  key : e.2.SameKey e'.2

/-- Two stores answer alike, each in the handles of its own root. -/
inductive StoreAnswer.Agree (root root' : Path) : StoreAnswer → StoreAnswer → Prop
  | generated {made made' : GeneratedCredential}
      (same : SameEntry root root' (made.handle, made.credential)
        (made'.handle, made'.credential)) :
    Agree root root' (.generated (.ok made)) (.generated (.ok made'))
  | taken (name : String) :
    Agree root root' (.generated (.error (.alreadyExists (root.join ⟨name⟩))))
      (.generated (.error (.alreadyExists (root'.join ⟨name⟩))))
  | listed {keys keys' : Keyring}
      (same : List.Forall₂ (SameEntry root root') keys.toList keys'.toList) :
    Agree root root' (.listed (.ok keys)) (.listed (.ok keys'))
  | deleted : Agree root root' (.deleted (.ok ())) (.deleted (.ok ()))
  | missing (name : String) :
    Agree root root' (.deleted (.error (.notFound (root.join ⟨name⟩).text)))
      (.deleted (.error (.notFound (root'.join ⟨name⟩).text)))

/-- The name a key is kept under spells its account and its range, and no other's. -/
def Spelled (keys : Keyring) : Prop :=
  ∀ e ∈ keys.toList, ∀ address firstValid lastValid,
    e.1.fileName? = some (Credential.fileNameOf address firstValid lastValid) ↔
      e.2.address = address ∧ e.2.firstValid = firstValid ∧ e.2.lastValid = lastValid

theorem Spelled.of_named (root : Path) {keys : Keyring}
    (named : ∀ e ∈ keys.toList, e.1 = root.join ⟨e.2.fileName⟩ ∧ SingleName e.2.fileName) :
    Spelled keys := by
  intro e listed address firstValid lastValid
  obtain ⟨handle, single⟩ := named e listed
  rw [handle, Path.fileName?_join single, Option.some_inj]
  constructor
  · exact fun same => Credential.fileNameOf_spells same
  · rintro ⟨rfl, rfl, rfl⟩
    rfl

/-- Where the handles of a store in memory lie. -/
def MemoryStore.root : Path := ⟨"memory"⟩

/-- A store in memory and the files of a folder hold the same keys. -/
structure Mirrors (root : Path) (place : Place) (memory : MemoryStore) (files : FileTree) :
    Prop where
  leads : files.LeadsTo root place
  generates : memory.failGenerationFor = []
  deletes : memory.failDeletes = false
  named : ∀ e ∈ memory.credentials.toList, e.1 = MemoryStore.root.join ⟨e.2.fileName⟩
  keepable : ∀ e ∈ memory.credentials.toList,
    Keepable root e.2.address e.2.firstValid e.2.lastValid
  filed : ∀ e ∈ memory.credentials.toList, ∃ f : KeyFile, e.2.SameKey f.credential ∧
    files.node? (place ++ [e.2.fileName]) = some (.file f.toCbor Machine.ownerOnly)
  only : ∀ name, (files.node? (place ++ [name])).isSome →
    ∃ e ∈ memory.credentials.toList, e.2.fileName = name

namespace Keepable

variable {root : Path} {address : Address} {firstValid lastValid : Round}

theorem fitsIn (keepable : Keepable root address firstValid lastValid) :
    FileTree.FitsIn root (Credential.fileNameOf address firstValid lastValid) :=
  ⟨Credential.plain_fileNameOf keepable.plain _ _, keepable.length, keepable.path⟩

theorem short (keepable : Keepable root address firstValid lastValid) :
    address.text.utf8ByteSize < UInt64.size := by
  have part := Credential.size_address_le address firstValid lastValid
  have whole := keepable.length
  have limit : FileTree.nameLimit < UInt64.size := by decide
  omega

theorem handle (keepable : Keepable root address firstValid lastValid) :
    MemoryStore.handleFor address firstValid lastValid =
      MemoryStore.root.join ⟨Credential.fileNameOf address firstValid lastValid⟩ :=
  MemoryStore.handleFor_eq_join keepable.plain _ _

end Keepable

namespace Mirrors

variable {root : Path} {place : Place} {memory : MemoryStore} {files : FileTree}

theorem fitsIn (mirrors : Mirrors root place memory files) {e : KeyHandle × Credential}
    (listed : e ∈ memory.credentials.toList) : FileTree.FitsIn root e.2.fileName :=
  (mirrors.keepable e listed).fitsIn

section handles

variable {address : Address} {firstValid lastValid : Round}

/-- A key in memory has a handle exactly if its file name is that of the handle. -/
theorem compare_handle (mirrors : Mirrors root place memory files)
    (keepable : Keepable root address firstValid lastValid) {e : KeyHandle × Credential}
    (listed : e ∈ memory.credentials.toList) :
    compare (MemoryStore.handleFor address firstValid lastValid) e.1 = .eq ↔
      Credential.fileNameOf address firstValid lastValid = e.2.fileName := by
  rw [keepable.handle, mirrors.named e listed,
    Path.compare_join keepable.fitsIn.plain.single (mirrors.fitsIn listed).plain.single]
  exact Std.LawfulEqOrd.compare_eq_iff_eq

/-- A handle is taken in memory exactly if its name is taken in the folder. -/
theorem contains_iff (mirrors : Mirrors root place memory files)
    (keepable : Keepable root address firstValid lastValid) :
    memory.credentials.contains (MemoryStore.handleFor address firstValid lastValid) =
      (files.node? (place ++ [Credential.fileNameOf address firstValid lastValid])).isSome := by
  rw [Bool.eq_iff_iff]
  constructor
  · intro taken
    by_contra free
    have fresh : memory.credentials.contains (MemoryStore.handleFor address firstValid lastValid) =
        false := by
      refine OrderedMap.contains_eq_false_iff.mpr fun e listed same => ?_
      rw [mirrors.compare_handle keepable listed] at same
      obtain ⟨f, -, filed⟩ := mirrors.filed e listed
      rw [same, filed] at free
      exact free rfl
    rw [fresh] at taken
    cases taken
  · intro filed
    by_contra free
    obtain ⟨e, listed, named⟩ := mirrors.only _ filed
    exact OrderedMap.contains_eq_false_iff.mp (Bool.not_eq_true _ ▸ free) e listed
      ((mirrors.compare_handle keepable listed).mpr named.symm)

end handles

/-- Two empty stores. -/
theorem start (leads : files.LeadsTo root place) (empty : files.namesIn place = []) :
    Mirrors root place .empty files where
  leads := leads
  generates := rfl
  deletes := rfl
  named _ listed := absurd listed List.not_mem_nil
  keepable _ listed := absurd listed List.not_mem_nil
  filed _ listed := absurd listed List.not_mem_nil
  only name filed := by
    rw [← FileTree.mem_namesIn, empty] at filed
    exact absurd filed List.not_mem_nil

/-- There is nothing but key files in the folder. -/
theorem file_of_found (mirrors : Mirrors root place memory files) {name : String} {node : FileNode}
    (found : files.node? (place ++ [name]) = some node) :
    ∃ f : KeyFile, node = .file f.toCbor Machine.ownerOnly := by
  obtain ⟨e, listed, rfl⟩ := mirrors.only name (by rw [found]; rfl)
  obtain ⟨f, -, filed⟩ := mirrors.filed e listed
  exact ⟨f, Option.some_inj.mp (found.symm.trans filed)⟩

/-- What is remembered of requests and deletions does not matter. -/
theorem of_credentials (mirrors : Mirrors root place memory files) {memory' : MemoryStore}
    (credentials : memory'.credentials = memory.credentials)
    (generates : memory'.failGenerationFor = memory.failGenerationFor)
    (deletes : memory'.failDeletes = memory.failDeletes) :
    Mirrors root place memory' files where
  leads := mirrors.leads
  generates := generates.trans mirrors.generates
  deletes := deletes.trans mirrors.deletes
  named := credentials ▸ mirrors.named
  keepable := credentials ▸ mirrors.keepable
  filed := credentials ▸ mirrors.filed
  only := credentials ▸ mirrors.only

/-- A new key in memory and its file. -/
theorem insert (mirrors : Mirrors root place memory files) {c : Credential} {f : KeyFile}
    (keepable : Keepable root c.address c.firstValid c.lastValid) (same : c.SameKey f.credential)
    (fresh : files.node? (place ++ [c.fileName]) = none) :
    Mirrors root place (memory.install c)
      (files.put (place ++ [c.fileName]) (.file f.toCbor Machine.ownerOnly)) := by
  have untaken : memory.credentials.contains
      (MemoryStore.handleFor c.address c.firstValid c.lastValid) = false := by
    rw [mirrors.contains_iff keepable]
    exact Option.isSome_eq_false_iff.mpr (Option.isNone_iff_eq_none.mpr fresh)
  have installed {e : KeyHandle × Credential} (listed : e ∈ (memory.install c).credentials.toList) :
      e = (MemoryStore.handleFor c.address c.firstValid c.lastValid, c) ∨
        e ∈ memory.credentials.toList := (OrderedMap.mem_insert_of_fresh untaken).mp listed
  have elsewhere {name : String} (apart : name ≠ c.fileName) :
      (files.put (place ++ [c.fileName]) (.file f.toCbor Machine.ownerOnly)).node?
        (place ++ [name]) = files.node? (place ++ [name]) :=
    FileTree.node?_put_of_ne (FileTree.place_ne apart)
  constructor
  case leads => exact mirrors.leads.put fresh
  case generates => exact mirrors.generates
  case deletes => exact mirrors.deletes
  case named =>
    intro e listed
    rcases installed listed with rfl | listed
    · exact keepable.handle
    · exact mirrors.named e listed
  case keepable =>
    intro e listed
    rcases installed listed with rfl | listed
    · exact keepable
    · exact mirrors.keepable e listed
  case filed =>
    intro e listed
    rcases installed listed with rfl | listed
    · exact ⟨f, same, FileTree.node?_put_self _ _ _⟩
    · obtain ⟨g, known, filed⟩ := mirrors.filed e listed
      refine ⟨g, known, ?_⟩
      rw [elsewhere, filed]
      intro taken
      rw [taken, fresh] at filed
      cases filed
  case only =>
    intro name filed
    by_cases new : name = c.fileName
    · exact ⟨_, (OrderedMap.mem_insert_of_fresh untaken).mpr (.inl rfl), new.symm⟩
    · rw [elsewhere new] at filed
      obtain ⟨e, listed, named⟩ := mirrors.only name filed
      exact ⟨e, (OrderedMap.mem_insert_of_fresh untaken).mpr (.inr listed), named⟩

/-- A key taken from memory and its file from the folder. -/
theorem erase (mirrors : Mirrors root place memory files) {address : Address}
    {firstValid lastValid : Round} (keepable : Keepable root address firstValid lastValid)
    {bytes : List UInt8} {mode : Nat}
    (filed : files.node? (place ++ [Credential.fileNameOf address firstValid lastValid]) =
      some (.file bytes mode)) :
    Mirrors root place
      { memory with credentials :=
          memory.credentials.erase (MemoryStore.handleFor address firstValid lastValid) }
      (files.erase (place ++ [Credential.fileNameOf address firstValid lastValid])) := by
  have remaining {e : KeyHandle × Credential} :
      e ∈ (memory.credentials.erase (MemoryStore.handleFor address firstValid lastValid)).toList ↔
        e ∈ memory.credentials.toList ∧
          Credential.fileNameOf address firstValid lastValid ≠ e.2.fileName := by
    rw [OrderedMap.mem_erase]
    exact and_congr_right fun listed => not_congr (mirrors.compare_handle keepable listed)
  have elsewhere {name : String}
      (apart : name ≠ Credential.fileNameOf address firstValid lastValid) :
      (files.erase (place ++ [Credential.fileNameOf address firstValid lastValid])).node?
        (place ++ [name]) = files.node? (place ++ [name]) :=
    FileTree.node?_erase_of_ne (FileTree.place_ne apart)
  constructor
  case leads => exact mirrors.leads.erase filed
  case generates => exact mirrors.generates
  case deletes => exact mirrors.deletes
  case named => exact fun e listed => mirrors.named e (remaining.mp listed).1
  case keepable => exact fun e listed => mirrors.keepable e (remaining.mp listed).1
  case filed =>
    intro e listed
    obtain ⟨listed, apart⟩ := remaining.mp listed
    obtain ⟨f, known, kept⟩ := mirrors.filed e listed
    exact ⟨f, known, by rw [elsewhere apart.symm, kept]⟩
  case only =>
    intro name there
    by_cases gone : name = Credential.fileNameOf address firstValid lastValid
    · rw [gone, FileTree.node?_erase_self] at there
      cases there
    · rw [elsewhere gone] at there
      obtain ⟨e, listed, named⟩ := mirrors.only name there
      exact ⟨e, remaining.mpr ⟨listed, fun same => gone (named.symm.trans same.symm)⟩, named⟩

variable {machine : Machine} {folder : KeyFolder}

/-- Both stores answer a call alike and go on holding the same keys. -/
def Simulated (folder : KeyFolder) (place : Place) (memory : MemoryStore)
    (machine : Machine) (call : StoreCall) : Prop :=
  ∃ answer memory' answer' machine',
    (call.perform MemoryStore.store MemoryStore.root).effect memory =
      (.ok answer, memory') ∧
    (call.perform folder.store folder.root).effect machine =
      (.ok answer', machine') ∧
    answer.Agree MemoryStore.root folder.root answer' ∧
    Mirrors folder.root place memory' machine'.files ∧ machine'.disk.NeverFails

theorem generate_simulated (mirrors : Mirrors folder.root place memory machine.files)
    (never : machine.disk.NeverFails) {address : Address} {firstValid lastValid : Round}
    (keepable : Keepable folder.root address firstValid lastValid) (keyDilution : UInt64) :
    Simulated folder place memory machine
      (.generate address firstValid lastValid keyDilution) := by
  let request : GenerationRequest := ⟨address, firstValid, lastValid, keyDilution, none⟩
  have inMemory : (MemoryStore.store.generate request).effect memory = _ :=
    MemoryStore.effect_generate rfl memory
  have passes : KeyFolder.isFileName request.address = true :=
    KeyFolder.isFileName_iff.mpr keepable.plain.single
  obtain ⟨f, same, keys, inFolder⟩ := folder.effect_generate passes machine
  have written := KeyFolder.effect_writeNew_join (m := { machine with keys }) mirrors.leads
    keepable.fitsIn never f.toCbor
  have handles := mirrors.contains_iff keepable
  dsimp only [request, Option.getD_none] at inMemory inFolder
  rw [if_neg (by simp [mirrors.generates]), handles] at inMemory
  rw [written] at inFolder
  by_cases taken : (machine.files.node?
      (place ++ [Credential.fileNameOf address firstValid lastValid])).isSome
  · rw [if_pos taken] at inMemory inFolder
    refine ⟨_, _, _, _, StoreCall.effect_generate _ (.error _) inMemory,
      StoreCall.effect_generate _ (.error _) inFolder, ?_, ?_, never⟩
    · rw [keepable.handle]
      exact .taken _
    · exact mirrors.of_credentials rfl rfl rfl
  · rw [if_neg taken] at inMemory inFolder
    refine ⟨_, _, _, _, StoreCall.effect_generate _ (.ok _) inMemory,
      StoreCall.effect_generate _ (.ok _) inFolder, ?_, ?_, never.next⟩
    · refine .generated ⟨?_, ?_, same⟩
      · exact keepable.handle
      · exact congrArg (folder.root.join ⟨·⟩) same.fileName
    · have fresh := Option.isNone_iff_eq_none.mp (Option.isSome_eq_false_iff.mp
        (Bool.not_eq_true _ ▸ taken))
      exact (mirrors.insert keepable same fresh).of_credentials rfl rfl rfl

theorem delete_simulated (mirrors : Mirrors folder.root place memory machine.files)
    (never : machine.disk.NeverFails) {address : Address} {firstValid lastValid : Round}
    (keepable : Keepable folder.root address firstValid lastValid) :
    Simulated folder place memory machine (.delete address firstValid lastValid) := by
  have inMemory : (MemoryStore.store.delete (MemoryStore.root.join
      ⟨Credential.fileNameOf address firstValid lastValid⟩)).effect memory = _ :=
    MemoryStore.effect_delete _ memory
  have inFolder :=
    KeyFolder.effect_delete_join mirrors.leads keepable.fitsIn never.removes
  rw [← folder.store_delete] at inFolder
  have handles := mirrors.contains_iff keepable
  rw [keepable.handle] at handles
  rw [if_neg (by simp [mirrors.deletes]), handles] at inMemory
  cases found : machine.files.node?
      (place ++ [Credential.fileNameOf address firstValid lastValid]) with
  | none =>
    rw [found] at inMemory inFolder
    exact ⟨_, _, _, _, StoreCall.effect_delete _ (.error _) inMemory,
      StoreCall.effect_delete _ (.error _) inFolder, .missing _, mirrors, never⟩
  | some node =>
    obtain ⟨f, rfl⟩ := mirrors.file_of_found found
    rw [found] at inMemory inFolder
    have erased := mirrors.erase keepable found
    rw [keepable.handle] at erased
    exact ⟨_, _, _, _, StoreCall.effect_delete _ (.ok _) inMemory,
      StoreCall.effect_delete _ (.ok _) inFolder, .deleted, erased.of_credentials rfl rfl rfl,
      never.next⟩

/-- The names in the folder are those of the keys in memory, in the order of their handles. -/
theorem namesIn_eq (mirrors : Mirrors root place memory files) :
    files.namesIn place = memory.credentials.toList.map (·.2.fileName) := by
  refine OrderedMap.eq_of_same_members (files.namesIn_sorted place) ?_ ?_
  · refine List.pairwise_map.mpr (memory.credentials.sorted.imp_of_mem fun there there' below => ?_)
    rwa [mirrors.named _ there, mirrors.named _ there', Path.compare_join
      (mirrors.fitsIn there).plain.single (mirrors.fitsIn there').plain.single] at below
  · intro name
    rw [FileTree.mem_namesIn, List.mem_map]
    constructor
    · exact mirrors.only name
    · rintro ⟨e, listed, rfl⟩
      obtain ⟨f, -, filed⟩ := mirrors.filed e listed
      rw [filed]
      rfl

/-- The folder lists the keys that are in memory, in the same order. -/
theorem listing (mirrors : Mirrors folder.root place memory machine.files) :
    ∃ keys, folder.list.effect machine = (.ok keys, machine) ∧ Spelled keys ∧
      List.Forall₂ (SameEntry MemoryStore.root folder.root) memory.credentials.toList
        keys.toList := by
  -- What the folder lists is known name by name: the file that each key in memory has.
  choose! file same filed using mirrors.filed
  have single : ∀ name ∈ machine.files.namesIn place, SingleName name := by
    intro name there
    obtain ⟨e, listed, rfl⟩ := mirrors.only name (FileTree.mem_namesIn.mp there)
    exact (mirrors.fitsIn listed).plain.single
  have paths : folder.keyFiles (machine.files.namesIn place) =
      memory.credentials.toList.map fun e => folder.root.join ⟨e.2.fileName⟩ := by
    rw [KeyFolder.keyFiles_eq single, mirrors.namesIn_eq, List.filter_eq_self.mpr, List.map_map]
    · rfl
    intro name there
    obtain ⟨e, -, rfl⟩ := List.mem_map.mp there
    exact beq_iff_eq.mpr (Credential.extensionOf_fileNameOf _ _ _)
  have read : ∀ e ∈ memory.credentials.toList,
      KeyFolder.entryAt? machine.files (folder.root.join ⟨e.2.fileName⟩) =
        some (folder.root.join ⟨e.2.fileName⟩, (file e).credential) := by
    intro e listed
    have short := (mirrors.keepable e listed).short
    rw [(same e listed).address] at short
    have fits := mirrors.fitsIn listed
    rw [KeyFolder.entryAt?, (KeyFolder.credentialAt?_join mirrors.leads fits.plain.single).mpr
      ⟨fits, file e, _, _, filed e listed, rfl, KeyFile.ofCbor?_toCbor short, rfl⟩]
    rfl
  obtain ⟨keys, answered, found⟩ := KeyFolder.effect_list mirrors.leads single
  have listed : keys.toList = memory.credentials.toList.map fun e =>
      (folder.root.join ⟨e.2.fileName⟩, (file e).credential) := by
    rw [found, paths, List.filterMap_map]
    refine List.filterMap_eq_map_iff_forall_eq_some.mpr fun e there => ?_
    rw [Function.comp_apply, read e there]
  have handle : ∀ e ∈ memory.credentials.toList, folder.root.join ⟨e.2.fileName⟩ =
      folder.root.join ⟨(file e).credential.fileName⟩ := fun e there => by
    rw [(same e there).fileName]
  refine ⟨keys, answered, ?_, ?_⟩
  · refine .of_named folder.root fun entry there => ?_
    rw [listed] at there
    obtain ⟨e, inMemory, rfl⟩ := List.mem_map.mp there
    refine ⟨handle e inMemory, ?_⟩
    have single := (mirrors.fitsIn inMemory).plain.single
    rwa [(same e inMemory).fileName] at single
  · rw [listed, List.forall₂_map_right_iff, List.forall₂_same]
    exact fun e there => ⟨mirrors.named e there, handle e there, same e there⟩

theorem list_simulated (mirrors : Mirrors folder.root place memory machine.files)
    (never : machine.disk.NeverFails) : Simulated folder place memory machine .list := by
  obtain ⟨keys, answered, -, same⟩ := mirrors.listing
  exact ⟨_, _, _, _, StoreCall.effect_list _ (.ok _) rfl, StoreCall.effect_list _ (.ok _) answered,
    .listed same, mirrors, never⟩

theorem call_simulated (mirrors : Mirrors folder.root place memory machine.files)
    (never : machine.disk.NeverFails) {call : StoreCall} (keepable : call.Keepable folder.root) :
    Simulated folder place memory machine call := by
  cases call with
  | generate address firstValid lastValid keyDilution =>
    exact mirrors.generate_simulated never keepable keyDilution
  | list => exact mirrors.list_simulated never
  | delete address firstValid lastValid => exact mirrors.delete_simulated never keepable

/-- Both stores answer any calls alike, one after another. -/
theorem calls_simulated (calls : List StoreCall)
    (mirrors : Mirrors folder.root place memory machine.files) (never : machine.disk.NeverFails)
    (keepable : ∀ call ∈ calls, call.Keepable folder.root) :
    ∃ answers memory' answers' machine',
      (StoreCall.performAll MemoryStore.store MemoryStore.root calls).effect
        memory = (.ok answers, memory') ∧
      (StoreCall.performAll folder.store folder.root calls).effect
        machine = (.ok answers', machine') ∧
      List.Forall₂ (StoreAnswer.Agree MemoryStore.root folder.root) answers answers' ∧
      Mirrors folder.root place memory' machine'.files := by
  induction calls generalizing memory machine with
  | nil => exact ⟨[], memory, [], machine, rfl, rfl, .nil, mirrors⟩
  | cons call rest ih =>
    obtain ⟨answer, memory₁, answer', machine₁, inMemory, inFolder, agree, mirrors₁, never₁⟩ :=
      mirrors.call_simulated never (keepable call List.mem_cons_self)
    obtain ⟨answers, memory₂, answers', machine₂, later, later', agreeing, mirrors₂⟩ :=
      ih mirrors₁ never₁ fun call there => keepable call (List.mem_cons_of_mem _ there)
    refine ⟨answer :: answers, memory₂, answer' :: answers', machine₂, ?_, ?_, .cons agree agreeing,
      mirrors₂⟩
    · simp only [StoreCall.performAll, Action.effect_bind, inMemory, Outcome.chain_ok, later]
      rfl
    · simp only [StoreCall.performAll, Action.effect_bind, inFolder, Outcome.chain_ok, later']
      rfl

theorem spelled (mirrors : Mirrors root place memory files) : Spelled memory.credentials :=
  .of_named MemoryStore.root fun e listed =>
    ⟨mirrors.named e listed, (mirrors.fitsIn listed).plain.single⟩

end Mirrors

/-- A directory with nothing in it. -/
structure KeyFolder.EmptyAt (folder : KeyFolder) (files : FileTree) (place : Place) : Prop where
  found : files.find folder.root = .ok (place, .directory)
  there : files.node? place = some .directory
  bare : files.namesIn place = []

/-- A store in memory and an empty folder, on a disk that never fails, answer any calls alike, list
the same keys in the same order afterwards, and keep each key under the name that spells it. -/
theorem memory_simulates_folder {folder : KeyFolder} {machine : Machine} {place : Place}
    (empty : folder.EmptyAt machine.files place) (never : machine.disk.NeverFails)
    {calls : List StoreCall}
    (keepable : ∀ call ∈ calls, call.Keepable folder.root) :
    ∃ answers memory answers' machine' keys,
      (StoreCall.performAll MemoryStore.store MemoryStore.root calls).effect .empty =
        (.ok answers, memory) ∧
      (StoreCall.performAll folder.store folder.root calls).effect machine =
        (.ok answers', machine') ∧
      List.Forall₂ (StoreAnswer.Agree MemoryStore.root folder.root) answers answers' ∧
      folder.list.effect machine' = (.ok keys, machine') ∧
      List.Forall₂ (SameEntry MemoryStore.root folder.root) memory.credentials.toList
        keys.toList ∧
      Spelled memory.credentials ∧ Spelled keys := by
  have start : Mirrors folder.root place .empty machine.files :=
    .start (.of_find empty.found empty.there) empty.bare
  obtain ⟨answers, memory, answers', machine', inMemory, inFolder, agree, mirrors⟩ :=
    start.calls_simulated calls never keepable
  obtain ⟨keys, listed, spelled, same⟩ := mirrors.listing
  exact ⟨answers, memory, answers', machine', keys, inMemory, inFolder, agree, listed, same,
    mirrors.spelled, spelled⟩

/-- A machine with one directory and nothing in it. -/
def Machine.bare : Machine where
  files := { nodes := OrderedMap.empty.insert ["keys"] .directory, workingDirectory := [] }
  keys := { pair _ := default, drawn := 0 }

theorem memory_simulates_folder_for_one_key :
    let folder : KeyFolder := ⟨⟨"/keys/"⟩⟩
    let calls : List StoreCall := [.delete ⟨"A"⟩ ⟨1⟩ ⟨9⟩, .generate ⟨"A"⟩ ⟨1⟩ ⟨9⟩ 3,
      .generate ⟨"A"⟩ ⟨1⟩ ⟨9⟩ 4, .list, .delete ⟨"A"⟩ ⟨1⟩ ⟨9⟩, .list]
    folder.EmptyAt Machine.bare.files ["keys"] ∧ Machine.bare.disk.NeverFails ∧
    (∀ call ∈ calls, call.Keepable folder.root) ∧
    ∃ answers memory answers' machine' keys,
      (StoreCall.performAll MemoryStore.store MemoryStore.root calls).effect .empty =
        (.ok answers, memory) ∧
      (StoreCall.performAll folder.store folder.root calls).effect Machine.bare =
        (.ok answers', machine') ∧
      List.Forall₂ (StoreAnswer.Agree MemoryStore.root folder.root) answers answers' ∧
      folder.list.effect machine' = (.ok keys, machine') ∧
      List.Forall₂ (SameEntry MemoryStore.root folder.root) memory.credentials.toList
        keys.toList ∧
      Spelled memory.credentials ∧ Spelled keys := by
  intro folder calls
  have empty : folder.EmptyAt Machine.bare.files ["keys"] := ⟨by decide, by decide, by decide⟩
  have key : Keepable folder.root ⟨"A"⟩ ⟨1⟩ ⟨9⟩ :=
    ⟨⟨by decide, by decide, by decide, by decide, by decide⟩, by decide, by decide⟩
  have keepable : ∀ call ∈ calls, call.Keepable folder.root := by
    simp only [calls, List.forall_mem_cons]
    exact ⟨key, key, key, trivial, key, trivial, nofun⟩
  have never : Machine.bare.disk.NeverFails := Disk.reliable_neverFails
  exact ⟨empty, never, keepable, memory_simulates_folder empty never keepable⟩

end KeyRenewal
