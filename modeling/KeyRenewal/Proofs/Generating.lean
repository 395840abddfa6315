import KeyRenewal.Proofs.KeyFiles

/-!
# Keys made in a folder

Generating a key makes one file, for its owner only, and changes nothing else. A failure changes
nothing at all, also when the disk keeps only a part of the file: that part is removed again, and
stays only if the disk fails to remove it. Whatever else lies in the folder, the new key is listed
beside those that were listed before, and deleting it once gives back the files as they were.
-/

namespace KeyRenewal

namespace FileTree

/-- Every name in a tree is one component of a path. -/
def Named (t : FileTree) : Prop := ∀ place ∈ t.nodes.keys, ∀ name ∈ place, SingleName name

theorem Named.single {t : FileTree} (named : t.Named) {place : Place} {name : String}
    (there : name ∈ t.namesIn place) : SingleName name := by
  obtain ⟨key, listed, ends⟩ := List.mem_filterMap.mp there
  rw [place_iff] at ends
  exact named key listed name (by simp [ends])

end FileTree

namespace KeyFolder

open FileTree

variable {folder : KeyFolder} {m m' : Machine} {place : Place} {name : String} {c : Credential}

theorem HoldsKey.congr {files files' : FileTree}
    (same : files'.node? (place ++ [name]) = files.node? (place ++ [name])) :
    folder.HoldsKey files' place name c ↔ folder.HoldsKey files place name c :=
  ⟨fun holds => ⟨holds.marked, holds.fits, same ▸ holds.readable⟩,
    fun holds => ⟨holds.marked, holds.fits, same ▸ holds.readable⟩⟩

/-- A name holds one key. -/
theorem HoldsKey.unique {files : FileTree} {c' : Credential}
    (holds : folder.HoldsKey files place name c) (holds' : folder.HoldsKey files place name c') :
    c = c' := by
  obtain ⟨f, bytes, mode, filed, -, parsed, rfl⟩ := holds.readable
  obtain ⟨f', bytes', mode', filed', -, parsed', rfl⟩ := holds'.readable
  rw [filed] at filed'
  cases filed'
  rw [parsed] at parsed'
  cases parsed'
  rfl

/-- A file is made where nothing was, and some bytes are written to it. -/
def Writes (path : Path) (bytes : List UInt8) (t t' : FileTree) : Prop :=
  ∃ target opened, t.createFile path Machine.ownerOnly = .ok (target, opened) ∧
    t' = opened.fill target bytes

/-- How a generation ends: with its file, with no change, or, where the disk fails to write the file
and then to remove it, with a part of it. -/
inductive Ending (folder : KeyFolder) (request : GenerationRequest) (m : Machine) :
    Outcome ServiceError GeneratedCredential × Machine → Prop
  | made {f : KeyFile} {path : Path} {m' : Machine}
      (same : (MemoryStore.credentialFor request).SameKey f.credential)
      (single : SingleName f.credential.fileName)
      (named : path = (request.outputDir.getD folder.root).join ⟨f.credential.fileName⟩)
      (wrote : Writes path f.toCbor m.files m'.files) (disk : m'.disk = m.disk.next) :
    Ending folder request m (.ok ⟨f.credential, path⟩, m')
  | unchanged {e : ServiceError} {m' : Machine} (same : m'.files = m.files) :
    Ending folder request m (.error e, m')
  | part {f : KeyFile} {kept : Nat} {e : ServiceError} {m' : Machine}
      (single : SingleName f.credential.fileName)
      (wrote : Writes ((request.outputDir.getD folder.root).join ⟨f.credential.fileName⟩)
        (f.toCbor.take kept) m.files m'.files)
      (stays : m.disk.removal m.disk.next.turns ≠ none) :
    Ending folder request m (.error e, m')

/-- On a disk that fails at both, two bytes of the file stay. -/
example :
    let m : Machine := {
      files := ⟨.ofList [(["keys"], .directory)], []⟩
      keys := ⟨fun _ => default, 0⟩
      disk := ⟨fun _ => some (2, .storageFull), fun _ => some .other, 0⟩ }
    ((generate ⟨⟨"/keys"⟩⟩ ⟨⟨"A"⟩, ⟨2⟩, ⟨9⟩, 3, none⟩).effect m).2.files.node?
      ["keys", "A.2.9.partkey"] = some (.file [0xa3, 0x6a] 0o600) := by
  decide +kernel

end KeyFolder

/-- A machine with a key folder in which lie a file that only looks like a key file, a directory
that does, a file that may not be read, and another file. -/
def Machine.crowded : Machine where
  files := {
    nodes := .ofList [(["keys"], .directory), (["keys", "A.1.9.partkey"], .file [0xff] 0o644),
      (["keys", "B.1.9.partkey"], .directory), (["keys", "C.1.9.partkey"], .file [] 0o000),
      (["keys", "notes"], .file [] 0o600)]
    workingDirectory := [] }
  keys := { pair _ := default, drawn := 0 }

/-- The same machine with its disk full after ten bytes of any file. -/
def Machine.full : Machine :=
  { Machine.crowded with disk := { Disk.reliable with write _ := some (10, .storageFull) } }

end KeyRenewal
