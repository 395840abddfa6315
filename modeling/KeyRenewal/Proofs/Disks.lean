import KeyRenewal.KeyFolder
import KeyRenewal.Proofs.Effects
import KeyRenewal.Proofs.Files

/-!
# Files on a disk

Opening a file, writing to it and removing one each come down to one change of the files, or to
none. A disk that fails to write may keep any part of what was to be written, and one that fails to
remove a file leaves it as it is.
-/

namespace KeyRenewal

namespace Disk

theorem removal_next (d : Disk) : d.next.removal = d.removal := rfl

/-- What may be removed is removed. A POSIX system has no reason to keep a file that it let somebody
make: both need the same permissions on the directory, and nothing else holds on to the file. -/
def Removes (d : Disk) : Prop := ∀ n, d.removal n = none

/-- Every byte that is written is kept, and what may be removed is removed. -/
structure NeverFails (d : Disk) : Prop where
  writes : ∀ n, d.write n = none
  removes : d.Removes

theorem reliable_neverFails : reliable.NeverFails := ⟨fun _ => rfl, fun _ => rfl⟩

theorem NeverFails.next {d : Disk} (never : d.NeverFails) : d.next.NeverFails :=
  ⟨never.writes, never.removes⟩

end Disk

namespace Machine

open KeyRenewal.Action

theorem effect_inspect {α : Type} (look : FileTree → Except IoKind α) (m : Machine) :
    (inspect look).effect m =
      ((Outcome.ofExcept (look m.files)).mapError fun kind => .io (.ofKind kind), m) := by
  simp [inspect]

theorem effect_openFile (edit : FileTree → Except IoKind (Place × FileTree)) (m : Machine) :
    (openFile edit).effect m =
      match edit m.files with
      | .ok (place, files) => (.ok place, { m with files })
      | .error kind => (.error kind, m) := by
  simp only [openFile, effect_bind, effect_get, Outcome.chain_ok, effect_ofExcept]
  cases edit m.files with
  | ok opened => rfl
  | error kind => rfl

theorem effect_fill (place : Place) (bytes : List UInt8) (m : Machine) :
    (fill place bytes).effect m =
      match m.disk.write m.disk.turns with
      | none => (.ok (), { m with files := m.files.fill place bytes, disk := m.disk.next })
      | some (kept, kind) => (.error kind,
          { m with files := m.files.fill place (bytes.take kept), disk := m.disk.next }) := by
  simp only [fill, effect_bind, effect_get, Outcome.chain_ok]
  cases m.disk.write m.disk.turns with
  | none => rfl
  | some failure => rfl

theorem effect_remove (path : Path) (m : Machine) :
    (remove path).effect m =
      match m.files.removeFile path with
      | .error kind => (.error kind, m)
      | .ok files =>
        match m.disk.removal m.disk.turns with
        | none => (.ok (), { m with files, disk := m.disk.next })
        | some kind => (.error kind, { m with disk := m.disk.next }) := by
  simp only [remove, effect_bind, effect_get, Outcome.chain_ok, effect_ofExcept]
  cases m.files.removeFile path with
  | error kind => rfl
  | ok files =>
    simp only [Outcome.ofExcept_ok, Outcome.chain_ok]
    cases m.disk.removal m.disk.turns with
    | none => rfl
    | some kind => rfl

/-- Where writing ends well, the disk has kept all of the file. -/
theorem effect_writeFile_ok {m m' : Machine} {path : Path} {bytes : List UInt8}
    (written : (writeFile path bytes).effect m = (.ok (), m')) :
    ∃ files, m.files.writeFile path bytes ownerOnly = .ok files ∧
      m' = { m with files, disk := m.disk.next } := by
  obtain ⟨place, m₁, opened, filled⟩ := effect_bind_eq_ok written
  rw [effect_openFile] at opened
  rw [effect_fill] at filled
  unfold FileTree.writeFile
  cases outcome : m.files.openFile path ownerOnly with
  | error kind =>
    rw [outcome] at opened
    cases opened
  | ok target =>
    rw [outcome] at opened
    cases opened
    cases failure : m.disk.write m.disk.turns with
    | none =>
      simp only [failure] at filled
      cases filled
      exact ⟨_, rfl, rfl⟩
    | some failed =>
      simp only [failure] at filled
      cases filled

end Machine

end KeyRenewal
