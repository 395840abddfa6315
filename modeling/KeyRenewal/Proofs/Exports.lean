import KeyRenewal.Dispatch
import KeyRenewal.Proofs.KeyFiles

/-!
# Exported files

An exported file holds exactly what was written, whatever lay at its path before, and no other file
changes. A new file is for its owner only; a file that was there keeps the permissions it had, so
that what is written over a file that others may read can be read by them.
-/

namespace KeyRenewal

/-- The file at a path holds exactly some bytes and everything else stays. Its mode is the one for
owners only if nothing was there, and otherwise the one it had. -/
structure FileTree.Written (path : Path) (bytes : List UInt8) (place : Place) (mode : Nat)
    (t t' : FileTree) : Prop extends SameBut place t t' where
  found : t'.find path = .ok (place, .file bytes mode)
  filed : t'.node? place = some (.file bytes mode)
  mode : t.node? place = none ∧ mode = 0o600 ∨ ∃ old, t.node? place = some (.file old mode)

theorem FileTree.written_of_writeFile {t t' : FileTree} {path : Path} {bytes : List UInt8}
    (done : t.writeFile path bytes Machine.ownerOnly = .ok t') :
    ∃ place mode, Written path bytes place mode t t' := by
  obtain ⟨place, name, mode, located, short, rfl, kept⟩ := writeFile_written done
  have apart : t.node? (place ++ [name]) ≠ some .directory := by
    rcases kept with ⟨free, -⟩ | ⟨old, filed⟩
    · simp [free]
    · simp [filed]
  have located' : (t.put (place ++ [name]) (.file bytes mode)).locate path =
      .ok (.entry place name false) :=
    locate_of_kept located rfl fun _ there => directory_put apart there
  have filed := t.node?_put_self place name (.file bytes mode)
  refine ⟨place ++ [name], mode, put_sameBut t _ _, ?_, filed, kept⟩
  rw [find_entry located' short, filed]

/-- A sink of files changes nothing but the file it writes. -/
theorem Machine.effect_write {m m' : Machine} {path : Path} {bytes : List UInt8}
    (done : (fileSink.write path bytes).effect m = (.ok (), m')) :
    m'.keys = m.keys ∧ ∃ place mode, FileTree.Written path bytes place mode m.files m'.files := by
  obtain ⟨files, written, rfl⟩ := effect_writeFile_ok (Action.effect_of_mapError_ok done)
  exact ⟨rfl, FileTree.written_of_writeFile written⟩

namespace Collaborators

variable {σ : Type} {c : Collaborators σ} {t : StatusTransaction} {s s' : σ}

/-- What is submitted is not exported. -/
theorem submit_ne_exported {mode : WaitMode} {path : Path} :
    (c.submit t mode).effect s ≠ (.ok (.exported path), s') := by
  intro ended
  obtain ⟨txId, s₁, -, rest⟩ := Action.effect_bind_eq_ok ended
  obtain ⟨_, s₂, -, rest⟩ := Action.effect_bind_eq_ok rest
  cases mode with
  | fireAndForget =>
    obtain ⟨_, s₃, -, rest⟩ := Action.effect_bind_eq_ok rest
    cases rest
  | waitForConfirmation =>
    obtain ⟨start, s₃, -, rest⟩ := Action.effect_bind_eq_ok rest
    obtain ⟨round, s₄, -, rest⟩ := Action.effect_bind_eq_ok rest
    cases rest

/-- What is exported was written: the unsigned envelope, made for what the wallet knows of the
sender. -/
theorem dispatch_exported {target : DispatchTarget} {path : Path}
    (ended : (c.dispatch t target).effect s = (.ok (.exported path), s')) :
    target = .file path ∧ ∃ sender s₁,
      (c.signer.multisigInfo t.address).effect s = (.ok sender, s₁) ∧
      (c.sink.write path (Envelope.unsigned t sender).toCbor).effect s₁ = (.ok (), s') := by
  cases target with
  | submit mode => exact absurd ended submit_ne_exported
  | file path' =>
    obtain ⟨sender, s₁, looking, rest⟩ := Action.effect_bind_eq_ok ended
    obtain ⟨_, s₂, writing, rest⟩ := Action.effect_bind_eq_ok rest
    obtain ⟨_, s₃, logged, rest⟩ := Action.effect_bind_eq_ok rest
    cases Action.state_of_effect_log logged
    cases rest
    exact ⟨rfl, sender, s₁, Action.effect_of_mapError_ok looking,
      Action.effect_of_mapError_ok writing⟩

end Collaborators

/-- What is written to files is exact, and for its owner only where nothing was before. So is every
artifact that is reported as exported by way of files. -/
theorem exports_exact {σ : Type} (lens : Lens σ Machine) (c : Collaborators σ)
    (sink : c.sink = Machine.fileSink.focus lens) :
    (∀ m m' path bytes, (Machine.fileSink.write path bytes).effect m = (.ok (), m') →
      m'.keys = m.keys ∧ ∃ place mode, FileTree.Written path bytes place mode m.files m'.files) ∧
    ∀ t target path s s', (c.dispatch t target).effect s = (.ok (.exported path), s') →
      target = .file path ∧
      ∃ sender s₁, (c.signer.multisigInfo t.address).effect s = (.ok sender, s₁) ∧
        ∃ place mode, FileTree.Written path (Envelope.unsigned t sender).toCbor place mode
          (lens.get s₁).files (lens.get s').files := by
  refine ⟨fun m m' path bytes => Machine.effect_write, ?_⟩
  intro t target path s s' ended
  obtain ⟨chosen, sender, s₁, looked, written⟩ := Collaborators.dispatch_exported ended
  rw [sink] at written
  exact ⟨chosen, sender, s₁, looked, (Machine.effect_write (Action.effect_of_focus lens written)).2⟩

/-- A machine with one file, which others may read. -/
def Machine.shared : Machine where
  files := {
    nodes := .ofList [(["out"], .file [1, 2, 3, 4] 0o644)]
    workingDirectory := [] }
  keys := { pair _ := default, drawn := 0 }

/-- What is written over a file that others may read can be read by them. -/
theorem overwritten_readable :
    ∃ m, (Machine.fileSink.write ⟨"/out"⟩ [97]).effect Machine.shared = (.ok (), m) ∧
      m.files.read ⟨"/out"⟩ = .ok ([97], 0o644) :=
  ⟨((Machine.fileSink.write ⟨"/out"⟩ [97]).effect Machine.shared).2, Prod.ext rfl rfl, rfl⟩

/-- A file is written where there was none, and an artifact over the one that others may read. -/
theorem exports_exact_of_shared :
    let c : Collaborators World := ⟨World.station.ledger, World.station.memoryStore,
      World.station.signer, World.station.fileSink, World.station.isDirectory⟩
    let written := (Machine.fileSink.write ⟨"/new"⟩ [97]).effect Machine.shared
    let exported := (c.dispatch default (.file ⟨"/out"⟩)).effect ⟨default, Machine.shared⟩
    written.1 = .ok () ∧ exported.1 = .ok (.exported ⟨"/out"⟩) ∧
      (∃ place mode, FileTree.Written ⟨"/new"⟩ [97] place mode Machine.shared.files
        written.2.files) ∧
      ∃ sender place mode, FileTree.Written ⟨"/out"⟩ (Envelope.unsigned default sender).toCbor place
        mode Machine.shared.files exported.2.machine.files := by
  intro c written exported
  obtain ⟨writes, exports⟩ := exports_exact World.station.machine c rfl
  have wrote : written = (.ok (), written.2) := Prod.ext rfl rfl
  have wroteOut : exported = (.ok (.exported ⟨"/out"⟩), exported.2) := Prod.ext rfl rfl
  obtain ⟨-, sender, w, looked, place, mode, done⟩ :=
    exports _ _ _ _ _ wroteOut
  obtain ⟨-, rfl⟩ := Prod.mk.inj looked
  exact ⟨rfl, rfl, (writes _ _ _ _ wrote).2, sender, place, mode, done⟩

end KeyRenewal
