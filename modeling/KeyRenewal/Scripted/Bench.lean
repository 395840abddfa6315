import KeyRenewal.Engine
import KeyRenewal.KeyFolder
import KeyRenewal.Scripted.KeyStore
import KeyRenewal.Scripted.Ledger
import KeyRenewal.Scripted.Wallet

/-!
# A bench of scripted collaborators

One ledger, one store in memory, one wallet and one sink, side by side on a machine with files. An
engine is built over all of them; its keys may instead lie in a folder, and its exports in files.
-/

namespace KeyRenewal

structure Bench where
  ledger : ScriptedLedger
  store : MemoryStore
  wallet : ScriptedWallet
  sink : MemorySink
deriving DecidableEq, Inhabited

namespace Bench

def startingAt (round : Round) (version : ConsensusVersion) : Bench :=
  ⟨.startingAt round version, .empty, .empty, .empty⟩

def ledgerLens : Lens Bench ScriptedLedger :=
  ⟨Bench.ledger, fun b ledger => { b with ledger }, fun _ _ => rfl, fun _ => rfl, fun _ _ _ => rfl⟩

def storeLens : Lens Bench MemoryStore :=
  ⟨Bench.store, fun b store => { b with store }, fun _ _ => rfl, fun _ => rfl, fun _ _ _ => rfl⟩

def walletLens : Lens Bench ScriptedWallet :=
  ⟨Bench.wallet, fun b wallet => { b with wallet }, fun _ _ => rfl, fun _ => rfl, fun _ _ _ => rfl⟩

def sinkLens : Lens Bench MemorySink :=
  ⟨Bench.sink, fun b sink => { b with sink }, fun _ _ => rfl, fun _ => rfl, fun _ _ _ => rfl⟩

end Bench

/-- Where the collaborators of one engine are in a state. -/
structure Station (σ : Type) where
  bench : Lens σ Bench
  machine : Lens σ Machine

/-- One bench and one machine. -/
structure World where
  bench : Bench
  machine : Machine

def World.station : Station World where
  bench := ⟨World.bench, fun w bench => { w with bench }, fun _ _ => rfl, fun _ => rfl,
    fun _ _ _ => rfl⟩
  machine := ⟨World.machine, fun w machine => { w with machine }, fun _ _ => rfl, fun _ => rfl,
    fun _ _ _ => rfl⟩

/-- Several benches on one machine. -/
structure Fleet (n : Nat) where
  benches : Vector Bench n
  machine : Machine

namespace Fleet

variable {n : Nat}

def benchLens (i : Fin n) : Lens (Fleet n) Bench where
  get f := f.benches[i]
  set f bench := { f with benches := f.benches.set i bench }
  get_set f bench := by simp
  set_get f := by cases f; simp
  set_set f b c := by simp

def station (i : Fin n) : Station (Fleet n) where
  bench := benchLens i
  machine := ⟨Fleet.machine, fun f machine => { f with machine }, fun _ _ => rfl, fun _ => rfl,
    fun _ _ _ => rfl⟩

end Fleet

namespace Station

variable {σ : Type} (s : Station σ)

def ledger : Ledger σ := ScriptedLedger.ledger.focus (s.bench.trans Bench.ledgerLens)

def memoryStore : CredentialStore σ := MemoryStore.store.focus (s.bench.trans Bench.storeLens)

def folderStore (folder : KeyFolder) : CredentialStore σ := folder.store.focus s.machine

def signer : Signer σ := ScriptedWallet.signer.focus (s.bench.trans Bench.walletLens)

def memorySink : ArtifactSink σ := MemorySink.sink.focus (s.bench.trans Bench.sinkLens)

def fileSink : ArtifactSink σ := Machine.fileSink.focus s.machine

def isDirectory (path : Path) (state : σ) : Bool := (s.machine.get state).files.isDirectory path

/-- The parts of an engine at the station: its keys in a folder or in memory, its exports in files
or in memory. -/
def parts (folder : Option KeyFolder) (toFiles : Bool) (protocols : Option ProtocolRegistry)
    (config : EngineConfig) : EngineParts σ where
  ledger := some s.ledger
  store := some (match folder with
    | some folder => s.folderStore folder
    | none => s.memoryStore)
  signer := some s.signer
  sink := some (if toFiles then s.fileSink else s.memorySink)
  files := s.fileSink
  isDirectory := s.isDirectory
  protocols := protocols
  config := config

end Station

end KeyRenewal
