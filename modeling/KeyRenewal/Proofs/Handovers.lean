import KeyRenewal.Proofs.Dropping
import KeyRenewal.Proofs.Recording

/-!
# What a run hands over

A renewal hands the wallet or the sink the transaction of its plan and nothing else, whether or not
that is taken, and also where its caller is dropped. A batch hands over the transactions of the
plans it has for its accounts, all on one snapshot.
-/

namespace KeyRenewal

open KeyRenewal.Action (RecordedAs)

variable {σ : Type}

/-- What the runs from a state may hand over: transactions of the plans they have for their accounts
on the snapshot taken there. -/
def Station.Planned (s : Station σ) (st : σ) (protocols : ProtocolRegistry)
    (plan : RoundSnapshot → Address → RenewalPlan) (handover : Handover) : Prop :=
  ∃ snapshot, (s.bench.get st).ledger.snapshot protocols = .ok snapshot ∧
    handover.Carries fun t =>
      ∃ address, (plan snapshot address).Valid ∧ t = (plan snapshot address).transaction

namespace Station

variable (s : Station σ) (drops : ScriptedLedger → Bool) (protocols : ProtocolRegistry)
  (config : EngineConfig) (st : σ)

theorem renewAccount_handsOver (p : RenewalPlan) (valid : p.Valid) (target : DispatchTarget) :
    RecordedAs (Handover.Carries (· = p.transaction))
      ((s.engineDroppedIn drops protocols config).recorded.renewAccount p.address p.snapshot
        p.horizon p.fee p.keyDilution target)
      ((s.engineDroppedIn drops protocols config).renewAccount p.address p.snapshot p.horizon p.fee
        p.keyDilution target) st := by
  refine (s.engineDroppedIn drops protocols config).renewAccount_recorded p.address p.snapshot
    p.horizon p.fee p.keyDilution target ?_
  intro generated st' t made built handover carries
  have mine : generated = p.generated := by
    have generation := s.effect_generate st p valid.ordered
    change ((s.engineDroppedIn drops protocols config).collaborators.generate p.address
      p.snapshot.currentRound p.horizon p.keyDilution .managed).effect st = _ at generation
    rw [made] at generation
    split at generation
    · cases generation
    · split at generation
      · cases generation
      · cases generation
        rfl
  subst mine
  cases valid.builds.symm.trans built
  exact carries

variable {s drops protocols config st} in
/-- A snapshot that clears the window is that of the ledger, and its plans are valid. -/
theorem checked_of_effect {snapshot : RoundSnapshot} {taken : σ} {horizon : Round}
    (ends : (s.engineDroppedIn drops protocols config).snapshot.effect st = (.ok snapshot, taken))
    (passed : checkWindow snapshot.currentRound horizon snapshot.parameters.maxTxnLife = .ok ()) :
    (s.bench.get st).ledger.snapshot protocols = .ok snapshot ∧
      ∀ p : RenewalPlan, p.snapshot = snapshot → p.horizon = horizon → p.Valid := by
  rw [engineDroppedIn_snapshot] at ends
  obtain ⟨taken, -⟩ := snapshot_of_effect ends
  refine ⟨taken, ?_⟩
  rintro p rfl rfl
  exact ⟨checkWindow_ok passed, (ScriptedLedger.snapshot_round taken).2.1⟩

/-- A single renewal hands over the transaction of its plan. -/
theorem runSingleRenewal_handsOver (request : RenewalRequest) :
    RecordedAs (s.Planned st protocols fun snapshot _ => request.plan config snapshot)
      ((s.engineDroppedIn drops protocols config).recorded.runSingleRenewal request)
      ((s.engineDroppedIn drops protocols config).runSingleRenewal request) st := by
  apply Engine.runSingleRenewal_recorded
  intro snapshot _ ends passed here
  obtain ⟨taken, valid⟩ := checked_of_effect ends passed
  have mine : (request.plan config snapshot).Valid := valid _ rfl rfl
  refine (s.renewAccount_handsOver drops protocols config here _ mine _).mono ?_
  intro handover carries
  exact ⟨snapshot, taken, carries.mono fun t same => ⟨request.address, mine, same⟩⟩

/-- A batch hands over the transactions of its plans, all on one snapshot, whatever earlier accounts
did to the state. -/
theorem runBatchRenewal_handsOver (request : BatchRequest) :
    RecordedAs (s.Planned st protocols fun snapshot => (request.terms config snapshot).plan)
      ((s.engineDroppedIn drops protocols config).recorded.runBatchRenewal request)
      ((s.engineDroppedIn drops protocols config).runBatchRenewal request) st := by
  apply Engine.runBatchRenewal_recorded
  intro installed listed snapshot _ listEnds ends passed address here
  rw [engineDroppedIn_listCredentials, effect_listCredentials] at listEnds
  obtain ⟨-, rfl⟩ := Prod.mk.inj listEnds
  obtain ⟨taken, valid⟩ := checked_of_effect ends passed
  have mine : ((request.terms config snapshot).plan address).Valid := valid _ rfl rfl
  refine (s.renewAccount_handsOver drops protocols config here _ mine _).mono ?_
  intro handover carries
  exact ⟨snapshot, taken, carries.mono fun t same => ⟨address, mine, same⟩⟩

end Station

end KeyRenewal
