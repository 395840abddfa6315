import KeyRenewal.Proofs.Course
import Mathlib.Tactic.SplitIfs

/-!
# Carrying out a renewal

What the engine of a station does to its state, call by call and then as a whole: for a plan whose
window has been checked it ends as the plan says and leaves the bench the plan says.
-/

namespace KeyRenewal

variable {σ : Type}

namespace Station

variable (s : Station σ) (st : σ) (p : RenewalPlan)

theorem effect_store_generate :
    (s.collaborators.store.generate p.request).effect st =
      if (s.bench.get st).store.failGenerationFor.contains p.address then
        (.error (.request "key generation failed"), s.bench.set st (p.asked (s.bench.get st)))
      else if (s.bench.get st).store.credentials.contains p.handle then
        (.error (.rejected s!"key file already exists: {p.handle}"),
          s.bench.set st (p.asked (s.bench.get st)))
      else (.ok p.generated, s.bench.set st (p.made (s.bench.get st))) := by
  have stored : (MemoryStore.generate p.request).effect (s.bench.get st).store = _ :=
    MemoryStore.effect_generate rfl _
  by_cases failing : (s.bench.get st).store.failGenerationFor.contains p.address
  · rw [if_pos failing]
    exact effect_of_part (stored.trans (if_pos failing))
  by_cases taken : (s.bench.get st).store.credentials.contains p.handle
  · rw [if_neg failing, if_pos taken]
    exact effect_of_part (stored.trans ((if_neg failing).trans (if_pos taken)))
  · rw [if_neg failing, if_neg taken]
    exact effect_of_part (stored.trans ((if_neg failing).trans (if_neg taken)))

theorem effect_generate (ordered : ¬ p.horizon < p.snapshot.currentRound) :
    (s.collaborators.generate p.address p.snapshot.currentRound p.horizon p.keyDilution
        .managed).effect st =
      if (s.bench.get st).store.failGenerationFor.contains p.address then
        (.error (.generationFailed (.request "key generation failed")),
          s.bench.set st (p.asked (s.bench.get st)))
      else if (s.bench.get st).store.credentials.contains p.handle then
        (.error (.generationFailed (.rejected s!"key file already exists: {p.handle}")),
          s.bench.set st (p.asked (s.bench.get st)))
      else (.ok p.generated, s.bench.set st (p.made (s.bench.get st))) := by
  have stored := s.effect_store_generate st p
  unfold RenewalPlan.request at stored
  simp only [Collaborators.generate, if_neg ordered, Destination.outputDir, Action.effect_bind,
    Action.effect_pure, Outcome.chain_ok, Action.effect_mapError, stored]
  split_ifs
  · rfl
  · rfl
  · rfl

theorem effect_signAndSubmit (t : StatusTransaction) :
    (s.collaborators.signer.signAndSubmit t).effect st =
      if (s.bench.get st).wallet.refuses.contains t.address then
        (.error (.rejected s!"wallet refused to sign for {t.address}"), st)
      else
        (.ok (ScriptedWallet.txIdFor t),
          s.bench.set st { s.bench.get st with wallet := { (s.bench.get st).wallet with
            submitted := (s.bench.get st).wallet.submitted ++ [t] } }) := by
  have signed := ScriptedWallet.effect_signAndSubmit t (s.bench.get st).wallet
  by_cases refused : (s.bench.get st).wallet.refuses.contains t.address
  · rw [if_pos refused]
    exact effect_of_look (signed.trans (if_pos refused))
  · rw [if_neg refused]
    exact effect_of_part (signed.trans (if_neg refused))

/-- Following a transaction is done on the ledger alone. -/
theorem follow_focus (txId : TxId) :
    (do
      let start ← s.ledger.status.mapError .queryFailed
      let round ← s.ledger.awaitConfirmation txId start.lastRound
      return DispatchOutcome.confirmed txId round) =
      (ScriptedLedger.follow txId .waitForConfirmation).focus (s.bench.trans Bench.ledgerLens) := by
  simp only [ScriptedLedger.follow, Action.focus_bind, Action.focus_mapError, Action.focus_pure,
    ← Ledger.awaitConfirmation_focus]
  rfl

theorem effect_submit (t : StatusTransaction) (mode : WaitMode) :
    (s.collaborators.submit t mode).effect st =
      if (s.bench.get st).wallet.refuses.contains t.address then
        (.error (.registrationFailed t.address none
          (.rejected s!"wallet refused to sign for {t.address}")), st)
      else
        let followed := (ScriptedLedger.follow (ScriptedWallet.txIdFor t) mode).effect
          (s.bench.get st).ledger
        (followed.1, s.bench.set st { s.bench.get st with
          wallet := { (s.bench.get st).wallet with
            submitted := (s.bench.get st).wallet.submitted ++ [t] }
          ledger := followed.2 }) := by
  have signed := s.effect_signAndSubmit st t
  simp only [Collaborators.submit, Action.effect_bind, Action.effect_mapError, signed]
  by_cases refused : (s.bench.get st).wallet.refuses.contains t.address
  · simp only [if_pos refused]
    rfl
  · simp only [if_neg refused, Outcome.mapError_ok, Outcome.chain_ok]
    cases mode with
    | fireAndForget => rfl
    | waitForConfirmation =>
      have followed := follow_focus s (ScriptedWallet.txIdFor t)
      rw [Action.effect_log, Outcome.chain_ok]
      simp only [collaborators]
      rw [followed, Action.effect_focus]
      simp [Lens.trans, Bench.ledgerLens]

theorem effect_multisigInfo (address : Address) :
    (s.collaborators.signer.multisigInfo address).effect st =
      if (s.bench.get st).wallet.failLookups then (.error (.request "wallet unavailable"), st)
      else (.ok ((s.bench.get st).wallet.multisig.find? address), st) := by
  have looked := ScriptedWallet.effect_multisigInfo address (s.bench.get st).wallet
  by_cases blind : (s.bench.get st).wallet.failLookups
  · rw [if_pos blind]
    exact effect_of_look (looked.trans (if_pos blind))
  · rw [if_neg blind]
    exact effect_of_look (looked.trans (if_neg blind))

theorem effect_write (path : Path) (bytes : List UInt8) :
    (s.collaborators.sink.write path bytes).effect st =
      if (s.bench.get st).sink.failWrites then
        (.error (.io ⟨.permissionDenied, some "read-only sink"⟩), st)
      else
        (.ok (), s.bench.set st { s.bench.get st with sink := { (s.bench.get st).sink with
          artifacts := (s.bench.get st).sink.artifacts.insert path bytes } }) := by
  have put := MemorySink.effect_write path bytes (s.bench.get st).sink
  by_cases readOnly : (s.bench.get st).sink.failWrites
  · rw [if_pos readOnly]
    exact effect_of_look (put.trans (if_pos readOnly))
  · rw [if_neg readOnly]
    exact effect_of_part (put.trans (if_neg readOnly))

theorem effect_writeUnsigned (t : StatusTransaction) (path : Path) :
    (s.collaborators.writeUnsigned t path).effect st =
      if (s.bench.get st).wallet.failLookups then
        (.error (.exportFailed path (.request "wallet unavailable")), st)
      else if (s.bench.get st).sink.failWrites then
        (.error (.exportFailed path (.io ⟨.permissionDenied, some "read-only sink"⟩)), st)
      else
        (.ok (.exported path), s.bench.set st { s.bench.get st with
          sink := { (s.bench.get st).sink with
            artifacts := (s.bench.get st).sink.artifacts.insert path (Envelope.unsigned
              t ((s.bench.get st).wallet.multisig.find? t.address)).toCbor } }) := by
  simp only [Collaborators.writeUnsigned, Action.effect_bind, Action.effect_mapError,
    s.effect_multisigInfo st t.address]
  by_cases blind : (s.bench.get st).wallet.failLookups
  · simp only [if_pos blind]
    rfl
  simp only [if_neg blind, Outcome.mapError_ok, Outcome.chain_ok, effect_write]
  by_cases readOnly : (s.bench.get st).sink.failWrites
  · simp only [if_pos readOnly]
    rfl
  · simp only [if_neg readOnly]
    rfl

theorem effect_store_delete (handle : KeyHandle) :
    (s.collaborators.store.delete handle).effect st =
      if (s.bench.get st).store.failDeletes then (.error (.request "delete failed"), st)
      else if (s.bench.get st).store.credentials.contains handle then
        (.ok (), s.bench.set st { s.bench.get st with store := { (s.bench.get st).store with
          credentials := (s.bench.get st).store.credentials.erase handle
          deleted := (s.bench.get st).store.deleted ++ [handle] } })
      else (.error (.notFound handle.text), st) := by
  have deleted := MemoryStore.effect_delete handle (s.bench.get st).store
  by_cases failing : (s.bench.get st).store.failDeletes
  · rw [if_pos failing]
    exact effect_of_look (deleted.trans (if_pos failing))
  by_cases there : (s.bench.get st).store.credentials.contains handle
  · rw [if_neg failing, if_pos there]
    exact effect_of_part (deleted.trans ((if_neg failing).trans (if_pos there)))
  · rw [if_neg failing, if_neg there]
    exact effect_of_look (deleted.trans ((if_neg failing).trans (if_neg there)))

/-- Deleting the key just made puts the store back, unless deletions fail. -/
theorem effect_delete_made {b : Bench} (fresh : b.store.credentials.contains p.handle = false) :
    (s.collaborators.store.delete p.handle).effect (s.bench.set st (p.made b)) =
      if b.store.failDeletes then (.error (.request "delete failed"), s.bench.set st (p.made b))
      else (.ok (), s.bench.set st (p.undone b)) := by
  have there : (p.made b).store.credentials.contains p.handle = true :=
    OrderedMap.contains_insert_self fresh _
  have back : (p.made b).store.credentials.erase p.handle = b.store.credentials :=
    OrderedMap.erase_insert fresh _
  rw [effect_store_delete, s.bench.get_set, s.bench.set_set, if_pos there, back]
  rfl

/-- A refused registration is reported with the handle of the deleted key, or with none if the key
could not be deleted. -/
theorem effect_giveUp_refused {b : Bench} (fresh : b.store.credentials.contains p.handle = false)
    (protocols : ProtocolRegistry) (config : EngineConfig) (source : ServiceError) {α : Type} :
    ((s.engine protocols config).giveUp ((RenewalAttempt.start p.address).credentialGenerated
        p.generated) (.registrationFailed p.address none source) :
        Action σ RenewalError α).effect (s.bench.set st (p.made b)) =
      if b.store.failDeletes then
        (.error (.registrationFailed p.address none source), s.bench.set st (p.made b))
      else
        (.error (.registrationFailed p.address (some p.handle) source),
          s.bench.set st (p.undone b)) := by
  have deleted := s.effect_delete_made st p fresh
  simp only [Engine.giveUp, RenewalAttempt.fail, RenewalAttempt.rollBack,
    RenewalAttempt.credentialGenerated, Action.effect_bind, Action.effect_attempt]
  rw [show (s.engine protocols config).collaborators = s.collaborators from rfl,
    show p.generated.handle = p.handle from rfl, deleted]
  by_cases failing : b.store.failDeletes
  · simp only [if_pos failing]
    rfl
  · simp only [if_neg failing]
    rfl

theorem effect_dispatch {b : Bench} (fresh : b.store.credentials.contains p.handle = false)
    (protocols : ProtocolRegistry) (config : EngineConfig) (target : DispatchTarget) :
    Action.effect (do
      match ← (s.collaborators.dispatch p.transaction target).attempt with
      | .error error =>
        (s.engine protocols config).giveUp
          ((RenewalAttempt.start p.address).credentialGenerated p.generated) error
      | .ok dispatch => return (⟨p.address, p.generated, dispatch⟩ : Renewal))
      (s.bench.set st (p.made b)) =
      ((p.registered target b).1, s.bench.set st (p.registered target b).2) := by
  simp only [Action.effect_bind, Action.effect_attempt]
  cases target with
  | submit mode =>
    have submitted := s.effect_submit (s.bench.set st (p.made b)) p.transaction mode
    have sender : p.transaction.address = p.address := rfl
    have txId : ScriptedWallet.txIdFor p.transaction = p.txId := rfl
    simp only [s.bench.get_set, s.bench.set_set, sender, txId] at submitted
    simp only [Collaborators.dispatch, submitted, RenewalPlan.registered]
    have wallet : (p.made b).wallet = b.wallet := rfl
    have ledger : (p.made b).ledger = b.ledger := rfl
    simp only [wallet, ledger]
    by_cases refused : b.wallet.refuses.contains p.address
    · simp only [if_pos refused, Outcome.attempt_error, Outcome.chain_ok]
      rw [s.effect_giveUp_refused st p fresh]
      by_cases failing : b.store.failDeletes
      · simp only [if_pos failing]
      · simp only [if_neg failing]
    · obtain ⟨followed, -⟩ := ScriptedLedger.follow_followed p.txId mode b.ledger
      simp only [if_neg refused]
      generalize (ScriptedLedger.follow p.txId mode).effect b.ledger = last at followed ⊢
      obtain ⟨outcome, ledger'⟩ := last
      cases followed with
      | submitted => rfl
      | confirmed round => rfl
      | rejected reason => rfl
      | unanswered source => rfl
      | blocked => rfl
  | file path =>
    have exported := s.effect_writeUnsigned (s.bench.set st (p.made b)) p.transaction path
    have sender : p.transaction.address = p.address := rfl
    simp only [s.bench.get_set, s.bench.set_set, sender] at exported
    simp only [Collaborators.dispatch, exported, RenewalPlan.registered]
    have wallet : (p.made b).wallet = b.wallet := rfl
    have sink : (p.made b).sink = b.sink := rfl
    simp only [wallet, sink]
    by_cases blind : b.wallet.failLookups
    · simp only [if_pos blind]
      rfl
    by_cases readOnly : b.sink.failWrites
    · simp only [if_neg blind, if_pos readOnly]
      rfl
    · simp only [if_neg blind, if_neg readOnly]
      rfl

/-- The engine carries out the plan. -/
theorem renewAccount_effect (valid : p.Valid) (protocols : ProtocolRegistry)
    (config : EngineConfig) (target : DispatchTarget) :
    ((s.engine protocols config).renewAccount p.address p.snapshot p.horizon p.fee p.keyDilution
        target).effect st =
      ((p.result target (s.bench.get st)).1,
        s.bench.set st (p.result target (s.bench.get st)).2) := by
  have generated := s.effect_generate st p valid.ordered
  have registering : (s.engine protocols config).register p.snapshot p.fee target p.generated
      p.address = s.collaborators.dispatch p.transaction target := by
    unfold Engine.register
    rw [valid.builds]
    rfl
  simp only [Engine.renewAccount, Action.effect_bind _ _ st, Action.effect_attempt _ st]
  rw [show (s.engine protocols config).collaborators = s.collaborators from rfl, generated]
  unfold RenewalPlan.result
  by_cases failing : (s.bench.get st).store.failGenerationFor.contains p.address
  · simp only [if_pos failing]
    rfl
  by_cases taken : (s.bench.get st).store.credentials.contains p.handle
  · simp only [if_neg failing, if_pos taken]
    rfl
  simp only [if_neg failing, if_neg taken, Outcome.attempt_ok, Outcome.chain_ok, registering]
  exact s.effect_dispatch st p (Bool.not_eq_true _ ▸ taken) protocols config target

end Station

end KeyRenewal
