import KeyRenewal.Proofs.Recording

/-!
# Renewals answered for

Over whatever collaborators, an engine that answers with a renewal has handed the registration of
its credential to the wallet or to the sink. A batch has done so for every row that says renewed.
-/

namespace KeyRenewal

variable {σ : Type}

/-- The transaction brings the account of a renewal online with its credential. -/
structure StatusTransaction.Registers (renewal : Renewal) (t : StatusTransaction) : Prop where
  address : t.address = renewal.address
  credential : t.registration = some renewal.credential.credential.registration

/-- The registration of a renewal is in the record. -/
def HandedOver (record : List Handover) (renewal : Renewal) : Prop :=
  ∃ handover ∈ record, handover.Carries (StatusTransaction.Registers renewal)

/-- The renewals a batch reports. -/
def BatchReport.renewals (report : BatchReport) : List Renewal :=
  report.results.filterMap fun row =>
    match row.outcome with
    | .renewed renewal => some renewal
    | _ => none

namespace Action

variable {ρ ε ε' α : Type} {s s' : σ × List ρ} {o : Outcome ε α}

/-- What runs beside the record leaves it alone. -/
theorem record_of_focus {a : Action σ ε α} (ends : (a.focus .unrecorded).effect s = (o, s')) :
    s'.2 = s.2 := by
  cases ends
  rfl

/-- What is noted stays noted, however the action ends. -/
theorem record_of_noted {entry : ρ} {a : Action σ ε α}
    (ends : Action.effect (do note entry; a.focus .unrecorded) s = (o, s')) :
    s'.2 = s.2 ++ [entry] := by
  rw [effect_bind, note, effect_modify, Outcome.chain_ok] at ends
  exact record_of_focus ends

end Action

open KeyRenewal.Action (effect_bind_eq_ok effect_of_mapError_ok effect_of_attempt_ok
  ok_of_effect_ofExcept ok_of_effect_pure state_of_effect_log record_of_focus record_of_noted)

namespace Collaborators

variable {c : Collaborators σ} {t : StatusTransaction} {s s' : σ × List Handover}
  {d : DispatchOutcome}

theorem submit_handed {mode : WaitMode}
    (ends : (c.recorded.submit t mode).effect s = (.ok d, s')) : .signed t ∈ s'.2 := by
  obtain ⟨txId, _, signed, sent⟩ := effect_bind_eq_ok ends
  obtain ⟨_, s₁, logged, followed⟩ := effect_bind_eq_ok sent
  obtain rfl := state_of_effect_log logged
  have there : .signed t ∈ s₁.2 := by
    rw [record_of_noted (effect_of_mapError_ok signed)]
    exact List.mem_append_right _ List.mem_cons_self
  cases mode with
  | fireAndForget =>
    obtain ⟨_, _, logged, answered⟩ := effect_bind_eq_ok followed
    obtain rfl := state_of_effect_log logged
    obtain ⟨-, rfl⟩ := ok_of_effect_pure answered
    exact there
  | waitForConfirmation =>
    obtain ⟨start, s₂, asked, started⟩ := effect_bind_eq_ok followed
    obtain ⟨round, s₃, awaited, answered⟩ := effect_bind_eq_ok started
    obtain ⟨-, rfl⟩ := ok_of_effect_pure answered
    rw [show c.recorded.ledger = c.ledger.focus .unrecorded from rfl,
      Ledger.awaitConfirmation_focus] at awaited
    rw [record_of_focus awaited, record_of_focus (effect_of_mapError_ok asked)]
    exact there

theorem writeUnsigned_handed {path : Path}
    (ends : (c.recorded.writeUnsigned t path).effect s = (.ok d, s')) :
    ∃ sender, .written path (Envelope.unsigned t sender).toCbor ∈ s'.2 := by
  obtain ⟨sender, s₁, looked, found⟩ := effect_bind_eq_ok ends
  obtain ⟨_, s₂, put, wrote⟩ := effect_bind_eq_ok found
  obtain ⟨_, _, logged, answered⟩ := effect_bind_eq_ok wrote
  obtain rfl := state_of_effect_log logged
  obtain ⟨-, rfl⟩ := ok_of_effect_pure answered
  rw [record_of_noted (effect_of_mapError_ok put)]
  exact ⟨sender, List.mem_append_right _ List.mem_cons_self⟩

theorem dispatch_handed {target : DispatchTarget}
    (ends : (c.recorded.dispatch t target).effect s = (.ok d, s')) :
    ∃ handover ∈ s'.2, handover.Carries (· = t) := by
  cases target with
  | submit mode => exact ⟨_, submit_handed ends, .signed rfl⟩
  | file path =>
    obtain ⟨sender, there⟩ := writeUnsigned_handed ends
    exact ⟨_, there, .written path sender rfl⟩

end Collaborators

theorem Engine.buildTransaction_registers {address : Address} {generated : GeneratedCredential}
    {firstValid : Round} {validRounds fee : UInt64} {t : StatusTransaction} {d : DispatchOutcome}
    (built : Engine.buildTransaction address (some generated.credential) firstValid validRounds
      fee = .ok t) : t.Registers ⟨address, generated, d⟩ := by
  unfold Engine.buildTransaction StatusTransaction.build? at built
  by_cases none : validRounds = 0
  · simp [none] at built
  · simp only [if_neg none] at built
    cases built
    exact ⟨rfl, rfl⟩

namespace Engine

/-- Giving up is no answer. -/
theorem giveUp_ne_ok {e : Engine σ} {st st' : σ} {attempt : RenewalAttempt} {error : RenewalError}
    {α : Type} {value : α} : (e.giveUp attempt error).effect st ≠ (.ok value, st') := by
  intro ends
  obtain ⟨_, _, _, failing⟩ := effect_bind_eq_ok ends
  cases failing

variable {e : Engine σ} {s s' : σ × List Handover} {renewal : Renewal}

theorem renewAccount_handed {address : Address} {snapshot : RoundSnapshot} {lastValid : Round}
    {fee keyDilution : UInt64} {target : DispatchTarget}
    (ends : (e.recorded.renewAccount address snapshot lastValid fee keyDilution target).effect s =
      (.ok renewal, s')) : HandedOver s'.2 renewal := by
  obtain ⟨answer, s₁, generating, generated⟩ := effect_bind_eq_ok ends
  cases answer with
  | error error => exact absurd generated giveUp_ne_ok
  | ok credential =>
    obtain ⟨answer, s₂, registering, registered⟩ := effect_bind_eq_ok generated
    cases answer with
    | error error => exact absurd registered giveUp_ne_ok
    | ok dispatch =>
      obtain ⟨rfl, rfl⟩ := ok_of_effect_pure registered
      obtain ⟨t, s₃, built, dispatched⟩ := effect_bind_eq_ok (effect_of_attempt_ok registering)
      obtain ⟨handover, there, carries⟩ := Collaborators.dispatch_handed dispatched
      refine ⟨handover, there, carries.mono fun t' same => ?_⟩
      exact same ▸ buildTransaction_registers (ok_of_effect_ofExcept built).1

theorem runSingleRenewal_handed {request : RenewalRequest}
    (ends : (e.recorded.runSingleRenewal request).effect s = (.ok renewal, s')) :
    HandedOver s'.2 renewal := by
  obtain ⟨snapshot, s₁, taken, checking⟩ := effect_bind_eq_ok ends
  obtain ⟨_, s₂, passed, listing⟩ := effect_bind_eq_ok checking
  obtain ⟨installed, s₃, listed, renewing⟩ := effect_bind_eq_ok listing
  cases covered : installed.coverage? request.address request.lastValid with
  | some existing =>
    rw [covered] at renewing
    cases renewing
  | none =>
    rw [covered] at renewing
    exact renewAccount_handed renewing

theorem renewIfDue_handed {request : BatchRequest} {snapshot : RoundSnapshot}
    {latest : GeneratedCredential} {row : AccountResult}
    (ends : (e.recorded.renewIfDue request snapshot latest).effect s = (.ok row, s'))
    (renewed : row.outcome = .renewed renewal) : HandedOver s'.2 renewal := by
  unfold renewIfDue at ends
  dsimp only at ends
  cases decided : e.recorded.config.lapsePolicy.classify latest.credential.lastValid
      snapshot.currentRound request.lastValid with
  | alreadyCovered | needsManualRenewal =>
    rw [decided] at ends
    obtain ⟨_, _, _, answered⟩ := effect_bind_eq_ok ends
    obtain ⟨rfl, -⟩ := ok_of_effect_pure answered
    cases renewed
  | renew =>
    rw [decided] at ends
    obtain ⟨answer, s₁, renewing, done⟩ := effect_bind_eq_ok ends
    cases answer with
    | ok renewal' =>
      obtain ⟨rfl, rfl⟩ := ok_of_effect_pure done
      cases renewed
      exact renewAccount_handed (effect_of_attempt_ok renewing)
    | error error =>
      obtain ⟨_, _, _, answered⟩ := effect_bind_eq_ok done
      obtain ⟨rfl, -⟩ := ok_of_effect_pure answered
      cases renewed

/-- Dealing with the later accounts of a batch takes nothing out of the record. -/
theorem renewDue_kept {request : BatchRequest} {snapshot : RoundSnapshot}
    {accounts : List GeneratedCredential} {o : Outcome RenewalError (List AccountResult)}
    (ends : (e.recorded.renewDue request snapshot accounts).effect s = (o, s'))
    (handed : HandedOver s.2 renewal) : HandedOver s'.2 renewal := by
  have renewals : e.RenewalsRecorded (fun _ => True) request snapshot :=
    fun address st => e.renewAccount_recorded _ _ _ _ _ _ fun _ _ _ _ _ _ _ => trivial
  obtain ⟨handover, there, carries⟩ := handed
  exact ⟨handover, (e.renewDue_recorded renewals accounts).kept ends there, carries⟩

theorem renewDue_handed {request : BatchRequest} {snapshot : RoundSnapshot}
    {accounts : List GeneratedCredential} {rows : List AccountResult}
    (ends : (e.recorded.renewDue request snapshot accounts).effect s = (.ok rows, s')) :
    ∀ row ∈ rows, ∀ renewal, row.outcome = .renewed renewal → HandedOver s'.2 renewal := by
  induction accounts generalizing s rows with
  | nil =>
    obtain ⟨rfl, rfl⟩ := ok_of_effect_pure ends
    exact List.forall_mem_nil _
  | cons latest rest ih =>
    obtain ⟨row, s₁, first, dealt⟩ := effect_bind_eq_ok ends
    obtain ⟨others, s₂, later, answered⟩ := effect_bind_eq_ok dealt
    obtain ⟨rfl, rfl⟩ := ok_of_effect_pure answered
    intro row' listed renewal renewed
    rcases List.mem_cons.mp listed with rfl | listed
    · exact renewDue_kept later (renewIfDue_handed first renewed)
    · exact ih later row' listed renewal renewed

theorem runBatchRenewal_handed {request : BatchRequest} {report : BatchReport}
    (ends : (e.recorded.runBatchRenewal request).effect s = (.ok report, s')) :
    ∀ renewal ∈ report.renewals, HandedOver s'.2 renewal := by
  obtain ⟨installed, s₁, listed, snapping⟩ := effect_bind_eq_ok ends
  obtain ⟨snapshot, s₂, taken, checking⟩ := effect_bind_eq_ok snapping
  obtain ⟨_, s₃, passed, starting⟩ := effect_bind_eq_ok checking
  obtain ⟨_, s₄, started, dealing⟩ := effect_bind_eq_ok starting
  obtain ⟨rows, s₅, dealt, finishing⟩ := effect_bind_eq_ok dealing
  obtain ⟨_, s₆, finished, answered⟩ := effect_bind_eq_ok finishing
  obtain rfl := state_of_effect_log finished
  obtain ⟨rfl, rfl⟩ := ok_of_effect_pure answered
  intro renewal reported
  obtain ⟨row, there, renewed⟩ := List.mem_filterMap.mp reported
  refine renewDue_handed dealt row there renewal ?_
  cases outcome : row.outcome <;> simp_all

end Engine

end KeyRenewal
