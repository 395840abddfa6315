import KeyRenewal.Proofs.Recording
import KeyRenewal.Proofs.RoundOrder

/-!
# Lifetimes of transactions

The rules in force say how many rounds the window of a transaction may span. Renewals and batches
ask for windows of just that many rounds. A status change asks for as many as its caller says, and
nothing compares the two.
-/

namespace KeyRenewal

open KeyRenewal.Action (RecordedAs)

variable {σ : Type}

/-- Moving forward covers the rounds asked for, or those there are up to the last one. -/
theorem Round.since_advance (first : Round) (rounds : UInt64) :
    (first.advance rounds).since first = min rounds.toNat (last.since first) := by
  have advanced := first.toNat_advance rounds
  have lastNumber : last.number.toNat = UInt64.size - 1 := rfl
  unfold since
  omega

namespace StatusTransaction

/-- The window is in order and spans at most so many rounds. -/
structure Within (rounds : UInt64) (t : StatusTransaction) : Prop where
  ordered : t.firstValid ≤ t.lastValid
  span : t.lastValid.since t.firstValid ≤ rounds.toNat

/-- The window starts in a round and spans so many rounds, or those there are up to the last one. -/
structure Lasts (first : Round) (rounds : UInt64) (t : StatusTransaction) : Prop where
  starts : t.firstValid = first
  ordered : t.firstValid ≤ t.lastValid
  span : t.lastValid.since t.firstValid = min rounds.toNat (Round.last.since first)

variable {first : Round} {rounds life : UInt64} {t : StatusTransaction}

theorem Lasts.within_iff (lasts : t.Lasts first rounds) :
    t.Within life ↔ min rounds.toNat (Round.last.since first) ≤ life.toNat := by
  rw [← lasts.span]
  constructor
  · exact Within.span
  · exact Within.mk lasts.ordered

theorem Lasts.within (lasts : t.Lasts first rounds) : t.Within rounds :=
  lasts.within_iff.mpr (Nat.min_le_left _ _)

/-- The transaction keeps to the lifetime in force. -/
def KeepsLifetime (snapshot : RoundSnapshot) (t : StatusTransaction) : Prop :=
  t.Within snapshot.parameters.maxTxnLife

end StatusTransaction

open StatusTransaction (KeepsLifetime)

theorem Engine.buildTransaction_lasts {address : Address} {credential : Option Credential}
    {first : Round} {rounds fee : UInt64} {t : StatusTransaction}
    (built : buildTransaction address credential first rounds fee = .ok t) :
    t.Lasts first rounds := by
  unfold buildTransaction StatusTransaction.build? at built
  by_cases none : rounds = 0
  · rw [if_pos none] at built
    cases built
  · rw [if_neg none] at built
    cases built
    exact ⟨rfl, first.le_advance rounds, first.since_advance rounds⟩

/-- The transaction spans the rounds that are asked for, and keeps to the lifetime in force just if
these do. -/
structure StatusChangeRequest.SpannedBy (request : StatusChangeRequest) (snapshot : RoundSnapshot)
    (t : StatusTransaction) : Prop where
  lasts : t.Lasts (request.firstRound snapshot) (request.length snapshot)
  keepsLifetime : t.KeepsLifetime snapshot ↔
    min (request.length snapshot).toNat (Round.last.since (request.firstRound snapshot)) ≤
      snapshot.parameters.maxTxnLife.toNat

namespace Engine

variable (e : Engine σ)

/-- What is handed over carries a transaction with a property that depends on the snapshot the
engine takes in a state. -/
def OnSnapshot (st : σ) (holds : RoundSnapshot → StatusTransaction → Prop)
    (handover : Handover) : Prop :=
  ∃ snapshot st', e.snapshot.effect st = (.ok snapshot, st') ∧ handover.Carries (holds snapshot)

variable {e} {st st' : σ} {snapshot : RoundSnapshot}

/-- Wherever a renewal has got to, what it hands over keeps to the lifetime of its snapshot. -/
theorem renewAccount_keepsLifetime (taken : e.snapshot.effect st = (.ok snapshot, st'))
    (address : Address) (lastValid : Round) (fee keyDilution : UInt64) (target : DispatchTarget)
    (here : σ) :
    RecordedAs (e.OnSnapshot st KeepsLifetime)
      (e.recorded.renewAccount address snapshot lastValid fee keyDilution target)
      (e.renewAccount address snapshot lastValid fee keyDilution target) here := by
  apply e.renewAccount_recorded
  intro generated _ t _ built handover carries
  refine ⟨snapshot, st', taken, carries.mono ?_⟩
  rintro _ rfl
  exact (buildTransaction_lasts built).within

variable (e)

theorem runSingleRenewal_keepsLifetime (request : RenewalRequest) (st : σ) :
    RecordedAs (e.OnSnapshot st KeepsLifetime) (e.recorded.runSingleRenewal request)
      (e.runSingleRenewal request) st := by
  apply e.runSingleRenewal_recorded
  intro snapshot _ taken _ here
  exact renewAccount_keepsLifetime taken _ _ _ _ _ here

theorem runBatchRenewal_keepsLifetime (request : BatchRequest) (st : σ) :
    RecordedAs (e.OnSnapshot (e.listCredentials.run st).state KeepsLifetime)
      (e.recorded.runBatchRenewal request) (e.runBatchRenewal request) st := by
  apply e.runBatchRenewal_recorded
  intro installed listed snapshot _ listEnds taken _ address here
  rw [(Action.run_of_effect listEnds).2]
  exact renewAccount_keepsLifetime taken address _ _ _ _ here

theorem chooseCredential_recorded {kind : Handover → Prop} (address : Address)
    (intent : StatusIntent) (st : σ) :
    RecordedAs kind (e.recorded.chooseCredential address intent) (e.chooseCredential address intent)
      st := by
  match intent with
  | .offline => exact .pure _
  | .online (some credential) => exact .pure _
  | .online none =>
    refine e.listCredentials_recorded.bind fun installed _ _ => ?_
    cases installed.latest.find? address with
    | some latest => exact .pure _
    | none => exact .fail _

/-- The rounds of a status change go into its transaction as they are asked for. -/
theorem changeOnlineStatus_spans (request : StatusChangeRequest) (st : σ) :
    RecordedAs (e.OnSnapshot st request.SpannedBy) (e.recorded.changeOnlineStatus request)
      (e.changeOnlineStatus request) st := by
  refine e.snapshot_recorded.bind fun snapshot taken ends => ?_
  refine (e.chooseCredential_recorded _ _ _).bind fun credential _ _ => ?_
  refine (RecordedAs.ofExcept _).bind fun t _ built => ?_
  have lasts := buildTransaction_lasts (Action.ok_of_effect_ofExcept built).1
  apply (e.collaborators.dispatch_recorded _).mono
  intro handover carries
  refine ⟨snapshot, taken, ends, carries.mono ?_⟩
  rintro _ rfl
  exact ⟨lasts, lasts.within_iff⟩

end Engine

/-- With any collaborators and in any state, whatever a renewal or a batch hands to the wallet or
the sink keeps to the lifetime of its snapshot. A batch takes it after listing the credentials. What
a status change hands over spans the rounds it is asked for, up to the last one, and keeps to the
lifetime only if these do. -/
theorem lifetimes_kept_by_renewals (e : Engine σ) (st : σ) :
    (∀ request, RecordedAs (e.OnSnapshot st KeepsLifetime)
      (e.recorded.runSingleRenewal request) (e.runSingleRenewal request) st) ∧
    (∀ request, RecordedAs (e.OnSnapshot (e.listCredentials.run st).state KeepsLifetime)
      (e.recorded.runBatchRenewal request) (e.runBatchRenewal request) st) ∧
    ∀ request : StatusChangeRequest, RecordedAs (e.OnSnapshot st request.SpannedBy)
      (e.recorded.changeOnlineStatus request) (e.changeOnlineStatus request) st := by
  refine ⟨fun request => ?_, fun request => ?_, fun request => ?_⟩
  · exact e.runSingleRenewal_keepsLifetime request st
  · exact e.runBatchRenewal_keepsLifetime request st
  · exact e.changeOnlineStatus_spans request st

/-- Asked for five thousand rounds where a thousand are allowed, a status change has a transaction
of five thousand rounds signed and accepted. -/
theorem lifetime_outlasted :
    let e := World.station.engine .testRules {}
    let before := World.ofBench (.startingAt ⟨100⟩ ScriptedLedger.testVersion)
    let snapshot : RoundSnapshot := ⟨⟨100⟩, ⟨ScriptedLedger.testVersion, 1000⟩⟩
    let leaving : StatusChangeRequest := ⟨⟨"A"⟩, .offline, none, some 5000, none,
      some .fireAndForget, none⟩
    let t : StatusTransaction := ⟨⟨"A"⟩, ⟨100⟩, ⟨5100⟩, 0, none⟩
    let after := ((e.recorded.changeOnlineStatus leaving).run (before, [])).state
    (e.snapshot.run before).outcome = .ok snapshot ∧ after.2 = [.signed t] ∧
      after.1.bench.wallet.submitted = [t] ∧ ¬ t.KeepsLifetime snapshot := by
  intro e before snapshot leaving t after
  refine ⟨by decide +kernel, by decide +kernel, by decide +kernel, fun kept => ?_⟩
  exact absurd kept.span (by decide)

end KeyRenewal
