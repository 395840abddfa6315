import KeyRenewal.Proofs.Cancellation
import KeyRenewal.Proofs.Settling

/-!
# Two ways to find an account covered

A single renewal looks for the greatest of the account's credentials that reach the horizon, a batch
asks whether the account's latest credential reaches it. Both come to the same answer, and both are
refused for the same reasons, although the one lists the credentials after it has checked its window
and the other before.
-/

namespace KeyRenewal

variable {σ : Type}

/-- A row calls an account covered exactly if its latest credential reaches the horizon, and then
says where that ends. -/
def AccountOutcome.Reports (horizon existing : Round) (row : AccountOutcome) : Prop :=
  ∀ last, row = .alreadyCovered last ↔ horizon ≤ existing ∧ existing = last

/-- The rows of accounts given by their latest credentials. -/
inductive Reported (horizon : Round) : List GeneratedCredential → List AccountResult → Prop
  | nil : Reported horizon [] []
  | cons {latest : GeneratedCredential} {rest : List GeneratedCredential} {row : AccountOutcome}
    {rows : List AccountResult} (first : row.Reports horizon latest.credential.lastValid)
    (later : Reported horizon rest rows) :
    Reported horizon (latest :: rest) (⟨latest.credential.address, row⟩ :: rows)

namespace Reported

variable {horizon : Round} {accounts : List GeneratedCredential} {rows : List AccountResult}

theorem addresses (reported : Reported horizon accounts rows) :
    rows.map (·.address) = accounts.map (·.credential.address) := by
  induction reported with
  | nil => rfl
  | cons first later ih => exact congrArg (_ :: ·) ih

theorem row (reported : Reported horizon accounts rows) {row : AccountResult} (there : row ∈ rows) :
    ∃ latest ∈ accounts, latest.credential.address = row.address ∧
      row.outcome.Reports horizon latest.credential.lastValid := by
  induction reported with
  | nil => exact absurd there List.not_mem_nil
  | @cons latest rest _ _ first later ih =>
    rcases List.mem_cons.mp there with rfl | there
    · exact ⟨latest, List.mem_cons_self, rfl, first⟩
    · obtain ⟨latest', listed, same, reports⟩ := ih there
      exact ⟨latest', List.mem_cons_of_mem _ listed, same, reports⟩

/-- The row of an account calls it covered exactly if some credential of it reaches the horizon. -/
theorem outcome?_iff {keys : Keyring} {report : BatchReport}
    (reported : Reported horizon keys.latest.values report.results) (address : Address)
    (last : Round) :
    report.outcome? address = some (.alreadyCovered last) ↔
      keys.coverage? address horizon = some last := by
  rw [Keyring.coverage?_eq_some_iff]
  constructor
  · intro found
    obtain ⟨row, picked, covered⟩ := Option.map_eq_some_iff.mp found
    obtain ⟨latest, listed, owner, reports⟩ := reported.row (List.mem_of_find?_eq_some picked)
    obtain ⟨reaches, rfl⟩ := (reports last).mp covered
    have mine : row.address = address := by simpa using List.find?_some picked
    exact ⟨mine ▸ owner ▸ Keyring.latest_endsIn listed, reaches⟩
  · rintro ⟨ends, reaches⟩
    refine BatchReport.outcome?_eq_some ?_ fun row there mine => ?_
    · obtain ⟨e, installed, mine, -⟩ := ends.1
      rw [reported.addresses]
      exact Keyring.mem_latest_iff.mpr ⟨e, installed, mine⟩
    · obtain ⟨latest, listed, owner, reports⟩ := reported.row there
      have same := (Keyring.latest_endsIn listed).unique (owner.trans mine ▸ ends)
      exact (reports last).mpr ⟨same ▸ reaches, same⟩

end Reported

namespace Engine

variable {inv : σ → Prop} {e : Engine σ} (settle : e.collaborators.Settle inv)
  (request : BatchRequest) (snapshot : RoundSnapshot)

include settle

/-- Whatever becomes of an account, it gets its row. -/
theorem renewIfDue_settled (latest : GeneratedCredential) {st : σ} (holds : inv st) :
    ∃ row st', (e.renewIfDue request snapshot latest).effect st =
        (.ok ⟨latest.credential.address, row⟩, st') ∧
      row.Reports request.lastValid latest.credential.lastValid ∧ inv st' := by
  obtain ⟨covered, lapsed, renew⟩ := e.config.lapsePolicy.classify_cases
    latest.credential.lastValid snapshot.currentRound request.lastValid
  unfold renewIfDue
  dsimp only
  cases decided : e.config.lapsePolicy.classify latest.credential.lastValid snapshot.currentRound
    request.lastValid with
  | alreadyCovered =>
    refine ⟨_, st, rfl, fun last => ?_, holds⟩
    simp [covered.mp decided]
  | needsManualRenewal =>
    refine ⟨_, st, rfl, fun last => ?_, holds⟩
    simp [Round.not_le.mpr (lapsed.mp decided).1]
  | renew =>
    have short := Round.not_le.mpr (renew.mp decided).1
    have answered := renewAccount_settles settle latest.credential.address snapshot
      request.lastValid (e.config.feeOr request.fee) (e.config.dilutionOr request.keyDilution)
      (.submit (e.config.waitModeOr request.waitMode)) st holds
    simp only [Action.effect_bind, Action.effect_attempt]
    generalize (e.renewAccount _ _ _ _ _ _).effect st = left at answered ⊢
    cases answered with
    | ok holds => exact ⟨_, _, rfl, fun last => by simp [short], holds⟩
    | error known holds => exact ⟨_, _, rfl, fun last => by simp [short], holds⟩

/-- Every account gets its row, whatever becomes of those before it. -/
theorem renewDue_settled (accounts : List GeneratedCredential) {st : σ} (holds : inv st) :
    ∃ rows st', (e.renewDue request snapshot accounts).effect st = (.ok rows, st') ∧
      Reported request.lastValid accounts rows := by
  induction accounts generalizing st with
  | nil => exact ⟨[], st, rfl, .nil⟩
  | cons latest rest ih =>
    obtain ⟨row, st₁, dealt, first, holds⟩ :=
      renewIfDue_settled settle request snapshot latest holds
    obtain ⟨rows, st₂, others, later⟩ := ih holds
    refine ⟨⟨_, row⟩ :: rows, st₂, ?_, .cons first later⟩
    simp only [renewDue, Action.effect_bind, dealt, Outcome.chain_ok, others, Action.effect_pure]

end Engine

/-- How a single renewal of an account and a batch up to the same horizon go together: the one finds
the account covered exactly if the other reports it as covered, in the same round, and both are
refused for want of rounds, of rules or of a usable configuration alike. -/
structure CheckedAlike (address : Address) (horizon : Round) (single : Outcome RenewalError Renewal)
    (batch : Outcome RenewalError BatchReport) : Prop where
  covered : ∀ requested last, single = .error (.existingCredential requested last) ↔
    requested = horizon ∧ ∃ report, batch = .ok report ∧
      report.outcome? address = some (.alreadyCovered last)
  tooShort : ∀ requested current maxTxnLife,
    single = .error (.windowTooShort requested current maxTxnLife) ↔
      batch = .error (.windowTooShort requested current maxTxnLife)
  unknownProtocol : ∀ version,
    single = .error (.unknownProtocol version) ↔ batch = .error (.unknownProtocol version)
  config : ∀ error, single = .error (.config error) ↔ batch = .error (.config error)

namespace CheckedAlike

variable {address : Address} {horizon : Round}

/-- Both are refused with the same failure. -/
theorem of_refused {error : RenewalError}
    (known : ∀ requested existing, error ≠ .existingCredential requested existing) :
    CheckedAlike address horizon (.error error) (.error error) where
  covered requested last := by simp [known]
  tooShort _ _ _ := by simp
  unknownProtocol _ := by simp
  config _ := by simp

theorem of_covered {report : BatchReport} {last : Round}
    (row : report.outcome? address = some (.alreadyCovered last)) :
    CheckedAlike address horizon (.error (.existingCredential horizon last)) (.ok report) where
  covered requested existing := by simp [row, eq_comm]
  tooShort _ _ _ := by simp
  unknownProtocol _ := by simp
  config _ := by simp

/-- The single renewal has begun, and so is not refused. -/
theorem of_begun {outcome : Outcome RenewalError Renewal} {report : BatchReport}
    (begun : ∀ error, outcome = .error error → error.isRefusal = false)
    (row : ∀ last, report.outcome? address ≠ some (.alreadyCovered last)) :
    CheckedAlike address horizon outcome (.ok report) where
  covered requested existing := by
    constructor
    · intro refused
      cases begun _ refused
    · rintro ⟨-, _, ⟨⟩, covered⟩
      exact absurd covered (row existing)
  tooShort _ _ _ := iff_of_false (fun refused => nomatch begun _ refused) nofun
  unknownProtocol _ := iff_of_false (fun refused => nomatch begun _ refused) nofun
  config _ := iff_of_false (fun refused => nomatch begun _ refused) nofun

end CheckedAlike

/-- On collaborators that settle, a renewal and a batch up to the same horizon check alike. -/
theorem Engine.checked_alike {inv : σ → Prop} {e : Engine σ} (settle : e.collaborators.Settle inv)
    {st : σ} (holds : inv st) {keys : Keyring}
    (listed : e.listCredentials.effect st = (.ok keys, st)) {single : RenewalRequest}
    {batch : BatchRequest} (same : batch.lastValid = single.lastValid) :
    CheckedAlike single.address single.lastValid ((e.runSingleRenewal single).effect st).1
      ((e.runBatchRenewal batch).effect st).1 := by
  have taken := snapshot_settles settle st st rfl
  rw [runSingleRenewal, runBatchRenewal, Action.effect_within, Action.effect_within,
    Action.effect_bind, Action.effect_bind, listed, Outcome.chain_ok, Action.effect_bind]
  generalize e.snapshot.effect st = looked at taken ⊢
  cases taken with
  | error known left => exact .of_refused known
  | @ok snapshot st left =>
    subst left
    simp only [Outcome.chain_ok, Action.effect_bind, Action.effect_ofExcept, same]
    cases window : checkWindow snapshot.currentRound single.lastValid
      snapshot.parameters.maxTxnLife with
    | error error =>
      refine .of_refused fun requested existing => ?_
      unfold checkWindow at window
      split at window <;> cases window
      simp
    | ok =>
      obtain ⟨rows, st', dealt, reported⟩ :=
        renewDue_settled settle batch snapshot keys.latest.values holds
      rw [same] at reported
      let report : BatchReport := ⟨single.lastValid, snapshot.currentRound, rows⟩
      have row : ∀ last, report.outcome? single.address = some (.alreadyCovered last) ↔
          keys.coverage? single.address single.lastValid = some last :=
        Reported.outcome?_iff reported single.address
      simp only [Outcome.ofExcept_ok, Outcome.chain_ok, Action.effect_log, listed, dealt,
        Action.effect_pure]
      cases covered : keys.coverage? single.address single.lastValid with
      | some existing => exact .of_covered ((row existing).mpr covered)
      | none =>
        refine .of_begun ?_ fun last => ?_
        · intro error refused
          have ended := renewAccount_settles settle single.address snapshot single.lastValid
            (e.config.feeOr single.fee) (e.config.dilutionOr single.keyDilution)
            (.choose single.exportPath (e.config.waitModeOr single.waitMode)) st holds
          dsimp only at refused
          generalize (e.renewAccount _ _ _ _ _ _).effect st = left at ended refused
          cases ended with
          | ok => cases refused
          | error known =>
            cases refused
            exact known
        · intro called
          cases covered.symm.trans ((row last).mp called)

/-- The two checks of an account's coverage agree, whatever the engine is put together from, as long
as the credentials can be listed and no wait hangs. -/
theorem coverage_checks_agree {folder : Option KeyFolder} {toFiles : Bool}
    {protocols : Option ProtocolRegistry} {config : EngineConfig} {e : Engine World}
    (built : (World.station.parts folder toFiles protocols config).assemble = .ok e) (w : World)
    (moves : w.bench.ledger.hangWaits = false) {keys : Keyring}
    (listed : (e.listCredentials.run w).outcome = .ok keys) (single : RenewalRequest)
    (batch : BatchRequest) (same : batch.lastValid = single.lastValid) :
    CheckedAlike single.address single.lastValid ((e.runSingleRenewal single).run w).outcome
      ((e.runBatchRenewal batch).run w).outcome := by
  obtain ⟨registry, rfl⟩ := World.engine_of_assemble built
  let e : Engine World := ⟨World.collaborators folder toFiles, registry, config⟩
  have settle : e.collaborators.Settle World.Moves := World.collaborators_settle folder toFiles
  have looked := World.listCredentials_settles folder toFiles registry config w w rfl
  have still : e.listCredentials.effect w = (.ok keys, w) := by
    change (e.listCredentials.effect w).1 = _ at listed
    change Settled _ _ (e.listCredentials.effect w) at looked
    generalize e.listCredentials.effect w = left at looked listed ⊢
    cases looked with
    | ok same =>
      cases listed
      rw [same]
    | error => cases listed
  exact Engine.checked_alike settle moves still same

/-- An account that is covered beyond the horizon, by a credential that is not its only one. -/
def Bench.coveredTwice : Bench :=
  { Bench.threeAccounts with
    store := { Bench.threeAccounts.store with
      credentials := Bench.threeAccounts.store.credentials.insert ⟨"d"⟩ (.until ⟨"B"⟩ ⟨7000⟩) } }

/-- Both name the round in which the last credential of the account ends. -/
theorem coverage_checks_agree_twice :
    let e := World.station.engine .testRules .leavingExpired
    let single := (e.runSingleRenewal ⟨⟨"B"⟩, ⟨5000⟩, none, none, none, none⟩).run
      (.ofBench .coveredTwice)
    let batch := (e.runBatchRenewal ⟨⟨5000⟩, none, none, none⟩).run (.ofBench .coveredTwice)
    single.outcome = .error (.existingCredential ⟨5000⟩ ⟨7000⟩) ∧
      CheckedAlike ⟨"B"⟩ ⟨5000⟩ single.outcome batch.outcome := by
  have built : (World.station.parts none false (some .testRules) .leavingExpired).assemble =
      .ok (World.station.engine .testRules .leavingExpired) := rfl
  exact ⟨by decide +kernel, coverage_checks_agree built (.ofBench .coveredTwice) rfl rfl
    ⟨⟨"B"⟩, ⟨5000⟩, none, none, none, none⟩ ⟨⟨5000⟩, none, none, none⟩ rfl⟩

end KeyRenewal
