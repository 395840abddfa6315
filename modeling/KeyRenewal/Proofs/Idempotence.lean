import KeyRenewal.Proofs.Accounting
import Mathlib.Data.List.Nodup

/-!
# Running a batch again

A batch that is run again with nothing changed in between looks at the same accounts, and what it does
with each of them is determined by what it did the first time: nothing where a key was left, and
another attempt where none was, unless the account has lapsed meanwhile.
-/

namespace KeyRenewal

variable {σ : Type}

/-- What becomes of an account in the second run, given the round of that run, the horizon, the round
in which the account's last credential ended before the first run, and the first row. -/
def Follows (current horizon last : Round) (second : AccountOutcome) : AccountOutcome → Prop
  | .alreadyCovered existing => second = .alreadyCovered existing
  | .needsManualRenewal existing => second = .needsManualRenewal existing
  | .renewed _ => second = .alreadyCovered horizon
  | .failed (.poolRejected ..) | .failed (.queryFailed _)
  | .failed (.registrationFailed _ none _) => second = .alreadyCovered horizon
  | .failed (.generationFailed _) | .failed (.registrationFailed _ (some _) _) =>
    if last < current then second = .needsManualRenewal last else second.isAttempt = true
  | .failed _ => False

namespace BatchTerms

variable {t : BatchTerms} {accounts : List GeneratedCredential} {results : List AccountResult}
  {b b' : Bench}

theorem Row.follows {latest : GeneratedCredential} {row second : AccountOutcome} {current : Round}
    (made : t.Row latest b row b') (later : t.snapshot.currentRound ≤ current)
    (decided : DecidedBy t.policy current t.horizon
      (if row.keepsKey then t.horizon else latest.credential.lastValid) second) :
    Follows current t.horizon latest.credential.lastValid second row := by
  have reached : t.horizon ≤ t.horizon := Round.le_refl _
  have first := made.decidedBy
  have again (attempted : row.isAttempt = true) (gone : row.keepsKey = false) :
      if latest.credential.lastValid < current then
        second = .needsManualRenewal latest.credential.lastValid
      else second.isAttempt = true := by
    obtain ⟨below, unlapsed⟩ := first.attempted.mp attempted
    rw [gone] at decided
    by_cases passed : latest.credential.lastValid < current
    · rw [if_pos passed]
      exact decided.lapsed.mpr ⟨below, Or.inr passed⟩
    · rw [if_neg passed]
      refine decided.attempted.mpr ⟨below, ?_⟩
      rintro (policy | expired)
      · exact unlapsed (Or.inl policy)
      · exact passed expired
  cases made with
  | covered => exact decided.covered.mpr (first.covered.mp rfl)
  | lapsed =>
    obtain ⟨below, why⟩ := first.lapsed.mp rfl
    refine decided.lapsed.mpr ⟨below, ?_⟩
    rcases why with policy | expired
    · exact Or.inl policy
    · exact Or.inr (Round.lt_of_lt_of_le expired later)
  | renewed _ course => exact decided.covered.mpr reached
  | failed _ course =>
    cases course with
    | notMade _ source => exact again rfl rfl
    | rolledBack mode source fresh => exact again rfl rfl
    | leftBehind mode source fresh failing => exact decided.covered.mpr reached
    | sent mode fresh accepted progress =>
      cases accepted with
      | rejected reason => exact decided.covered.mpr reached
      | unanswered source => exact decided.covered.mpr reached

/-- Where the last credential of an account ends after a batch, given its row. -/
theorem Completed.endsIn (completed : t.Completed accounts b results b')
    (distinct : (results.map (·.address)).Nodup) {row : AccountResult} (there : row ∈ results)
    {last : Round} (ends : b.store.credentials.EndsIn row.address last)
    (short : row.outcome.keepsKey = true → last < t.horizon) :
    b'.store.credentials.EndsIn row.address
      (if row.outcome.keepsKey then t.horizon else last) := by
  obtain ⟨⟨x, hx, owns, rfl⟩, greatest⟩ := ends
  cases keeps : row.outcome.keepsKey with
  | true =>
    refine ⟨⟨_, completed.key_installed there keeps, rfl, rfl⟩, ?_⟩
    intro e he mine
    rcases completed.mem_credentials distinct there he mine with ⟨-, rfl⟩ | old
    · exact Round.le_refl _
    · exact Round.le_of_lt (Round.lt_of_le_of_lt (greatest e old mine) (short keeps))
  | false =>
    refine ⟨⟨x, completed.tally.mem_of_mem hx, owns, rfl⟩, ?_⟩
    intro e he mine
    rcases completed.mem_credentials distinct there he mine with ⟨kept, -⟩ | old
    · rw [keeps] at kept
      cases kept
    · exact greatest e old mine

/-- A batch makes keys only for accounts that have some. -/
theorem Completed.owners_iff
    (completed : t.Completed b.store.credentials.latest.values b results b') {address : Address} :
    (∃ e ∈ b'.store.credentials.toList, e.2.address = address) ↔
      ∃ e ∈ b.store.credentials.toList, e.2.address = address := by
  have tally := completed.tally
  constructor
  · rintro ⟨e, he, owns⟩
    rcases List.mem_append.mp (tally.credentials.mem_iff.mp he) with new | old
    · obtain ⟨address', chosen, rfl⟩ := List.mem_map.mp new
      obtain ⟨row, kept, rfl⟩ := List.mem_map.mp chosen
      have listed : row.address ∈ results.map (·.address) :=
        List.mem_map_of_mem (List.mem_filter.mp kept).1
      rw [completed.addresses] at listed
      rw [← owns]
      exact Keyring.mem_latest_iff.mp listed
    · exact ⟨e, old, owns⟩
  · rintro ⟨e, he, owns⟩
    exact ⟨e, tally.mem_of_mem he, owns⟩

/-- A batch that attempts nothing changes nothing. -/
theorem Completed.idle (completed : t.Completed accounts b results b')
    (skipped : ∀ row ∈ results, row.outcome.isAttempt = false) : b' = b := by
  induction completed with
  | nil b => rfl
  | @cons latest rest b b₁ b₂ row rows first later ih =>
    have unchanged : b₁ = b := by
      have skip : row.isAttempt = false := skipped ⟨_, row⟩ List.mem_cons_self
      cases first with
      | covered | lapsed => rfl
      | renewed | failed => cases skip
    rw [ih (fun row' there => skipped row' (List.mem_cons_of_mem _ there)), unchanged]

end BatchTerms

theorem Follows.skipped {current horizon last : Round} {first second : AccountOutcome}
    (follows : Follows current horizon last second first) (fine : first.isFailed = false) :
    second.isAttempt = false := by
  cases first with
  | alreadyCovered | needsManualRenewal | renewed =>
    rw [show second = _ from follows]
    rfl
  | failed => cases fine

/-- What a second run reports, given the bench before the first run: the same accounts in the same
order, and each row follows from the account's first one. -/
structure Rerun (before : Bench) (horizon : Round) (report report' : BatchReport) : Prop where
  accounts : report'.results.map (·.address) = report.results.map (·.address)
  rows : ∀ row ∈ report.results, ∀ row' ∈ report'.results, row'.address = row.address →
    ∃ last, before.store.credentials.EndsIn row.address last ∧
      Follows report'.currentRound horizon last row'.outcome row.outcome

/-- A second run with nothing changed in between follows the first, and it changes nothing at all if
no account failed in the first. -/
theorem batch_idempotent (s : Station σ) (protocols : ProtocolRegistry) (config : EngineConfig)
    (request : BatchRequest) (st : σ) (report report' : BatchReport)
    (first : (((s.engine protocols config).runBatchRenewal request).run st).outcome = .ok report)
    (second : (((s.engine protocols config).runBatchRenewal request).run
      (((s.engine protocols config).runBatchRenewal request).run st).state).outcome = .ok report') :
    Rerun (s.bench.get st) request.lastValid report report' ∧
    ((∀ row ∈ report.results, row.outcome.isFailed = false) →
      (((s.engine protocols config).runBatchRenewal request).run
        (((s.engine protocols config).runBatchRenewal request).run st).state).state =
      (((s.engine protocols config).runBatchRenewal request).run st).state) := by
  obtain ⟨snapshot, b₁, taken, -, -, completed, state⟩ :=
    s.runBatchRenewal_completed protocols config request first
  obtain ⟨snapshot', b₂, taken', -, current', completed', state'⟩ :=
    s.runBatchRenewal_completed protocols config request second
  rw [state, s.bench.get_set] at taken' current' completed'
  have sorted : (report.results.map (·.address)).Pairwise (compare · · = .lt) :=
    completed.addresses ▸ Keyring.sorted_latest _
  have sorted' : (report'.results.map (·.address)).Pairwise (compare · · = .lt) :=
    completed'.addresses ▸ Keyring.sorted_latest _
  have accounts : report'.results.map (·.address) = report.results.map (·.address) := by
    refine OrderedMap.eq_of_same_members sorted' sorted ?_
    intro address
    rw [completed.addresses, completed'.addresses, Keyring.mem_latest_iff, Keyring.mem_latest_iff]
    exact completed.owners_iff
  have rows : ∀ row ∈ report.results, ∀ row' ∈ report'.results, row'.address = row.address →
      ∃ last, (s.bench.get st).store.credentials.EndsIn row.address last ∧
        Follows report'.currentRound request.lastValid last row'.outcome row.outcome := by
    intro row there row' there' same
    obtain ⟨latest, listed, owner, _, _, made⟩ := completed.row row there
    obtain ⟨latest', listed', owner', _, _, made'⟩ := completed'.row row' there'
    have ends : (s.bench.get st).store.credentials.EndsIn row.address
        latest.credential.lastValid := owner ▸ Keyring.latest_endsIn listed
    have ends' : b₁.store.credentials.EndsIn row.address latest'.credential.lastValid := by
      rw [← same, ← owner']
      exact Keyring.latest_endsIn listed'
    have expected := completed.endsIn (sorted.imp OrderedMap.ne_of_compare_lt) there ends
      (fun keeps => (made.decidedBy.attempted.mp (AccountOutcome.isAttempt_of_keepsKey keeps)).1)
    have decided' := made'.decidedBy
    rw [ends'.unique expected, show (request.terms config snapshot').snapshot.currentRound =
      report'.currentRound from (ScriptedLedger.snapshot_round taken').1.trans current'.symm]
      at decided'
    refine ⟨_, ends, made.follows ?_ decided'⟩
    rw [current', show (request.terms config snapshot).snapshot.currentRound =
      (s.bench.get st).ledger.round from (ScriptedLedger.snapshot_round taken).1]
    exact completed.tally.ledger.round
  refine ⟨⟨accounts, rows⟩, ?_⟩
  intro fine
  have skipped : ∀ row' ∈ report'.results, row'.outcome.isAttempt = false := by
    intro row' there'
    have listed : row'.address ∈ report.results.map (·.address) :=
      accounts ▸ List.mem_map_of_mem there'
    obtain ⟨row, there, same⟩ := List.mem_map.mp listed
    obtain ⟨last, -, follows⟩ := rows row there row' there' same.symm
    exact follows.skipped (fine row there)
  rw [state', completed'.idle skipped, state, s.bench.set_set]

def BatchReport.againOfThreeAccounts : BatchReport where
  horizon := ⟨5000⟩
  currentRound := ⟨100⟩
  results := [
    ⟨⟨"A"⟩, .alreadyCovered ⟨5000⟩⟩,
    ⟨⟨"B"⟩, .alreadyCovered ⟨6000⟩⟩,
    ⟨⟨"C"⟩, .needsManualRenewal ⟨50⟩⟩]

/-- The account whose new key was left behind is covered by it in the second run. -/
theorem batch_idempotent_of_three :
    Rerun .threeAccounts ⟨5000⟩ .ofThreeAccounts .againOfThreeAccounts :=
  (batch_idempotent World.station .testRules .leavingExpired ⟨⟨5000⟩, none, none, none⟩
    (.ofBench .threeAccounts) .ofThreeAccounts .againOfThreeAccounts (by decide +kernel)
    (by decide +kernel)).1

end KeyRenewal
