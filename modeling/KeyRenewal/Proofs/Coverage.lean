import KeyRenewal.Proofs.Idempotence

/-!
# Rounds without a valid credential

A batch that renews an account leaves it a credential that is valid from the round of the batch to
the horizon. An account that is reported as covered is left as it is: its latest credential reaches
the horizon, but where that begins is not looked at, so that there may be rounds before it in which
the account has no valid credential.
-/

namespace KeyRenewal

variable {σ : Type}

/-- In every round of a range, some credential of the account is valid. -/
def Keyring.Spans (keys : Keyring) (address : Address) (first last : Round) : Prop :=
  ∀ round, first ≤ round → round ≤ last →
    ∃ e ∈ keys.toList, e.2.address = address ∧ e.2.isValidAt round = true

theorem Credential.isValidAt_iff {c : Credential} {round : Round} :
    c.isValidAt round = true ↔ c.firstValid ≤ round ∧ round ≤ c.lastValid := by
  simp [isValidAt]

/-- One credential spans its own range. -/
theorem Keyring.spans_of_mem {keys : Keyring} {key : KeyHandle × Credential}
    (installed : key ∈ keys.toList) {last : Round} (reaches : last ≤ key.2.lastValid) :
    keys.Spans key.2.address key.2.firstValid last := by
  intro round from_first to_last
  exact ⟨key, installed, rfl,
    Credential.isValidAt_iff.mpr ⟨from_first, Round.le_trans to_last reaches⟩⟩

/-- Only the credentials of the account matter. -/
theorem Keyring.spans_congr {keys keys' : Keyring} {address : Address}
    (same : ∀ e : KeyHandle × Credential, e.2.address = address →
      (e ∈ keys.toList ↔ e ∈ keys'.toList)) {first last : Round} :
    keys.Spans address first last ↔ keys'.Spans address first last := by
  constructor
  · intro spans round from_first to_last
    obtain ⟨e, installed, mine, valid⟩ := spans round from_first to_last
    exact ⟨e, (same e mine).mp installed, mine, valid⟩
  · intro spans round from_first to_last
    obtain ⟨e, installed, mine, valid⟩ := spans round from_first to_last
    exact ⟨e, (same e mine).mpr installed, mine, valid⟩

/-- An account whose row keeps no key has the credentials it had. -/
theorem BatchTerms.Completed.mem_iff {t : BatchTerms} {accounts : List GeneratedCredential}
    {b b' : Bench} {results : List AccountResult} (completed : t.Completed accounts b results b')
    (distinct : (results.map (·.address)).Nodup) {row : AccountResult} (there : row ∈ results)
    (gone : row.outcome.keepsKey = false) {e : KeyHandle × Credential}
    (mine : e.2.address = row.address) :
    e ∈ b'.store.credentials.toList ↔ e ∈ b.store.credentials.toList := by
  constructor
  · intro installed
    rcases completed.mem_credentials distinct there installed mine with ⟨kept, -⟩ | old
    · rw [gone] at kept
      cases kept
    · exact old
  · exact completed.tally.mem_of_mem

/-- What a positive row of a batch says about the rounds up to the horizon: a renewed account has a
valid credential in each of them. An account that is reported as covered has the credentials it had,
and the last of them spans the rounds from its own first one on. -/
def RowSpans (before after : Keyring) (current horizon : Round) (address : Address) :
    AccountOutcome → Prop
  | .renewed _ => after.Spans address current horizon
  | .alreadyCovered existing =>
    (∃ key ∈ after.toList, key.2.address = address ∧ key.2.lastValid = existing ∧
      horizon ≤ existing ∧ after.EndsIn address existing ∧
      after.Spans address key.2.firstValid horizon) ∧
    (after.Spans address current horizon ↔ before.Spans address current horizon)
  | _ => True

/-- A batch that answers leaves a renewed account without a gap, and a covered one with the gaps it
had before. -/
theorem positive_rows_span (s : Station σ) (protocols : ProtocolRegistry) (config : EngineConfig)
    (request : BatchRequest) (st : σ) (report : BatchReport)
    (ended : (((s.engine protocols config).runBatchRenewal request).run st).outcome = .ok report) :
    ∀ row ∈ report.results, RowSpans (s.bench.get st).store.credentials
      (s.bench.get (((s.engine protocols config).runBatchRenewal request).run
        st).state).store.credentials
      report.currentRound report.horizon row.address row.outcome := by
  obtain ⟨snapshot, after, taken, horizon, current, completed, state⟩ :=
    s.runBatchRenewal_completed protocols config request ended
  obtain ⟨round, -, -⟩ := ScriptedLedger.snapshot_round taken
  rw [state, s.bench.get_set, horizon, current, ← round]
  have distinct : (report.results.map (·.address)).Nodup := by
    rw [completed.addresses]
    exact (Keyring.sorted_latest _).imp OrderedMap.ne_of_compare_lt
  rintro ⟨address, outcome⟩ there
  obtain ⟨latest, listed, rfl, b₁, b₂, made⟩ := completed.row _ there
  have decided := made.decidedBy
  cases made with
  | covered _ =>
    have installed := completed.tally.mem_of_mem (Keyring.latest_installed listed)
    have reaches := decided.covered.mp rfl
    refine ⟨⟨_, installed, rfl, rfl, reaches, ?_, Keyring.spans_of_mem installed reaches⟩, ?_⟩
    · refine completed.endsIn distinct there (Keyring.latest_endsIn listed) ?_
      rintro ⟨⟩
    · exact Keyring.spans_congr fun e mine => completed.mem_iff distinct there rfl mine
  | renewed _ _ =>
    exact Keyring.spans_of_mem (completed.key_installed there rfl) (Round.le_refl _)
  | lapsed | failed => trivial

/-- A bench at round 100 with a credential that is valid from round 4000 on. -/
def Bench.aheadOfTime : Bench :=
  ((World.station.engine .testRules {}).addCredential ⟨"A"⟩ ⟨4000⟩ ⟨6000⟩ none .managed |>.run
    (.ofBench (.startingAt ⟨100⟩ ScriptedLedger.testVersion))).state.bench

/-- An account is reported as covered up to round 5000 that has no valid credential in round 100. -/
theorem covered_row_hides_gap :
    let run := ((World.station.engine .testRules {}).runBatchRenewal
      ⟨⟨5000⟩, none, none, none⟩).run (.ofBench .aheadOfTime)
    run.outcome = .ok ⟨⟨5000⟩, ⟨100⟩, [⟨⟨"A"⟩, .alreadyCovered ⟨6000⟩⟩]⟩ ∧
    ¬ run.state.bench.store.credentials.Spans ⟨"A"⟩ ⟨100⟩ ⟨5000⟩ := by
  intro run
  have facts : run.outcome = .ok ⟨⟨5000⟩, ⟨100⟩, [⟨⟨"A"⟩, .alreadyCovered ⟨6000⟩⟩]⟩ ∧
      ∀ e ∈ run.state.bench.store.credentials.toList, e.2.isValidAt ⟨100⟩ = false := by
    decide +kernel
  refine ⟨facts.1, fun spans => ?_⟩
  obtain ⟨e, installed, -, valid⟩ := spans ⟨100⟩ (Round.le_refl _) (by decide)
  rw [facts.2 e installed] at valid
  cases valid

/-- The account that is covered has been so from its first round on. -/
theorem positive_rows_span_of_aheadOfTime :
    let run := ((World.station.engine .testRules {}).runBatchRenewal
      ⟨⟨5000⟩, none, none, none⟩).run (.ofBench .aheadOfTime)
    run.outcome = .ok ⟨⟨5000⟩, ⟨100⟩, [⟨⟨"A"⟩, .alreadyCovered ⟨6000⟩⟩]⟩ ∧
    RowSpans Bench.aheadOfTime.store.credentials run.state.bench.store.credentials ⟨100⟩ ⟨5000⟩
      ⟨"A"⟩ (.alreadyCovered ⟨6000⟩) := by
  intro run
  have reported : run.outcome = .ok ⟨⟨5000⟩, ⟨100⟩, [⟨⟨"A"⟩, .alreadyCovered ⟨6000⟩⟩]⟩ := by
    decide +kernel
  exact ⟨reported, positive_rows_span World.station .testRules {} ⟨⟨5000⟩, none, none, none⟩
    (.ofBench .aheadOfTime) _ reported ⟨⟨"A"⟩, .alreadyCovered ⟨6000⟩⟩ List.mem_cons_self⟩

end KeyRenewal
