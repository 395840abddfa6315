import KeyRenewal.Proofs.Accounting
import KeyRenewal.Proofs.Conflicts
import KeyRenewal.Proofs.Dropping

/-!
# Cancellation

A run that is dropped while it waits for a round stops waiting and undoes nothing. The accounts
before the one it waits for have been dealt with to the end, that one has its key and its
registration, and those after it have not been touched. The key it leaves reaches the horizon, so
that no later run registers the account up to that horizon again.
-/

namespace KeyRenewal

variable {σ : Type}

/-- What the renewal of an account has done when it waits for its transaction: one request, one key
under a new handle and one registration accepted. Nothing else has changed, but the ledger may have
moved on. -/
structure LeftWaiting (address : Address) (current horizon : Round) (before after : Bench) :
    Prop where
  ledger : ScriptedLedger.Progress before.ledger after.ledger
  rest : ∃ asked key transaction,
    asked = ⟨address, current, horizon, asked.keyDilution, none⟩ ∧
    BatchKey current horizon address key ∧ before.store.credentials.contains key.1 = false ∧
    transaction.address = address ∧ transaction.registration = some key.2.registration ∧
    after = { before with
      ledger := after.ledger
      store := { before.store with
        credentials := before.store.credentials.insert key.1 key.2
        requests := before.store.requests ++ [asked] }
      wallet := { before.wallet with submitted := before.wallet.submitted ++ [transaction] } }

/-- A renewal is blocked only once its registration has been accepted. -/
theorem Course.leftWaiting {p : RenewalPlan} {b b' : Bench} {target : DispatchTarget}
    (course : Course p b target .blocked b') :
    LeftWaiting p.address p.snapshot.currentRound p.horizon b b' := by
  cases course with
  | sent mode fresh accepted progress =>
    have new : BatchKey p.snapshot.currentRound p.horizon p.address p.key := ⟨rfl, rfl, rfl, rfl⟩
    exact ⟨progress, p.request, p.key, p.transaction, rfl, new, fresh, rfl, rfl, rfl⟩

/-- The key that is left is the account's last one, if all others end before the horizon. -/
theorem LeftWaiting.endsIn {address : Address} {current horizon : Round} {before after : Bench}
    (left : LeftWaiting address current horizon before after)
    (due : ∀ e ∈ before.store.credentials.toList, e.2.address = address → e.2.lastValid < horizon) :
    after.store.credentials.EndsIn address horizon := by
  obtain ⟨asked, key, transaction, -, made, fresh, -, -, same⟩ := left.rest
  rw [show after.store.credentials = before.store.credentials.insert key.1 key.2 by rw [same]]
  refine ⟨⟨key, (OrderedMap.mem_insert_of_fresh fresh).mpr (Or.inl rfl), made.address,
    made.lastValid⟩, ?_⟩
  intro e installed mine
  rcases (OrderedMap.mem_insert_of_fresh fresh).mp installed with rfl | old
  · exact Round.le_of_eq made.lastValid
  · exact Round.le_of_lt (due e old mine)

/-- How runs go for an account that is covered up to a horizon by its last credential: a single
renewal finds it covered and does nothing, and a batch leaves it alone. -/
structure Station.Covered (s : Station σ) (address : Address) (horizon : Round) (st : σ) :
    Prop where
  renewal : ∀ protocols config request snapshot, request.address = address →
    request.lastValid = horizon →
    (s.engine protocols config).snapshot.effect st = (.ok snapshot, st) →
    checkWindow snapshot.currentRound horizon snapshot.parameters.maxTxnLife = .ok () →
    ((s.engine protocols config).runSingleRenewal request).effect st =
      (.error (.existingCredential horizon horizon), st)
  report : ∀ protocols config request report st', request.lastValid = horizon →
    ((s.engine protocols config).runBatchRenewal request).effect st = (.ok report, st') →
    report.outcome? address = some (.alreadyCovered horizon)
  unsent : ∀ protocols config request outcome st', request.lastValid = horizon →
    ((s.engine protocols config).runBatchRenewal request).effect st = (outcome, st') →
    ∃ sent, (s.bench.get st').wallet.submitted = (s.bench.get st).wallet.submitted ++ sent ∧
      ∀ t ∈ sent, t.address ≠ address

theorem BatchReport.outcome?_eq_some {report : BatchReport} {address : Address}
    {outcome : AccountOutcome} (listed : address ∈ report.results.map (·.address))
    (only : ∀ row ∈ report.results, row.address = address → row.outcome = outcome) :
    report.outcome? address = some outcome := by
  unfold outcome?
  cases found : report.results.find? (·.address == address) with
  | none =>
    obtain ⟨row, there, same⟩ := List.mem_map.mp listed
    have missed := List.find?_eq_none.mp found row there
    exact absurd (beq_iff_eq.mpr same) missed
  | some row =>
    have mine : row.address = address := by simpa using List.find?_some found
    exact congrArg some (only row (List.mem_of_find?_eq_some found) mine)

theorem Station.covered_of_endsIn (s : Station σ) {address : Address} {horizon : Round} {st : σ}
    (ends : (s.bench.get st).store.credentials.EndsIn address horizon) :
    s.Covered address horizon st := by
  have latest_last : ∀ latest ∈ (s.bench.get st).store.credentials.latest.values,
      latest.credential.address = address → latest.credential.lastValid = horizon := by
    rintro latest listed rfl
    exact (Keyring.latest_endsIn listed).unique ends
  constructor
  · rintro protocols config request snapshot rfl rfl taken passed
    obtain ⟨known, -⟩ := snapshot_of_effect taken
    rw [runSingleRenewal_effect, ScriptedLedger.checkedSnapshot_of_ok known passed]
    simp only [Keyring.coverage?_eq_some_iff.mpr ⟨ends, Round.le_refl _⟩]
  · rintro protocols config request report st' rfl ended
    obtain ⟨outcome, -⟩ := Action.run_of_effect ended
    obtain ⟨snapshot, b', -, -, -, completed, -⟩ :=
      s.runBatchRenewal_completed protocols config request outcome
    refine BatchReport.outcome?_eq_some ?_ ?_
    · obtain ⟨e, installed, mine, -⟩ := ends.1
      rw [completed.addresses]
      exact Keyring.mem_latest_iff.mpr ⟨e, installed, mine⟩
    · intro row there mine
      obtain ⟨latest, listed, owner, _, _, made⟩ := completed.row row there
      have last := latest_last latest listed (owner.trans mine)
      have decided := made.decidedBy
      rw [last] at decided
      exact decided.covered.mpr (Round.le_refl _)
  · rintro protocols config request outcome st' rfl ended
    rcases s.runBatchRenewal_cases protocols config request st with
      ⟨e, refused⟩ | ⟨snapshot, rows, b', -, -, made, carried⟩
    · cases ended.symm.trans refused
      exact ⟨[], (List.append_nil _).symm, fun _ none => absurd none List.not_mem_nil⟩
    · cases ended.symm.trans carried
      obtain ⟨begun, kept, sent, _, -, keptBegun, sentKept, due, tally⟩ := made.tally
      refine ⟨_, by rw [s.bench.get_set]; exact tally.submitted, ?_⟩
      intro t there mine
      obtain ⟨account, chosen, rfl⟩ := List.mem_map.mp there
      obtain ⟨latest, listed, owner, decided⟩ :=
        due account (keptBegun.subset (sentKept.subset chosen))
      have last := latest_last latest listed (owner.trans mine)
      have below := ((LapsePolicy.classify_cases _ _ _ _).2.2.mp decided).1
      rw [last] at below
      exact absurd (Round.le_refl _) (Round.not_le.mpr below)

/-- As long as the credentials stay as they are, the account stays covered. -/
def Station.CoveredFrom (s : Station σ) (address : Address) (horizon : Round) (left : σ) : Prop :=
  ∀ later, (s.bench.get later).store.credentials = (s.bench.get left).store.credentials →
    s.Covered address horizon later

theorem LeftWaiting.coveredFrom {s : Station σ} {address : Address} {current horizon : Round}
    {before after : Bench} (left : LeftWaiting address current horizon before after)
    (due : ∀ e ∈ before.store.credentials.toList, e.2.address = address → e.2.lastValid < horizon)
    (st : σ) : s.CoveredFrom address horizon (s.bench.set st after) := by
  intro later same
  rw [s.bench.get_set] at same
  exact s.covered_of_endsIn (same ▸ left.endsIn due)

/-- Dealing with the accounts before it leaves an account due. -/
theorem BatchTerms.Rows.due_after {t : BatchTerms} {b b' : Bench}
    {earlier later : List GeneratedCredential} {latest : GeneratedCredential}
    {outcome : Outcome RenewalError (List AccountResult)} (rows : t.Rows earlier b outcome b')
    (accounts : b.store.credentials.latest.values = earlier ++ latest :: later)
    (decided : t.decision latest = .renew) {e : KeyHandle × Credential}
    (installed : e ∈ b'.store.credentials.toList)
    (mine : e.2.address = latest.credential.address) : e.2.lastValid < t.horizon := by
  have listed : latest ∈ b.store.credentials.latest.values := by simp [accounts]
  rcases rows.mem_credentials installed with ⟨other, before, -, rfl⟩ | old
  · have sorted := b.store.credentials.sorted_latest
    rw [accounts, List.map_append, List.map_cons] at sorted
    have below : compare other.credential.address latest.credential.address = .lt :=
      (List.pairwise_append.mp sorted).2.2 _ (List.mem_map_of_mem before) _ List.mem_cons_self
    exact absurd mine (OrderedMap.ne_of_compare_lt below)
  · exact BatchTerms.below_of_due listed decided old mine

/-- Where a batch is blocked: the accounts before the one it waits for have been dealt with, and
that one had only credentials that end before the horizon. -/
theorem BatchTerms.Halted.leftWaiting {t : BatchTerms} {b b' : Bench}
    (halted : t.Halted b.store.credentials.latest.values b b') :
    ∃ earlier latest later rows between,
      b.store.credentials.latest.values = earlier ++ latest :: later ∧
      (∀ account ∈ earlier,
        compare account.credential.address latest.credential.address = .lt) ∧
      (∀ account ∈ later, compare latest.credential.address account.credential.address = .lt) ∧
      t.dealAll earlier b = (.ok rows, between) ∧
      LeftWaiting latest.credential.address t.snapshot.currentRound t.horizon between b' ∧
      ∀ e ∈ between.store.credentials.toList, e.2.address = latest.credential.address →
        e.2.lastValid < t.horizon := by
  obtain ⟨earlier, latest, later, rows, between, accounts, dealt, decided, course⟩ := halted
  have sorted := b.store.credentials.sorted_latest
  rw [accounts, List.map_append, List.map_cons] at sorted
  obtain ⟨-, after_latest, before_latest⟩ := List.pairwise_append.mp sorted
  have made := dealAll_rows (t := t) earlier b
  rw [dealt] at made
  refine ⟨earlier, latest, later, rows, between, accounts, ?_, ?_, dealt, course.leftWaiting,
    fun e => made.due_after accounts decided⟩
  · intro account there
    exact before_latest _ (List.mem_map_of_mem there) _ List.mem_cons_self
  · intro account there
    exact (List.pairwise_cons.mp after_latest).1 _ (List.mem_map_of_mem there)

/-- Whoever drops a renewal or a batch while it waits for a round stops the waiting and undoes
nothing. A batch has dealt with the accounts before the one it waits for to the end, in the order of
their addresses, and has not touched those after it. From the state that is left, nobody registers
the account that was waited for up to the horizon a second time. -/
theorem cancellation_undoes_nothing (s : Station σ) (drops : ScriptedLedger → Bool)
    (protocols : ProtocolRegistry) (config : EngineConfig) (st : σ) :
    let engine := s.engine protocols config
    let dropped := s.engineDroppedIn drops protocols config
    (∀ request, ((dropped.runSingleRenewal request).run st).outcome = .blocked →
      ∃ after, ((dropped.runSingleRenewal request).run st).state = s.bench.set st after ∧
        LeftWaiting request.address (s.bench.get st).ledger.round request.lastValid
          (s.bench.get st) after ∧
        s.CoveredFrom request.address request.lastValid (s.bench.set st after)) ∧
    ∀ request, ((dropped.runBatchRenewal request).run st).outcome = .blocked →
      ∃ snapshot earlier latest later rows between after,
        engine.snapshot.effect st = (.ok snapshot, st) ∧
        (s.bench.get st).store.credentials.latest.values = earlier ++ latest :: later ∧
        (∀ account ∈ earlier,
          compare account.credential.address latest.credential.address = .lt) ∧
        (∀ account ∈ later,
          compare latest.credential.address account.credential.address = .lt) ∧
        (engine.renewDue request snapshot earlier).effect st =
          (.ok rows, s.bench.set st between) ∧
        ((dropped.runBatchRenewal request).run st).state = s.bench.set st after ∧
        LeftWaiting latest.credential.address (s.bench.get st).ledger.round request.lastValid
          between after ∧
        s.CoveredFrom latest.credential.address request.lastValid (s.bench.set st after) := by
  intro engine dropped
  refine ⟨fun request blocked => ?_, fun request blocked => ?_⟩
  · rcases s.runSingleRenewal_dropped drops protocols config st request with
      ⟨e, -, refused⟩ | ⟨snapshot, outcome, after, taken, -, uncovered, course, ended⟩
    · cases blocked.symm.trans (Action.run_of_effect refused).1
    · obtain ⟨waits, state⟩ := Action.run_of_effect ended
      obtain rfl := waits.symm.trans blocked
      have waiting := course.leftWaiting
      obtain ⟨round, -, -⟩ := ScriptedLedger.snapshot_round taken
      rw [show (request.plan config snapshot).snapshot.currentRound =
        (s.bench.get st).ledger.round from round] at waiting
      exact ⟨after, state, waiting,
        waiting.coveredFrom (Keyring.coverage?_eq_none_iff.mp uncovered) st⟩
  · rcases s.runBatchRenewal_dropped drops protocols config request st with
      ⟨e, refused⟩ | ⟨snapshot, taken, valid, ⟨results, after, -, ended⟩ | ⟨after, halted, ended⟩⟩
    · cases blocked.symm.trans (Action.run_of_effect refused).1
    · cases blocked.symm.trans (Action.run_of_effect ended).1
    · obtain ⟨-, state⟩ := Action.run_of_effect ended
      obtain ⟨earlier, latest, later, rows, between, accounts, below, above, dealt, waiting, due⟩ :=
        halted.leftWaiting
      obtain ⟨round, -, -⟩ := ScriptedLedger.snapshot_round taken
      rw [show (request.terms config snapshot).snapshot.currentRound =
        (s.bench.get st).ledger.round from round] at waiting
      refine ⟨snapshot, earlier, latest, later, rows, between, after, ?_, accounts, below, above,
        ?_, state, waiting, waiting.coveredFrom due st⟩
      · rw [s.effect_snapshot, taken]
        rfl
      · rw [s.renewDue_effect protocols config request earlier st valid, dealt]

/-- A bench at round 100 with two accounts to renew and a lapsed one. The registration of the first
is confirmed in its second query, the next ones stay pending. -/
def Bench.stalling : Bench :=
  let keys := .ofList [(⟨"a"⟩, .until ⟨"A"⟩ ⟨200⟩), (⟨"b"⟩, .until ⟨"B"⟩ ⟨300⟩),
    (⟨"c"⟩, .until ⟨"C"⟩ ⟨50⟩)]
  { Bench.startingAt ⟨100⟩ ScriptedLedger.testVersion with
    ledger := { ScriptedLedger.startingAt ⟨100⟩ ScriptedLedger.testVersion with
      statuses := [.pending, .confirmed ⟨101⟩, .pending, .pending] }
    store := { MemoryStore.empty with credentials := keys } }

/-- A renewal that is dropped in its first wait, and a batch that is dropped in its second one, when
the first account has been confirmed. -/
theorem cancellation_undoes_nothing_of_stalling :
    let st := World.ofBench .stalling
    let renewal := (World.station.engineDroppedIn (·.waited.length == 0) .testRules
      .leavingExpired).runSingleRenewal ⟨⟨"D"⟩, ⟨5000⟩, none, none, none, none⟩
    let batch := (World.station.engineDroppedIn (·.waited.length == 1) .testRules
      .leavingExpired).runBatchRenewal ⟨⟨5000⟩, none, none, none⟩
    ((renewal.run st).outcome = .blocked ∧
      ∃ after, (renewal.run st).state = World.station.bench.set st after ∧
        LeftWaiting ⟨"D"⟩ ⟨100⟩ ⟨5000⟩ .stalling after) ∧
    (batch.run st).outcome = .blocked ∧
    (batch.run st).state.bench.wallet.submitted.map (·.address) = [⟨"A"⟩, ⟨"B"⟩] ∧
    ∃ latest between after, (batch.run st).state = World.station.bench.set st after ∧
      LeftWaiting latest ⟨100⟩ ⟨5000⟩ between after ∧
      World.station.CoveredFrom latest ⟨5000⟩ (World.station.bench.set st after) := by
  intro st renewal batch
  have renewalBlocked : (renewal.run st).outcome = .blocked := by decide +kernel
  have batchBlocked : (batch.run st).outcome = .blocked ∧
      (batch.run st).state.bench.wallet.submitted.map (·.address) = [⟨"A"⟩, ⟨"B"⟩] := by
    decide +kernel
  obtain ⟨after, left, waiting, -⟩ := (cancellation_undoes_nothing World.station
    (·.waited.length == 0) .testRules .leavingExpired st).1 _ renewalBlocked
  obtain ⟨-, -, latest, -, -, between, after', -, -, -, -, -, left', waiting', covered⟩ :=
    (cancellation_undoes_nothing World.station (·.waited.length == 1) .testRules .leavingExpired
      st).2 _ batchBlocked.1
  exact ⟨⟨renewalBlocked, after, left, waiting⟩, batchBlocked.1, batchBlocked.2, _, between, after',
    left', waiting', covered⟩

end KeyRenewal
