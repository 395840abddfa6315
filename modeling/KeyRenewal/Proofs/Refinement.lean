import KeyRenewal.Proofs.Accounting
import Mathlib.Data.List.Nodup

/-!
# A batch is its renewals in turn

A batch lists the accounts once and works from one snapshot, where a renewal of its own takes a new
snapshot and looks at the installed credentials again. As long as nobody waits for transactions this
makes no difference: renewing in turn the accounts that are due leaves the same state as the batch,
and every renewal answers what the row of its account says.
-/

namespace KeyRenewal

variable {σ : Type}

/-- Renew accounts one after another, each on its own; the answers stand beside the accounts. -/
def Engine.renewInTurn (e : Engine σ) :
    List RenewalRequest → Action σ RenewalError (List (Address × Except RenewalError Renewal))
  | [] => pure []
  | request :: rest => do
    let answer ← (e.runSingleRenewal request).attempt
    let answers ← e.renewInTurn rest
    return (request.address, answer) :: answers

theorem Engine.renewInTurn_cons {e : Engine σ} {request : RenewalRequest}
    {rest : List RenewalRequest} {st st₁ st₂ : σ} {answer : Except RenewalError Renewal}
    {answers : List (Address × Except RenewalError Renewal)}
    (first : (e.runSingleRenewal request).effect st = (.ofExcept answer, st₁))
    (later : (e.renewInTurn rest).effect st₁ = (.ok answers, st₂)) :
    (e.renewInTurn (request :: rest)).effect st =
      (.ok ((request.address, answer) :: answers), st₂) := by
  have attempted : (Outcome.ofExcept answer).attempt = (.ok answer : Outcome RenewalError _) := by
    cases answer <;> rfl
  simp only [renewInTurn, Action.effect_bind, Action.effect_attempt, first, attempted,
    Outcome.chain_ok, later, Action.effect_pure]

namespace BatchRequest

/-- The renewal of one account on the terms of the batch. -/
def renewalOf (request : BatchRequest) (address : Address) : RenewalRequest :=
  ⟨address, request.lastValid, request.fee, request.keyDilution, request.waitMode, none⟩

/-- The accounts a batch renews, of those listed with their latest credentials. -/
def due (request : BatchRequest) (policy : LapsePolicy) (current : Round)
    (accounts : List GeneratedCredential) : List Address :=
  (accounts.filter fun latest =>
    policy.classify latest.credential.lastValid current request.lastValid = .renew).map
      (·.credential.address)

variable {request : BatchRequest} {policy : LapsePolicy} {current : Round}
  {latest : GeneratedCredential} {rest : List GeneratedCredential}

theorem due_cons_of_renew (decided : policy.classify latest.credential.lastValid current
      request.lastValid = .renew) :
    request.due policy current (latest :: rest) =
      latest.credential.address :: request.due policy current rest := by
  simp [due, decided]

theorem due_cons_of_not_renew (decided : policy.classify latest.credential.lastValid current
      request.lastValid ≠ .renew) :
    request.due policy current (latest :: rest) = request.due policy current rest := by
  simp [due, decided]

end BatchRequest

/-- The accounts whose last credentials are decided to be renewed have none that reaches the
horizon. -/
def BatchTerms.Uncovered (t : BatchTerms) (accounts : List GeneratedCredential) (keys : Keyring) :
    Prop :=
  ∀ latest ∈ accounts, t.decision latest = .renew →
    ∀ e ∈ keys.toList, e.2.address = latest.credential.address → e.2.lastValid < t.horizon

theorem BatchTerms.uncovered_latest (t : BatchTerms) (keys : Keyring) :
    t.Uncovered keys.latest.values keys := by
  intro latest listed decided e he mine
  exact below_of_due listed decided he mine

/-- A row of another account covers nobody. -/
theorem BatchTerms.Uncovered.after {t : BatchTerms} {latest : GeneratedCredential}
    {rest : List GeneratedCredential} {b b' : Bench} {target : DispatchTarget}
    {outcome : Outcome RenewalError Renewal}
    (uncovered : t.Uncovered (latest :: rest) b.store.credentials)
    (distinct : ((latest :: rest).map (·.credential.address)).Nodup)
    (course : Course (t.plan latest.credential.address) b target outcome b') :
    t.Uncovered rest b'.store.credentials := by
  intro other listed decided e he mine
  rcases course.mem_credentials he with rfl | he
  · have again : latest.credential.address ∈ rest.map (·.credential.address) :=
      List.mem_map.mpr ⟨other, listed, mine.symm⟩
    exact absurd again (List.nodup_cons.mp distinct).1
  · exact uncovered other (List.mem_cons_of_mem _ listed) decided e he mine

namespace Station

variable (s : Station σ) (protocols : ProtocolRegistry) (config : EngineConfig)
  (request : BatchRequest) {snapshot : RoundSnapshot}

/-- The renewal of an account without a credential that reaches the horizon carries out the plan the
batch has for it. -/
theorem runSingleRenewal_of_uncovered (st : σ) (address : Address)
    (checked : (s.bench.get st).ledger.checkedSnapshot protocols request.lastValid = .ok snapshot)
    (uncovered : ∀ e ∈ (s.bench.get st).store.credentials.toList, e.2.address = address →
      e.2.lastValid < request.lastValid) :
    ((s.engine protocols config).runSingleRenewal (request.renewalOf address)).effect st =
      ((((request.terms config snapshot).plan address).result
          (.submit (request.terms config snapshot).mode) (s.bench.get st)).1,
        s.bench.set st (((request.terms config snapshot).plan address).result
          (.submit (request.terms config snapshot).mode) (s.bench.get st)).2) := by
  have free : (s.bench.get st).store.credentials.coverage? address request.lastValid = none :=
    Keyring.coverage?_eq_none_iff.mpr uncovered
  rw [runSingleRenewal_effect]
  simp only [BatchRequest.renewalOf, checked, free]
  rfl

/-- Renewing in turn what is due among some accounts does what the batch does with them. -/
theorem renewInTurn_effect (unwatched : config.waitModeOr request.waitMode = .fireAndForget)
    (accounts : List GeneratedCredential) (st : σ)
    (checked : (s.bench.get st).ledger.checkedSnapshot protocols request.lastValid = .ok snapshot)
    (distinct : (accounts.map (·.credential.address)).Nodup)
    (uncovered : (request.terms config snapshot).Uncovered accounts
      (s.bench.get st).store.credentials) :
    ∃ rows answers,
      ((request.terms config snapshot).dealAll accounts (s.bench.get st)).1 = .ok rows ∧
      ((s.engine protocols config).renewInTurn ((request.due config.lapsePolicy
          snapshot.currentRound accounts).map request.renewalOf)).effect st =
        (.ok answers, s.bench.set st
          ((request.terms config snapshot).dealAll accounts (s.bench.get st)).2) ∧
      answers.map (·.1) = request.due config.lapsePolicy snapshot.currentRound accounts ∧
      rows.filter (·.outcome.isAttempt) =
        answers.map fun answer => ⟨answer.1, BatchTerms.answered answer.2⟩ := by
  induction accounts generalizing st with
  | nil => exact ⟨[], [], rfl, by rw [BatchTerms.dealAll, s.bench.set_get]; rfl, rfl, rfl⟩
  | cons latest rest ih =>
    have later : (rest.map (·.credential.address)).Nodup := (List.nodup_cons.mp distinct).2
    unfold BatchTerms.dealAll
    by_cases decided : (request.terms config snapshot).decision latest = .renew
    · obtain ⟨answer, b₁, ended, dealt, still⟩ :=
        BatchTerms.deal_unwatched decided unwatched (s.bench.get st)
      have renewed := s.runSingleRenewal_of_uncovered protocols config request st
        latest.credential.address checked (uncovered latest List.mem_cons_self decided)
      have course := RenewalPlan.result_course
        ((request.terms config snapshot).plan latest.credential.address)
        (.submit (request.terms config snapshot).mode) (s.bench.get st)
      rw [ended] at renewed course
      obtain ⟨rows, answers, rowsEnd, turnsEnd, named, same⟩ := ih (s.bench.set st b₁)
        (by rw [s.bench.get_set, still]; exact checked) later
        (by rw [s.bench.get_set]; exact uncovered.after distinct course)
      rw [s.bench.get_set] at rowsEnd turnsEnd
      rw [s.bench.set_set] at turnsEnd
      have listed : request.due config.lapsePolicy snapshot.currentRound (latest :: rest) =
          latest.credential.address :: request.due config.lapsePolicy snapshot.currentRound rest :=
        BatchRequest.due_cons_of_renew decided
      refine ⟨⟨latest.credential.address, BatchTerms.answered answer⟩ :: rows,
        (latest.credential.address, answer) :: answers, ?_, ?_, ?_, ?_⟩
      · rw [dealt, Outcome.chain_ok, rowsEnd]
        rfl
      · rw [listed, dealt]
        exact Engine.renewInTurn_cons renewed turnsEnd
      · rw [listed, List.map_cons, named]
      · have attempt : (BatchTerms.answered answer).isAttempt = true := by cases answer <;> rfl
        rw [List.map_cons, ← same]
        exact List.filter_cons_of_pos attempt
    · obtain ⟨row, skipped⟩ := BatchTerms.deal_skipped decided
      obtain ⟨dealt, made⟩ := skipped (s.bench.get st)
      obtain ⟨rows, answers, rowsEnd, turnsEnd, named, same⟩ := ih st checked later
        (fun other listed => uncovered other (List.mem_cons_of_mem _ listed))
      have unlisted : request.due config.lapsePolicy snapshot.currentRound (latest :: rest) =
          request.due config.lapsePolicy snapshot.currentRound rest :=
        BatchRequest.due_cons_of_not_renew decided
      refine ⟨⟨latest.credential.address, row⟩ :: rows, answers, ?_, ?_, ?_, ?_⟩
      · rw [dealt, Outcome.chain_ok, rowsEnd]
        rfl
      · rw [unlisted, dealt]
        exact turnsEnd
      · rw [unlisted, named]
      · have idle : ¬ row.isAttempt = true := mt made.shows.2.2.mp decided
        rw [← same]
        exact List.filter_cons_of_neg idle

end Station

/-- How renewing due accounts in turn compares with a batch: the accounts are tried in address order,
the same state is left, and the rows of the accounts tried are the answers of their renewals. -/
structure InTurn (due : List Address) (report : BatchReport) (left : σ)
    (run : Run σ RenewalError (List (Address × Except RenewalError Renewal))) : Prop where
  ordered : due.Pairwise (compare · · = .lt)
  state : run.state = left
  answers : ∃ answers, run.outcome = .ok answers ∧ answers.map (·.1) = due ∧
    report.results.filter (·.outcome.isAttempt) =
      answers.map fun answer => ⟨answer.1, BatchTerms.answered answer.2⟩

/-- A batch that does not wait for transactions does exactly what renewing the accounts that are due
does, one after another. -/
theorem batch_refines_renewals (s : Station σ) (protocols : ProtocolRegistry) (config : EngineConfig)
    (request : BatchRequest) (st : σ) (report : BatchReport)
    (unwatched : config.waitModeOr request.waitMode = .fireAndForget)
    (ended : (((s.engine protocols config).runBatchRenewal request).run st).outcome = .ok report) :
    let due := request.due config.lapsePolicy report.currentRound
      (s.bench.get st).store.credentials.latest.values
    InTurn due report (((s.engine protocols config).runBatchRenewal request).run st).state
      (((s.engine protocols config).renewInTurn (due.map request.renewalOf)).run st) := by
  intro due
  have carried := s.runBatchRenewal_effect protocols config request st
  cases checked : (s.bench.get st).ledger.checkedSnapshot protocols request.lastValid with
  | error e =>
    rw [checked] at carried
    obtain ⟨outcome, -⟩ := Action.run_of_effect carried
    cases ended.symm.trans outcome
  | ok snapshot =>
    rw [checked] at carried
    obtain ⟨outcome, state⟩ := Action.run_of_effect carried
    have sorted := Keyring.sorted_latest (s.bench.get st).store.credentials
    obtain ⟨rows, answers, rowsEnd, turnsEnd, named, same⟩ := s.renewInTurn_effect protocols config
      request unwatched (s.bench.get st).store.credentials.latest.values st checked
      (sorted.imp OrderedMap.ne_of_compare_lt) (BatchTerms.uncovered_latest _ _)
    rw [rowsEnd] at outcome
    cases ended.symm.trans outcome
    obtain ⟨answered, left⟩ := Action.run_of_effect turnsEnd
    exact ⟨sorted.sublist (List.filter_sublist.map _), left.trans state.symm, answers, answered,
      named, same⟩

/-- Of three accounts the batch tries one, and so does renewing in turn. -/
theorem batch_refines_renewals_of_three :
    let engine := World.station.engine .testRules .leavingExpired
    let batch := (engine.runBatchRenewal ⟨⟨5000⟩, none, none, some .fireAndForget⟩).run
      (.ofBench .threeAccounts)
    batch.outcome = .ok .ofThreeAccounts ∧
    InTurn [⟨"A"⟩] .ofThreeAccounts batch.state
      ((engine.renewInTurn [⟨⟨"A"⟩, ⟨5000⟩, none, none, some .fireAndForget, none⟩]).run
        (.ofBench .threeAccounts)) :=
  ⟨by decide +kernel, batch_refines_renewals World.station .testRules .leavingExpired
    ⟨⟨5000⟩, none, none, some .fireAndForget⟩ (.ofBench .threeAccounts) .ofThreeAccounts rfl
    (by decide +kernel)⟩

end KeyRenewal
