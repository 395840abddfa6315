import KeyRenewal.Proofs.Accounting

/-!
# Runs that come to an end

Every wait for a round follows a status taken from the script, so there are only so many turns to a
watch. Unless the ledger has its waits hang, every run over a bench comes to an end, and a batch that
ends in a failure has not touched the state.
-/

namespace KeyRenewal

variable {σ : Type}

theorem Round.number_next_ne_zero (round : Round) : round.next.number ≠ 0 := by
  intro zero
  have number := round.toNat_next
  rw [zero, UInt64.toNat_zero] at number
  simp only [UInt64.size] at number
  omega

namespace ScriptedLedger

variable {l : ScriptedLedger}

/-- A query fails, or its answer confirms the transaction, or it has taken a status of the script. -/
theorem pendingTransaction_cases (txId : TxId) (l : ScriptedLedger) :
    (∃ e l', (ledger.pendingTransaction txId).effect l = (.error e, l')) ∨
    ∃ status l', (ledger.pendingTransaction txId).effect l = (.ok status, l') ∧
      l'.hangWaits = l.hangWaits ∧
      (status.isConfirmed = true ∨ l'.statuses.length < l.statuses.length) := by
  obtain ⟨round, version, statuses, queried, waited, queryFailures, _, _, _⟩ := l
  cases queryFailures with
  | succ failures => exact Or.inl ⟨_, _, rfl⟩
  | zero =>
    cases statuses with
    | cons status rest => exact Or.inr ⟨_, _, rfl, rfl, Or.inr (Nat.lt_succ_self _)⟩
    | nil =>
      have confirms : (PendingStatus.confirmed round.next).isConfirmed = true := by
        simp [PendingStatus.confirmed, PendingStatus.isConfirmed, Round.isZero,
          round.number_next_ne_zero]
      exact Or.inr ⟨.confirmed round.next, _, rfl, rfl, Or.inl confirms⟩

/-- Where waits do not hang, a wait is refused or answered, and the script stays as it is. -/
theorem waitForRound_cases (moves : l.hangWaits = false) (round : Round) :
    (∃ e l', (ledger.waitForRound round).effect l = (.error e, l')) ∨
    ∃ seen l', (ledger.waitForRound round).effect l = (.ok seen, l') ∧
      l'.hangWaits = false ∧ l'.statuses = l.statuses := by
  obtain ⟨_, _, _, _, _, _, failWaits, hangWaits, _⟩ := l
  cases moves
  cases failWaits with
  | true => exact Or.inl ⟨_, _, rfl⟩
  | false => exact Or.inr ⟨_, _, rfl, rfl, rfl⟩

/-- A watch with more turns than there are statuses comes to an end. -/
theorem watch_ends (moves : l.hangWaits = false) (txId : TxId) {turns : Nat}
    (enough : l.statuses.length < turns) (round : Round) :
    ((ledger.watch txId turns round).effect l).1 ≠ .blocked := by
  induction turns generalizing l round with
  | zero => exact absurd enough (Nat.not_lt_zero _)
  | succ turns ih =>
    rw [Ledger.watch, Action.effect_bind, Action.effect_mapError]
    rcases pendingTransaction_cases txId l with
      ⟨e, l₁, queried⟩ | ⟨status, l₁, queried, same, shorter⟩
    · simp [queried]
    simp only [queried, Outcome.mapError_ok, Outcome.chain_ok]
    by_cases confirmed : status.isConfirmed
    · simp [confirmed]
    by_cases rejected : status.isRejected
    · simp [confirmed, rejected]
    simp only [confirmed, rejected, Bool.false_eq_true, if_false, Action.effect_bind,
      Action.effect_log, Action.effect_mapError, Outcome.chain_ok]
    rcases waitForRound_cases (same.trans moves) round.next with
      ⟨e, l₂, waited⟩ | ⟨seen, l₂, waited, moves', script⟩
    · simp [waited]
    · simp only [waited, Outcome.mapError_ok, Outcome.chain_ok]
      -- an undecided status was taken from the script, so one turn less is enough for the rest
      have fewer : l₂.statuses.length < turns := by
        have taken := shorter.resolve_left confirmed
        rw [script]
        omega
      exact ih moves' fewer _

theorem follow_ends (moves : l.hangWaits = false) (txId : TxId) (mode : WaitMode) :
    ((follow txId mode).effect l).1 ≠ .blocked := by
  cases mode with
  | fireAndForget => simp [follow]
  | waitForConfirmation =>
    have observed := effect_observe (fun l => (⟨l.round⟩ : NodeStatus)) l
    change (ledger.status).effect l = _ at observed
    simp only [follow, Action.effect_bind, Action.effect_mapError, observed]
    by_cases mute : l.failRoundQueries
    · simp [mute]
    rw [if_neg mute, Outcome.mapError_ok, Outcome.chain_ok]
    have ends : ((ledger.awaitConfirmation txId l.round).effect l).1 ≠ .blocked :=
      watch_ends moves txId (Nat.lt_succ_self _) l.round
    generalize (ledger.awaitConfirmation txId l.round).effect l = last at ends ⊢
    obtain ⟨round | e | _, l'⟩ := last
    · simp
    · simp
    · exact absurd rfl ends

end ScriptedLedger

theorem RenewalPlan.result_ends {b : Bench} (moves : b.ledger.hangWaits = false) (p : RenewalPlan)
    (target : DispatchTarget) : (p.result target b).1 ≠ .blocked := by
  cases target with
  | file path =>
    simp only [result, registered]
    split_ifs <;> simp
  | submit mode =>
    have ends := ScriptedLedger.follow_ends moves p.txId mode
    simp only [result, registered]
    generalize (ScriptedLedger.follow p.txId mode).effect b.ledger = last at ends ⊢
    obtain ⟨outcome | e | _, l'⟩ := last
    · split_ifs <;> simp
    · split_ifs <;> simp
    · exact absurd rfl ends

namespace BatchTerms

variable {t : BatchTerms}

/-- Dealing with accounts never fails as a whole; it waits for ever only where the ledger hangs. -/
theorem dealAll_endings (accounts : List GeneratedCredential) (b : Bench) :
    (∃ rows, (t.dealAll accounts b).1 = .ok rows) ∨
      (t.dealAll accounts b).1 = .blocked ∧ b.ledger.hangWaits = true := by
  induction accounts generalizing b with
  | nil => exact Or.inl ⟨[], rfl⟩
  | cons latest rest ih =>
    rcases deal_cases (t := t) latest b with ⟨row, dealt, made⟩ | ⟨waiting, decided, -⟩
    · rw [dealAll_cons dealt]
      rcases ih (t.deal latest b).2 with ⟨rows, ended⟩ | ⟨stuck, hangs⟩
      · exact Or.inl ⟨_, congrArg (Outcome.map _) ended⟩
      · exact Or.inr ⟨congrArg (Outcome.map _) stuck, made.tally.ledger.hangWaits ▸ hangs⟩
    · have stuck : (t.dealAll (latest :: rest) b).1 = .blocked := by
        rw [dealAll]
        generalize t.deal latest b = dealt at waiting ⊢
        obtain ⟨outcome, b₁⟩ := dealt
        obtain rfl : outcome = .blocked := waiting
        rfl
      refine Or.inr ⟨stuck, Bool.of_not_eq_false fun moves => ?_⟩
      have ends := (t.plan latest.credential.address).result_ends moves (.submit t.mode)
      simp only [deal, decided] at waiting
      generalize (t.plan latest.credential.address).result (.submit t.mode) b = last at ends waiting
      obtain ⟨renewal | e | _, b₁⟩ := last
      · cases waiting
      · cases waiting
      · exact ends rfl

end BatchTerms

namespace Station

variable (s : Station σ) (protocols : ProtocolRegistry) (config : EngineConfig)
  (request : BatchRequest)

/-- A batch answers with a report, or fails without having touched the state, or waits for ever on
a ledger that hangs. -/
theorem runBatchRenewal_endings (st : σ) :
    (∃ report st', ((s.engine protocols config).runBatchRenewal request).effect st =
      (.ok report, st')) ∨
    (∃ e, ((s.engine protocols config).runBatchRenewal request).effect st = (.error e, st)) ∨
    (∃ st', ((s.engine protocols config).runBatchRenewal request).effect st = (.blocked, st')) ∧
      (s.bench.get st).ledger.hangWaits = true := by
  rw [runBatchRenewal_effect]
  cases (s.bench.get st).ledger.checkedSnapshot protocols request.lastValid with
  | error e => exact Or.inr (Or.inl ⟨e, rfl⟩)
  | ok snapshot =>
    have endings := BatchTerms.dealAll_endings (t := request.terms config snapshot)
      (s.bench.get st).store.credentials.latest.values (s.bench.get st)
    simp only
    generalize (request.terms config snapshot).dealAll _ (s.bench.get st) = dealt at endings ⊢
    obtain ⟨outcome, b'⟩ := dealt
    rcases endings with ⟨rows, rfl⟩ | ⟨rfl, hangs⟩
    · exact Or.inl ⟨_, _, rfl⟩
    · exact Or.inr (Or.inr ⟨⟨_, rfl⟩, hangs⟩)

end Station

end KeyRenewal
