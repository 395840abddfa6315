import KeyRenewal.Proofs.Runs

/-!
# Runs that are dropped

Whoever runs an operation may drop it while it waits for a round. Up to that wait the run has gone
the way of the whole operation, and nothing is done after it. An action is related to the one it is
cut short from by `CutShort`, which holds of an action put together from others if it holds of
those. A renewal that is dropped follows a course all the same, one that is blocked.
-/

namespace KeyRenewal

variable {σ τ ε ε' α β : Type}

namespace Action

/-- From a state on, the one action ends as the whole does and leaves the same state, or it gets
stuck on the way in a state of some kind. -/
def CutShort (left : σ → Prop) (cut whole : Action σ ε α) (st : σ) : Prop :=
  cut.effect st = whole.effect st ∨ ∃ st', cut.effect st = (.blocked, st') ∧ left st'

namespace CutShort

variable {left : σ → Prop} {cut whole : Action σ ε α} {st : σ}

theorem refl (a : Action σ ε α) : CutShort left a a st := Or.inl rfl

theorem mono {left' : σ → Prop} (short : CutShort left cut whole st)
    (wider : ∀ st', left st' → left' st') : CutShort left' cut whole st := by
  rcases short with same | ⟨st', stuck, here⟩
  · exact Or.inl same
  · exact Or.inr ⟨st', stuck, wider st' here⟩

theorem mapError (short : CutShort left cut whole st) (f : ε → ε') :
    CutShort left (cut.mapError f) (whole.mapError f) st := by
  rcases short with same | ⟨st', stuck, here⟩
  · exact Or.inl (by simp only [effect_mapError, same])
  · exact Or.inr ⟨st', by simp only [effect_mapError, stuck, Outcome.mapError_blocked], here⟩

theorem attempt (short : CutShort left cut whole st) :
    CutShort left (cut.attempt : Action σ ε' _) whole.attempt st := by
  rcases short with same | ⟨st', stuck, here⟩
  · exact Or.inl (by simp only [effect_attempt, same])
  · exact Or.inr ⟨st', by simp only [effect_attempt, stuck, Outcome.attempt_blocked], here⟩

/-- The second action may be cut short only where the first one leads. -/
theorem bind {next next' : α → Action σ ε β} (first : CutShort left cut whole st)
    (second : ∀ value st', whole.effect st = (.ok value, st') →
      CutShort left (next value) (next' value) st') :
    CutShort left (cut >>= next) (whole >>= next') st := by
  unfold CutShort
  rw [effect_bind, effect_bind]
  rcases first with same | ⟨st', stuck, here⟩
  · rw [same]
    rcases leads : whole.effect st with ⟨value | e | _, st'⟩
    · exact second value st' leads
    · exact Or.inl rfl
    · exact Or.inl rfl
  · exact Or.inr ⟨st', by rw [stuck, Outcome.chain_blocked], here⟩

/-- Beside what is cut short the state stays as it is. -/
theorem focus {left : τ → Prop} {cut whole : Action τ ε α} (lens : Lens σ τ)
    (short : CutShort left cut whole (lens.get st)) :
    CutShort (fun st' => ∃ part, left part ∧ st' = lens.set st part) (cut.focus lens)
      (whole.focus lens) st := by
  rcases short with same | ⟨part, stuck, here⟩
  · exact Or.inl (by rw [effect_focus, effect_focus, same])
  · exact Or.inr ⟨_, by rw [effect_focus, stuck], part, here, rfl⟩

end CutShort

end Action

open KeyRenewal.Action (CutShort)

namespace ScriptedLedger

/-- The ledger of a caller who is dropped in every wait that begins on a ledger of some kind. The
wait has been asked for by then. -/
def droppedIn (drops : ScriptedLedger → Bool) : Ledger ScriptedLedger :=
  { ledger with
    waitForRound := fun round => do
      let l ← Action.get
      if drops l then
        Action.modify fun l => { l with waited := l.waited ++ [round] }
        Action.block
      else waitForRound round }

variable (drops : ScriptedLedger → Bool)

theorem waitForRound_cutShort (round : Round) (l : ScriptedLedger) :
    CutShort (Progress l) ((droppedIn drops).waitForRound round) (ledger.waitForRound round) l := by
  unfold CutShort
  simp only [droppedIn, Action.effect_bind, Action.effect_get, Outcome.chain_ok, Action.effect_ite]
  by_cases dropped : drops l
  · rw [if_pos dropped]
    exact Or.inr ⟨_, rfl, Round.le_refl _, rfl, rfl, rfl, rfl⟩
  · rw [if_neg dropped]
    exact Or.inl rfl

theorem watch_cutShort (txId : TxId) (turns : Nat) (round : Round) (l : ScriptedLedger) :
    CutShort (Progress l) ((droppedIn drops).watch txId turns round)
      (ledger.watch txId turns round) l := by
  induction turns generalizing round l with
  | zero => exact .refl _
  | succ turns ih =>
    refine CutShort.bind (.refl _) fun status l₁ answered => ?_
    have queried : Progress l l₁ := by
      have moved : Progress l ((ledger.pendingTransaction txId).effect l).2 :=
        pendingTransaction_progress txId l
      rwa [Action.effect_of_mapError_ok answered] at moved
    by_cases confirmed : status.isConfirmed
    · simp only [if_pos confirmed]
      exact .refl _
    by_cases rejected : status.isRejected
    · simp only [if_neg confirmed, if_pos rejected]
      exact .refl _
    simp only [if_neg confirmed, if_neg rejected]
    refine CutShort.bind (.refl _) fun _ _ logged => ?_
    cases Action.state_of_effect_log logged
    refine CutShort.bind (((waitForRound_cutShort drops round.next l₁).mono
      fun _ => queried.trans).mapError _) fun seen l₂ waited => ?_
    have moved : Progress l₁ ((ledger.waitForRound round.next).effect l₁).2 :=
      waitForRound_progress round.next l₁
    rw [Action.effect_of_mapError_ok waited] at moved
    exact (ih _ l₂).mono fun _ => (queried.trans moved).trans

theorem awaitConfirmation_cutShort (txId : TxId) (start : Round) (l : ScriptedLedger) :
    CutShort (Progress l) ((droppedIn drops).awaitConfirmation txId start)
      (ledger.awaitConfirmation txId start) l := by
  refine CutShort.bind (.refl _) fun l' l₁ got => ?_
  cases got
  exact watch_cutShort drops txId _ start l

end ScriptedLedger

namespace Station

variable (s : Station σ) (drops : ScriptedLedger → Bool) (protocols : ProtocolRegistry)
  (config : EngineConfig)

/-- An engine over the bench whose caller is dropped in some of its waits. -/
def engineDroppedIn : Engine σ :=
  { s.engine protocols config with
    collaborators := { s.collaborators with
      ledger := (ScriptedLedger.droppedIn drops).focus (s.bench.trans Bench.ledgerLens) } }

/-- Where no wait is dropped, it is the engine over the bench. -/
theorem engineDroppedIn_never :
    s.engineDroppedIn (fun _ => false) protocols config = s.engine protocols config := rfl

theorem engineDroppedIn_snapshot :
    (s.engineDroppedIn drops protocols config).snapshot = (s.engine protocols config).snapshot :=
  rfl

theorem engineDroppedIn_listCredentials :
    (s.engineDroppedIn drops protocols config).listCredentials =
      (s.engine protocols config).listCredentials := rfl

variable (st : σ)

variable {s} in
theorem state_of_effect_status {st st' : σ} {start : NodeStatus}
    (looked : s.collaborators.ledger.status.effect st = (.ok start, st')) : st' = st := by
  have observed := s.effect_observe st (fun l => (⟨l.round⟩ : NodeStatus))
  change s.collaborators.ledger.status.effect st = _ at observed
  rw [looked] at observed
  split at observed
  · cases observed
  · exact congrArg Prod.snd observed

theorem awaitConfirmation_cutShort (txId : TxId) (start : Round) :
    CutShort (fun st' => ∃ ledger, ScriptedLedger.Progress (s.bench.get st).ledger ledger ∧
        st' = s.bench.set st { s.bench.get st with ledger })
      ((s.engineDroppedIn drops protocols config).collaborators.ledger.awaitConfirmation txId start)
      (s.collaborators.ledger.awaitConfirmation txId start) st := by
  have watched : CutShort _ _ _ st := (ScriptedLedger.awaitConfirmation_cutShort drops txId start
    (s.bench.get st).ledger).focus (s.bench.trans Bench.ledgerLens)
  rw [← Ledger.awaitConfirmation_focus, ← Ledger.awaitConfirmation_focus] at watched
  exact watched

/-- A submission is dropped after the transaction has been accepted. -/
theorem submit_cutShort (t : StatusTransaction) (mode : WaitMode) :
    CutShort (fun st' => ∃ ledger, ScriptedLedger.Progress (s.bench.get st).ledger ledger ∧
        st' = s.bench.set st { s.bench.get st with
          wallet := { (s.bench.get st).wallet with
            submitted := (s.bench.get st).wallet.submitted ++ [t] }
          ledger })
      ((s.engineDroppedIn drops protocols config).collaborators.submit t mode)
      (s.collaborators.submit t mode) st := by
  refine CutShort.bind (.refl _) fun txId st₁ signed => ?_
  have accepted := Action.effect_of_mapError_ok signed
  rw [s.effect_signAndSubmit] at accepted
  by_cases refused : (s.bench.get st).wallet.refuses.contains t.address
  · rw [if_pos refused] at accepted
    cases accepted
  rw [if_neg refused] at accepted
  refine CutShort.bind (.refl _) fun _ st₂ logged => ?_
  obtain rfl := Action.state_of_effect_log logged
  obtain ⟨-, rfl⟩ := Prod.mk.inj accepted
  cases mode with
  | fireAndForget => exact .refl _
  | waitForConfirmation =>
    refine CutShort.bind (.refl _) fun start st₃ looked => ?_
    obtain rfl := state_of_effect_status (Action.effect_of_mapError_ok looked)
    refine CutShort.bind ((s.awaitConfirmation_cutShort drops protocols config _ txId
      start.lastRound).mono ?_) fun _ _ _ => .refl _
    rintro st' ⟨ledger, progress, rfl⟩
    refine ⟨ledger, ?_, ?_⟩
    · rwa [s.bench.get_set] at progress
    · rw [s.bench.get_set, s.bench.set_set]

/-- A renewal is dropped with its key made and its registration accepted. -/
theorem renewAccount_cutShort (p : RenewalPlan) (valid : p.Valid) (target : DispatchTarget) :
    CutShort (fun st' => ∃ b', Course p (s.bench.get st) target .blocked b' ∧
        st' = s.bench.set st b')
      ((s.engineDroppedIn drops protocols config).renewAccount p.address p.snapshot p.horizon p.fee
        p.keyDilution target)
      ((s.engine protocols config).renewAccount p.address p.snapshot p.horizon p.fee p.keyDilution
        target) st := by
  refine CutShort.bind (.refl _) fun answer st₁ made => ?_
  cases answer with
  | error error => exact .refl _
  | ok generated =>
    have generation := Action.effect_of_attempt_ok made
    rw [show (s.engine protocols config).collaborators = s.collaborators from rfl,
      s.effect_generate st p valid.ordered] at generation
    by_cases failing : (s.bench.get st).store.failGenerationFor.contains p.address
    · rw [if_pos failing] at generation
      cases generation
    by_cases taken : (s.bench.get st).store.credentials.contains p.handle
    · rw [if_neg failing, if_pos taken] at generation
      cases generation
    rw [if_neg failing, if_neg taken] at generation
    obtain ⟨same, rfl⟩ := Prod.mk.inj generation
    cases same
    refine CutShort.bind (CutShort.attempt ?_) fun answer _ _ => by cases answer <;> exact .refl _
    refine CutShort.bind (.refl _) fun t st₂ built => ?_
    obtain ⟨build, rfl⟩ := Action.ok_of_effect_ofExcept built
    cases valid.builds.symm.trans build
    cases target with
    | file path => exact .refl _
    | submit mode =>
      refine (s.submit_cutShort drops protocols config _ p.transaction mode).mono ?_
      rintro st' ⟨ledger, progress, rfl⟩
      rw [s.bench.get_set] at progress
      refine ⟨_, .sent mode (Bool.not_eq_true _ ▸ taken) .blocked progress, ?_⟩
      rw [s.bench.get_set, s.bench.set_set]
      rfl

/-- A renewal of which some waits are dropped follows a course, and it is that of the plan if it
comes to its end. -/
theorem renewAccount_dropped (p : RenewalPlan) (valid : p.Valid) (target : DispatchTarget) :
    ∃ outcome b', Course p (s.bench.get st) target outcome b' ∧
      (outcome = .blocked ∨ p.result target (s.bench.get st) = (outcome, b')) ∧
      ((s.engineDroppedIn drops protocols config).renewAccount p.address p.snapshot p.horizon p.fee
        p.keyDilution target).effect st = (outcome, s.bench.set st b') := by
  rcases s.renewAccount_cutShort drops protocols config st p valid target with
    same | ⟨st', stuck, b', course, rfl⟩
  · rw [s.renewAccount_effect st p valid] at same
    exact ⟨_, _, p.result_course target (s.bench.get st), Or.inr rfl, same⟩
  · exact ⟨_, b', course, Or.inl rfl, stuck⟩

/-- A single renewal of which some waits are dropped is refused, or it follows a course of its
plan. -/
theorem runSingleRenewal_dropped (request : RenewalRequest) :
    (∃ e, Refusal (s.bench.get st) e ∧
      ((s.engineDroppedIn drops protocols config).runSingleRenewal request).effect st =
        (.error e, st)) ∨
    ∃ snapshot outcome b', (s.bench.get st).ledger.snapshot protocols = .ok snapshot ∧
      (request.plan config snapshot).Valid ∧
      (s.bench.get st).store.credentials.coverage? request.address request.lastValid = none ∧
      Course (request.plan config snapshot) (s.bench.get st) (request.target config) outcome b' ∧
      ((s.engineDroppedIn drops protocols config).runSingleRenewal request).effect st =
        (outcome, s.bench.set st b') := by
  simp only [Engine.runSingleRenewal, Action.effect_within, engineDroppedIn_snapshot,
    engineDroppedIn_listCredentials, effect_checkedSnapshot]
  cases checked : (s.bench.get st).ledger.checkedSnapshot protocols request.lastValid with
  | error e => exact Or.inl ⟨e, ScriptedLedger.checkedSnapshot_refused checked, rfl⟩
  | ok snapshot =>
    obtain ⟨taken, window, life⟩ := ScriptedLedger.checkedSnapshot_ok checked
    simp only [Action.effect_bind, effect_listCredentials, Outcome.chain_ok]
    cases (s.bench.get st).store.credentials.coverage? request.address request.lastValid with
    | some existing => exact Or.inl ⟨_, .covered request.lastValid existing, rfl⟩
    | none =>
      have valid : (request.plan config snapshot).Valid := ⟨window, life⟩
      obtain ⟨outcome, b', course, -, ends⟩ := s.renewAccount_dropped drops protocols config st _
        valid (request.target config)
      exact Or.inr ⟨snapshot, outcome, b', taken, valid, rfl, course, ends⟩

end Station

namespace BatchTerms

variable {t : BatchTerms}

/-- A batch is blocked in the renewal of one of its accounts, with those before it dealt with. -/
def Halted (t : BatchTerms) (accounts : List GeneratedCredential) (b b' : Bench) : Prop :=
  ∃ earlier latest later rows b₁, accounts = earlier ++ latest :: later ∧
    t.dealAll earlier b = (.ok rows, b₁) ∧ t.decision latest = .renew ∧
    Course (t.plan latest.credential.address) b₁ (.submit t.mode) .blocked b'

theorem Halted.here {latest : GeneratedCredential} (rest : List GeneratedCredential) {b b' : Bench}
    (decided : t.decision latest = .renew)
    (course : Course (t.plan latest.credential.address) b (.submit t.mode) .blocked b') :
    t.Halted (latest :: rest) b b' :=
  ⟨[], latest, rest, [], b, rfl, rfl, decided, course⟩

theorem Halted.cons {account : GeneratedCredential} {rest : List GeneratedCredential}
    {b b₁ b' : Bench} {row : AccountOutcome} (dealt : t.deal account b = (.ok row, b₁))
    (halted : t.Halted rest b₁ b') : t.Halted (account :: rest) b b' := by
  obtain ⟨earlier, latest, later, rows, b₂, rfl, before, decided, course⟩ := halted
  refine ⟨account :: earlier, latest, later, ⟨account.credential.address, row⟩ :: rows, b₂, rfl,
    ?_, decided, course⟩
  rw [dealAll, dealt, Outcome.chain_ok, before]
  rfl

/-- Blocked in one account, a batch has made the rows of those before. -/
theorem Halted.rows {accounts : List GeneratedCredential} {b b' : Bench}
    (halted : t.Halted accounts b b') : t.Rows accounts b .blocked b' := by
  obtain ⟨earlier, latest, later, rows, b₁, rfl, before, decided, course⟩ := halted
  have completed : t.Completed earlier b rows b₁ := by
    have made := dealAll_rows (t := t) earlier b
    rw [before] at made
    exact made.completed rfl
  clear before
  induction completed with
  | nil b => exact .stuck later decided course
  | cons first _ ih =>
    have whole := Rows.cons first (ih course)
    exact whole

end BatchTerms

namespace Station

variable (s : Station σ) (drops : ScriptedLedger → Bool) (protocols : ProtocolRegistry)
  (config : EngineConfig) (request : BatchRequest) {snapshot : RoundSnapshot}

/-- An account of which some waits are dropped is dealt with, or its renewal is blocked. -/
theorem renewIfDue_dropped (st : σ) (latest : GeneratedCredential)
    (valid : ((request.terms config snapshot).plan latest.credential.address).Valid) :
    (∃ row b', (request.terms config snapshot).deal latest (s.bench.get st) = (.ok row, b') ∧
      ((s.engineDroppedIn drops protocols config).renewIfDue request snapshot latest).effect st =
        (.ok ⟨latest.credential.address, row⟩, s.bench.set st b')) ∨
    ∃ b', (request.terms config snapshot).decision latest = .renew ∧
      Course ((request.terms config snapshot).plan latest.credential.address) (s.bench.get st)
        (.submit (request.terms config snapshot).mode) .blocked b' ∧
      ((s.engineDroppedIn drops protocols config).renewIfDue request snapshot latest).effect st =
        (.blocked, s.bench.set st b') := by
  obtain ⟨outcome, b', course, whole, ends⟩ := s.renewAccount_dropped drops protocols config st _
    valid (.submit (request.terms config snapshot).mode)
  change ((s.engineDroppedIn drops protocols config).renewAccount latest.credential.address snapshot
    request.lastValid ((s.engineDroppedIn drops protocols config).config.feeOr request.fee)
    ((s.engineDroppedIn drops protocols config).config.dilutionOr request.keyDilution)
    (.submit ((s.engineDroppedIn drops protocols config).config.waitModeOr
      request.waitMode))).effect st = _ at ends
  unfold BatchTerms.deal Engine.renewIfDue
  dsimp only
  rw [show (s.engineDroppedIn drops protocols config).config.lapsePolicy.classify
    latest.credential.lastValid snapshot.currentRound request.lastValid =
    (request.terms config snapshot).decision latest from rfl]
  cases (request.terms config snapshot).decision latest with
  | alreadyCovered => exact Or.inl ⟨_, _, rfl, Prod.ext rfl (s.bench.set_get st).symm⟩
  | needsManualRenewal => exact Or.inl ⟨_, _, rfl, Prod.ext rfl (s.bench.set_get st).symm⟩
  | renew =>
    simp only [Action.effect_bind, Action.effect_attempt, ends]
    rcases whole with rfl | plain
    · exact Or.inr ⟨b', trivial, course, rfl⟩
    simp only [plain]
    cases outcome with
    | ok renewal => exact Or.inl ⟨_, _, rfl, rfl⟩
    | error error => exact Or.inl ⟨_, _, rfl, rfl⟩
    | blocked => exact Or.inr ⟨b', trivial, course, rfl⟩

theorem renewDue_dropped (accounts : List GeneratedCredential) (st : σ)
    (valid : ∀ address, ((request.terms config snapshot).plan address).Valid) :
    (∃ rows b', (request.terms config snapshot).dealAll accounts (s.bench.get st) =
        (.ok rows, b') ∧
      ((s.engineDroppedIn drops protocols config).renewDue request snapshot accounts).effect st =
        (.ok rows, s.bench.set st b')) ∨
    ∃ b', (request.terms config snapshot).Halted accounts (s.bench.get st) b' ∧
      ((s.engineDroppedIn drops protocols config).renewDue request snapshot accounts).effect st =
        (.blocked, s.bench.set st b') := by
  induction accounts generalizing st with
  | nil => exact Or.inl ⟨[], s.bench.get st, rfl, Prod.ext rfl (s.bench.set_get st).symm⟩
  | cons latest rest ih =>
    simp only [Engine.renewDue, Action.effect_bind]
    rcases s.renewIfDue_dropped drops protocols config request st latest (valid _) with
      ⟨row, b₁, dealt, ends⟩ | ⟨b', decided, course, stuck⟩
    · simp only [ends, Outcome.chain_ok]
      have later := ih (s.bench.set st b₁)
      simp only [s.bench.get_set, s.bench.set_set] at later
      rcases later with ⟨rows, b₂, dealtRest, endsRest⟩ | ⟨b₂, halted, stuck⟩
      · refine Or.inl ⟨⟨latest.credential.address, row⟩ :: rows, b₂, ?_, by rw [endsRest]; rfl⟩
        rw [BatchTerms.dealAll, dealt, Outcome.chain_ok, dealtRest]
        rfl
      · exact Or.inr ⟨b₂, halted.cons dealt, by rw [stuck]; rfl⟩
    · exact Or.inr ⟨b', .here rest decided course, by rw [stuck]; rfl⟩

/-- A batch of which some waits are dropped is refused, or deals with its accounts as the whole one
does, or is blocked at one of them. -/
theorem runBatchRenewal_dropped (st : σ) :
    (∃ e, ((s.engineDroppedIn drops protocols config).runBatchRenewal request).effect st =
      (.error e, st)) ∨
    ∃ snapshot, (s.bench.get st).ledger.snapshot protocols = .ok snapshot ∧
      (∀ address, ((request.terms config snapshot).plan address).Valid) ∧
      ((∃ results b', (request.terms config snapshot).dealAll
          (s.bench.get st).store.credentials.latest.values (s.bench.get st) = (.ok results, b') ∧
        ((s.engineDroppedIn drops protocols config).runBatchRenewal request).effect st =
          (.ok ⟨request.lastValid, snapshot.currentRound, results⟩, s.bench.set st b')) ∨
      ∃ b', (request.terms config snapshot).Halted (s.bench.get st).store.credentials.latest.values
          (s.bench.get st) b' ∧
        ((s.engineDroppedIn drops protocols config).runBatchRenewal request).effect st =
          (.blocked, s.bench.set st b')) := by
  simp only [Engine.runBatchRenewal, Action.effect_within, engineDroppedIn_snapshot,
    engineDroppedIn_listCredentials]
  rw [Action.effect_bind, effect_listCredentials, Outcome.chain_ok, effect_checkedSnapshot]
  cases checked : (s.bench.get st).ledger.checkedSnapshot protocols request.lastValid with
  | error e => exact Or.inl ⟨e, rfl⟩
  | ok snapshot =>
    obtain ⟨taken, window, life⟩ := ScriptedLedger.checkedSnapshot_ok checked
    have valid : ∀ address, ((request.terms config snapshot).plan address).Valid :=
      fun address => ⟨window, life⟩
    refine Or.inr ⟨snapshot, taken, valid, ?_⟩
    simp only [Action.effect_bind, Action.effect_log, Outcome.chain_ok]
    rcases s.renewDue_dropped drops protocols config request
        (s.bench.get st).store.credentials.latest.values st valid with
      ⟨results, b', dealt, ends⟩ | ⟨b', halted, stuck⟩
    · exact Or.inl ⟨results, b', dealt, by rw [ends]; rfl⟩
    · exact Or.inr ⟨b', halted, by rw [stuck]; rfl⟩

end Station

end KeyRenewal
