import KeyRenewal.Proofs.Execution

/-!
# Runs of an engine over a bench

A single renewal and a batch are either refused before they touch anything, or they carry out plans
whose windows have been checked. A batch is described row by row; a plain generation is a plan whose
key is made and not registered.
-/

namespace KeyRenewal

variable {σ : Type}

/-- The snapshot an engine takes of a scripted ledger. -/
def ScriptedLedger.snapshot (protocols : ProtocolRegistry) (l : ScriptedLedger) :
    Except RenewalError RoundSnapshot :=
  if l.failRoundQueries then .error (.queryFailed (.request "node unreachable"))
  else
    match protocols.lookup l.version with
    | .error e => .error e
    | .ok parameters =>
      if parameters.maxTxnLife = 0 then .error (.config (.zeroLifetimeInForce parameters.version))
      else .ok ⟨l.round, parameters⟩

/-- Why a run ends before it has changed anything. -/
inductive Refusal (b : Bench) : RenewalError → Prop
  | unreachable (source : ServiceError) (mute : b.ledger.failRoundQueries = true) :
    Refusal b (.queryFailed source)
  | unknownProtocol (version : ConsensusVersion) : Refusal b (.unknownProtocol version)
  | config (error : ConfigError) : Refusal b (.config error)
  | windowTooShort (horizon : Round) (maxTxnLife : UInt64) :
    Refusal b (.windowTooShort horizon b.ledger.round maxTxnLife)
  | covered (horizon existing : Round) : Refusal b (.existingCredential horizon existing)

namespace ScriptedLedger

variable {protocols : ProtocolRegistry} {snapshot : RoundSnapshot}

theorem snapshot_refused {b : Bench} {e : RenewalError}
    (failed : b.ledger.snapshot protocols = .error e) : Refusal b e := by
  unfold ScriptedLedger.snapshot at failed
  by_cases mute : b.ledger.failRoundQueries
  · rw [if_pos mute] at failed
    cases failed
    exact .unreachable _ mute
  rw [if_neg mute] at failed
  cases known : protocols.lookup b.ledger.version with
  | error e' =>
    simp only [known] at failed
    cases failed
    unfold ProtocolRegistry.lookup at known
    split at known
    · cases known
    · cases known
      exact .unknownProtocol _
  | ok parameters =>
    simp only [known] at failed
    split at failed
    · cases failed
      exact .config _
    · cases failed

theorem snapshot_round {l : ScriptedLedger} (taken : l.snapshot protocols = .ok snapshot) :
    snapshot.currentRound = l.round ∧ snapshot.parameters.maxTxnLife ≠ 0 ∧
      l.failRoundQueries = false := by
  unfold ScriptedLedger.snapshot at taken
  by_cases mute : l.failRoundQueries
  · rw [if_pos mute] at taken
    cases taken
  rw [if_neg mute] at taken
  split at taken
  · cases taken
  · split at taken
    · cases taken
    · rename_i life
      cases taken
      exact ⟨rfl, life, Bool.not_eq_true _ ▸ mute⟩

theorem snapshot_parameters {l : ScriptedLedger} (taken : l.snapshot protocols = .ok snapshot) :
    protocols.lookup l.version = .ok snapshot.parameters := by
  unfold ScriptedLedger.snapshot at taken
  by_cases mute : l.failRoundQueries
  · rw [if_pos mute] at taken
    cases taken
  rw [if_neg mute] at taken
  split at taken
  · cases taken
  · rename_i known
    split at taken
    · cases taken
    · cases taken
      exact known

/-- The round and the version of the rules determine the snapshot. -/
theorem snapshot_unique {l l' : ScriptedLedger} {snapshot' : RoundSnapshot}
    (taken : l.snapshot protocols = .ok snapshot) (taken' : l'.snapshot protocols = .ok snapshot')
    (version : l'.version = l.version) (round : l'.round = l.round) : snapshot' = snapshot := by
  have rounds : snapshot'.currentRound = snapshot.currentRound :=
    (snapshot_round taken').1.trans (round.trans (snapshot_round taken).1.symm)
  have rules := snapshot_parameters taken'
  rw [version, snapshot_parameters taken] at rules
  cases snapshot
  cases snapshot'
  cases rounds
  cases rules
  rfl

end ScriptedLedger

theorem checkWindow_ok {current horizon : Round} {life : UInt64}
    (passed : checkWindow current horizon life = .ok ()) : current.advance life < horizon := by
  unfold checkWindow at passed
  split at passed
  · cases passed
  · rename_i above
    exact Round.not_le.mp above

theorem checkWindow_error {b : Bench} {horizon : Round} {life : UInt64} {e : RenewalError}
    (failed : checkWindow b.ledger.round horizon life = .error e) : Refusal b e := by
  unfold checkWindow at failed
  split at failed
  · cases failed
    exact .windowTooShort _ _
  · cases failed

/-- The snapshot an operation works from, if its horizon clears the window. -/
def ScriptedLedger.checkedSnapshot (protocols : ProtocolRegistry) (horizon : Round)
    (l : ScriptedLedger) : Except RenewalError RoundSnapshot :=
  match l.snapshot protocols with
  | .error e => .error e
  | .ok snapshot =>
    match checkWindow snapshot.currentRound horizon snapshot.parameters.maxTxnLife with
    | .error e => .error e
    | .ok () => .ok snapshot

theorem ScriptedLedger.checkedSnapshot_ok {l : ScriptedLedger} {protocols : ProtocolRegistry}
    {horizon : Round} {snapshot : RoundSnapshot}
    (checked : l.checkedSnapshot protocols horizon = .ok snapshot) :
    l.snapshot protocols = .ok snapshot ∧
      snapshot.currentRound.advance snapshot.parameters.maxTxnLife < horizon ∧
      snapshot.parameters.maxTxnLife ≠ 0 := by
  unfold checkedSnapshot at checked
  cases taken : l.snapshot protocols with
  | error e =>
    rw [taken] at checked
    cases checked
  | ok snapshot' =>
    rw [taken] at checked
    cases window : checkWindow snapshot'.currentRound horizon snapshot'.parameters.maxTxnLife with
    | error e =>
      simp only [window] at checked
      cases checked
    | ok =>
      simp only [window] at checked
      cases checked
      exact ⟨rfl, checkWindow_ok window, (snapshot_round taken).2.1⟩

theorem ScriptedLedger.checkedSnapshot_of_ok {l : ScriptedLedger} {protocols : ProtocolRegistry}
    {horizon : Round} {snapshot : RoundSnapshot} (taken : l.snapshot protocols = .ok snapshot)
    (passed : checkWindow snapshot.currentRound horizon snapshot.parameters.maxTxnLife = .ok ()) :
    l.checkedSnapshot protocols horizon = .ok snapshot := by
  unfold checkedSnapshot
  rw [taken]
  simp only [passed]

theorem ScriptedLedger.checkedSnapshot_refused {b : Bench} {protocols : ProtocolRegistry}
    {horizon : Round} {e : RenewalError}
    (failed : b.ledger.checkedSnapshot protocols horizon = .error e) : Refusal b e := by
  unfold checkedSnapshot at failed
  cases taken : b.ledger.snapshot protocols with
  | error e' =>
    rw [taken] at failed
    cases failed
    exact snapshot_refused taken
  | ok snapshot =>
    obtain ⟨round, -, -⟩ := snapshot_round taken
    rw [taken] at failed
    cases window : checkWindow snapshot.currentRound horizon snapshot.parameters.maxTxnLife with
    | error e' =>
      simp only [window] at failed
      cases failed
      rw [round] at window
      exact checkWindow_error window
    | ok =>
      simp only [window] at failed
      cases failed

namespace Station

variable (s : Station σ) (st : σ) (protocols : ProtocolRegistry) (config : EngineConfig)

/-- Looking at the ledger leaves the state as it is. -/
theorem effect_observe {α : Type} (look : ScriptedLedger → α) :
    ((ScriptedLedger.observe look).focus (s.bench.trans Bench.ledgerLens)).effect st =
      if (s.bench.get st).ledger.failRoundQueries then (.error (.request "node unreachable"), st)
      else (.ok (look (s.bench.get st).ledger), st) := by
  have observed := ScriptedLedger.effect_observe look (s.bench.get st).ledger
  by_cases mute : (s.bench.get st).ledger.failRoundQueries
  · rw [if_pos mute]
    exact effect_of_look (observed.trans (if_pos mute))
  · rw [if_neg mute]
    exact effect_of_look (observed.trans (if_neg mute))

theorem effect_snapshot :
    (s.engine protocols config).snapshot.effect st =
      (.ofExcept ((s.bench.get st).ledger.snapshot protocols), st) := by
  have rounds := s.effect_observe st ScriptedLedger.round
  have params := s.effect_observe st (fun l => (⟨l.version, 0⟩ : SuggestedParams))
  change s.ledger.currentRound.effect st = _ at rounds
  change s.ledger.suggestedParams.effect st = _ at params
  simp only [Engine.snapshot, engine, collaborators, Action.effect_bind, Action.effect_mapError,
    rounds]
  unfold ScriptedLedger.snapshot
  by_cases mute : (s.bench.get st).ledger.failRoundQueries
  · simp only [if_pos mute]
    rfl
  simp only [if_neg mute, Outcome.mapError_ok, Outcome.chain_ok, params, Action.effect_ofExcept]
  cases protocols.lookup (s.bench.get st).ledger.version with
  | error e => rfl
  | ok parameters =>
    by_cases life : parameters.maxTxnLife = 0
    · simp [life]
    · simp [life]

variable {s st protocols config} in
/-- The snapshot that was taken is that of the ledger. -/
theorem snapshot_of_effect {snapshot : RoundSnapshot} {st' : σ}
    (taken : (s.engine protocols config).snapshot.effect st = (.ok snapshot, st')) :
    (s.bench.get st).ledger.snapshot protocols = .ok snapshot ∧ st' = st := by
  rw [effect_snapshot] at taken
  exact Action.ok_of_effect_ofExcept ((Action.effect_ofExcept _ st).trans taken)

theorem effect_listCredentials :
    (s.engine protocols config).listCredentials.effect st =
      (.ok (s.bench.get st).store.credentials, st) := by
  show (Outcome.ok (s.bench.get st).store.credentials, s.bench.set st (s.bench.get st)) = _
  rw [s.bench.set_get]

/-- Taking the snapshot and checking the window are one look at the ledger. -/
theorem effect_checkedSnapshot (horizon : Round) {α : Type}
    (next : RoundSnapshot → Action σ RenewalError α) :
    Action.effect (do
      let snapshot ← (s.engine protocols config).snapshot
      Action.ofExcept
        (checkWindow snapshot.currentRound horizon snapshot.parameters.maxTxnLife)
      next snapshot) st =
      match (s.bench.get st).ledger.checkedSnapshot protocols horizon with
      | .error e => (.error e, st)
      | .ok snapshot => (next snapshot).effect st := by
  simp only [Action.effect_bind, effect_snapshot, Action.effect_ofExcept,
    ScriptedLedger.checkedSnapshot]
  cases (s.bench.get st).ledger.snapshot protocols with
  | error e => rfl
  | ok snapshot =>
    simp only [Outcome.ofExcept_ok, Outcome.chain_ok]
    cases checkWindow snapshot.currentRound horizon snapshot.parameters.maxTxnLife with
    | error e => rfl
    | ok => rfl

end Station

/-- The terms a single renewal is carried out on. -/
def RenewalRequest.plan (request : RenewalRequest) (config : EngineConfig)
    (snapshot : RoundSnapshot) : RenewalPlan where
  address := request.address
  snapshot := snapshot
  horizon := request.lastValid
  fee := config.feeOr request.fee
  keyDilution := config.dilutionOr request.keyDilution

def RenewalRequest.target (request : RenewalRequest) (config : EngineConfig) : DispatchTarget :=
  .choose request.exportPath (config.waitModeOr request.waitMode)

namespace Station

variable (s : Station σ) (st : σ) (protocols : ProtocolRegistry) (config : EngineConfig)

/-- A single renewal checks its window, then looks for a credential that reaches its horizon, and
carries out its plan if there is none. -/
theorem runSingleRenewal_effect (request : RenewalRequest) :
    ((s.engine protocols config).runSingleRenewal request).effect st =
      match (s.bench.get st).ledger.checkedSnapshot protocols request.lastValid with
      | .error e => (.error e, st)
      | .ok snapshot =>
        match (s.bench.get st).store.credentials.coverage? request.address request.lastValid with
        | some existing => (.error (.existingCredential request.lastValid existing), st)
        | none =>
          (((request.plan config snapshot).result (request.target config) (s.bench.get st)).1,
            s.bench.set st ((request.plan config snapshot).result (request.target config)
              (s.bench.get st)).2) := by
  simp only [Engine.runSingleRenewal, Action.effect_within, effect_checkedSnapshot]
  cases checked : (s.bench.get st).ledger.checkedSnapshot protocols request.lastValid with
  | error e => rfl
  | ok snapshot =>
    simp only [Action.effect_bind, effect_listCredentials, Outcome.chain_ok]
    cases (s.bench.get st).store.credentials.coverage? request.address request.lastValid with
    | some existing => rfl
    | none =>
      obtain ⟨-, window, life⟩ := ScriptedLedger.checkedSnapshot_ok checked
      have valid : (request.plan config snapshot).Valid := ⟨window, life⟩
      exact s.renewAccount_effect st _ valid protocols config _

/-- A single renewal is refused, or no credential covers its horizon and it carries out its plan. -/
theorem runSingleRenewal_cases (request : RenewalRequest) :
    (∃ e, Refusal (s.bench.get st) e ∧
      ((s.engine protocols config).runSingleRenewal request).effect st = (.error e, st)) ∨
    ∃ snapshot, (s.bench.get st).ledger.snapshot protocols = .ok snapshot ∧
      (request.plan config snapshot).Valid ∧
      (s.bench.get st).store.credentials.coverage? request.address request.lastValid = none ∧
      ((s.engine protocols config).runSingleRenewal request).effect st =
        (((request.plan config snapshot).result (request.target config) (s.bench.get st)).1,
          s.bench.set st
            ((request.plan config snapshot).result (request.target config) (s.bench.get st)).2) := by
  rw [runSingleRenewal_effect]
  cases checked : (s.bench.get st).ledger.checkedSnapshot protocols request.lastValid with
  | error e => exact Or.inl ⟨e, ScriptedLedger.checkedSnapshot_refused checked, rfl⟩
  | ok snapshot =>
    obtain ⟨taken, window, life⟩ := ScriptedLedger.checkedSnapshot_ok checked
    cases (s.bench.get st).store.credentials.coverage? request.address request.lastValid with
    | some existing => exact Or.inl ⟨_, .covered request.lastValid existing, rfl⟩
    | none => exact Or.inr ⟨snapshot, taken, ⟨window, life⟩, rfl, rfl⟩

end Station

/-- A generation as a plan of which only the key is made. -/
def RenewalPlan.ofRange (address : Address) (firstValid lastValid : Round) (keyDilution : UInt64) :
    RenewalPlan :=
  ⟨address, ⟨firstValid, default⟩, lastValid, 0, keyDilution⟩

/-- A plain generation does nothing, or asks for a key and gets none, or makes a new key. -/
theorem Station.addCredential_cases (s : Station σ) (st : σ) (protocols : ProtocolRegistry)
    (config : EngineConfig) (address : Address) (firstValid lastValid : Round)
    (keyDilution : Option UInt64) :
    let p := RenewalPlan.ofRange address firstValid lastValid (config.dilutionOr keyDilution)
    ∃ b', (((s.engine protocols config).addCredential address firstValid lastValid keyDilution
        .managed).run st).state = s.bench.set st b' ∧
      (b' = s.bench.get st ∨ b' = p.asked (s.bench.get st) ∨
        (s.bench.get st).store.credentials.contains p.handle = false ∧
          b' = p.made (s.bench.get st)) := by
  intro p
  by_cases reversed : lastValid < firstValid
  · refine ⟨s.bench.get st, ?_, Or.inl rfl⟩
    rw [s.bench.set_get]
    simp only [Engine.addCredential, Collaborators.generate, if_pos reversed]
    rfl
  · have generated := congrArg Prod.snd (s.effect_generate st p reversed)
    change (((s.engine protocols config).addCredential address firstValid lastValid keyDilution
      .managed).run st).state = _ at generated
    rw [generated]
    by_cases failing : (s.bench.get st).store.failGenerationFor.contains p.address
    · exact ⟨_, by simp only [if_pos failing], Or.inr (Or.inl rfl)⟩
    by_cases taken : (s.bench.get st).store.credentials.contains p.handle
    · exact ⟨_, by simp only [if_neg failing, if_pos taken], Or.inr (Or.inl rfl)⟩
    · exact ⟨_, by simp only [if_neg failing, if_neg taken],
        Or.inr (Or.inr ⟨Bool.not_eq_true _ ▸ taken, rfl⟩)⟩

/-- The terms a batch is carried out on, the same for every account. -/
structure BatchTerms where
  snapshot : RoundSnapshot
  horizon : Round
  fee : UInt64
  keyDilution : UInt64
  mode : WaitMode
  policy : LapsePolicy

def BatchRequest.terms (request : BatchRequest) (config : EngineConfig)
    (snapshot : RoundSnapshot) : BatchTerms where
  snapshot := snapshot
  horizon := request.lastValid
  fee := config.feeOr request.fee
  keyDilution := config.dilutionOr request.keyDilution
  mode := config.waitModeOr request.waitMode
  policy := config.lapsePolicy

namespace BatchTerms

variable (t : BatchTerms)

def plan (address : Address) : RenewalPlan :=
  ⟨address, t.snapshot, t.horizon, t.fee, t.keyDilution⟩

def decision (latest : GeneratedCredential) : RenewalDecision :=
  t.policy.classify latest.credential.lastValid t.snapshot.currentRound t.horizon

/-- The row an account gets from the answer to its renewal. -/
def answered : Except RenewalError Renewal → AccountOutcome
  | .ok renewal => .renewed renewal
  | .error error => .failed error

/-- What dealing with one account does to a bench. -/
def deal (latest : GeneratedCredential) (b : Bench) : Outcome RenewalError AccountOutcome × Bench :=
  match t.decision latest with
  | .alreadyCovered => (.ok (.alreadyCovered latest.credential.lastValid), b)
  | .needsManualRenewal => (.ok (.needsManualRenewal latest.credential.lastValid), b)
  | .renew =>
    let renewed := (t.plan latest.credential.address).result (.submit t.mode) b
    (renewed.1.attempt.map answered, renewed.2)

/-- What dealing with accounts one after another does to a bench. -/
def dealAll : List GeneratedCredential → Bench →
    Outcome RenewalError (List AccountResult) × Bench
  | [], b => (.ok [], b)
  | latest :: rest, b =>
    Outcome.chain (fun row b₁ =>
      ((dealAll rest b₁).1.map (⟨latest.credential.address, row⟩ :: ·), (dealAll rest b₁).2))
      (t.deal latest b)

/-- One row of a batch, with the bench it starts from and the bench it leaves. -/
inductive Row (latest : GeneratedCredential) (b : Bench) : AccountOutcome → Bench → Prop
  | covered (decided : t.decision latest = .alreadyCovered) :
    Row latest b (.alreadyCovered latest.credential.lastValid) b
  | lapsed (decided : t.decision latest = .needsManualRenewal) :
    Row latest b (.needsManualRenewal latest.credential.lastValid) b
  | renewed {renewal : Renewal} {b' : Bench} (decided : t.decision latest = .renew)
    (course : Course (t.plan latest.credential.address) b (.submit t.mode) (.ok renewal) b') :
    Row latest b (.renewed renewal) b'
  | failed {error : RenewalError} {b' : Bench} (decided : t.decision latest = .renew)
    (course : Course (t.plan latest.credential.address) b (.submit t.mode) (.error error) b') :
    Row latest b (.failed error) b'

/-- The rows of a batch one after another. A batch that waits for ever stops at some account. -/
inductive Rows : List GeneratedCredential → Bench →
    Outcome RenewalError (List AccountResult) → Bench → Prop
  | nil (b : Bench) : Rows [] b (.ok []) b
  | cons {latest : GeneratedCredential} {rest : List GeneratedCredential} {b b₁ b₂ : Bench}
    {row : AccountOutcome} {rows : Outcome RenewalError (List AccountResult)}
    (first : t.Row latest b row b₁) (later : Rows rest b₁ rows b₂) :
    Rows (latest :: rest) b (rows.map (⟨latest.credential.address, row⟩ :: ·)) b₂
  | stuck {latest : GeneratedCredential} (rest : List GeneratedCredential) {b b' : Bench}
    (decided : t.decision latest = .renew)
    (course : Course (t.plan latest.credential.address) b (.submit t.mode) .blocked b') :
    Rows (latest :: rest) b .blocked b'

/-- The rows of a batch that comes to its end. -/
inductive Completed : List GeneratedCredential → Bench → List AccountResult → Bench → Prop
  | nil (b : Bench) : Completed [] b [] b
  | cons {latest : GeneratedCredential} {rest : List GeneratedCredential} {b b₁ b₂ : Bench}
    {row : AccountOutcome} {rows : List AccountResult}
    (first : t.Row latest b row b₁) (later : Completed rest b₁ rows b₂) :
    Completed (latest :: rest) b (⟨latest.credential.address, row⟩ :: rows) b₂

variable {t}

/-- Dealing with an account makes its row, or waits for ever in its renewal. -/
theorem deal_cases (latest : GeneratedCredential) (b : Bench) :
    (∃ row, (t.deal latest b).1 = .ok row ∧ t.Row latest b row (t.deal latest b).2) ∨
    (t.deal latest b).1 = .blocked ∧ t.decision latest = .renew ∧
      Course (t.plan latest.credential.address) b (.submit t.mode) .blocked (t.deal latest b).2 := by
  unfold deal
  cases decided : t.decision latest with
  | alreadyCovered => exact Or.inl ⟨_, rfl, .covered decided⟩
  | needsManualRenewal => exact Or.inl ⟨_, rfl, .lapsed decided⟩
  | renew =>
    have course := (t.plan latest.credential.address).result_course (.submit t.mode) b
    simp only
    generalize (t.plan latest.credential.address).result (.submit t.mode) b = last at course ⊢
    obtain ⟨renewal | error | _, b'⟩ := last
    · exact Or.inl ⟨_, rfl, .renewed decided course⟩
    · exact Or.inl ⟨_, rfl, .failed decided course⟩
    · exact Or.inr ⟨rfl, trivial, course⟩

/-- An account that is not to be renewed gets its row whatever the bench, which stays as it is. -/
theorem deal_skipped {latest : GeneratedCredential} (decided : t.decision latest ≠ .renew) :
    ∃ row, ∀ b, t.deal latest b = (.ok row, b) ∧ t.Row latest b row b := by
  unfold deal
  cases skipped : t.decision latest with
  | alreadyCovered => exact ⟨_, fun b => ⟨rfl, .covered skipped⟩⟩
  | needsManualRenewal => exact ⟨_, fun b => ⟨rfl, .lapsed skipped⟩⟩
  | renew => exact absurd skipped decided

/-- An account that is to be renewed gets the row of its answer, if nobody waits for transactions. -/
theorem deal_unwatched {latest : GeneratedCredential} (decided : t.decision latest = .renew)
    (unwatched : t.mode = .fireAndForget) (b : Bench) :
    ∃ answer b', (t.plan latest.credential.address).result (.submit t.mode) b =
        (.ofExcept answer, b') ∧
      t.deal latest b = (.ok (answered answer), b') ∧ b'.ledger = b.ledger := by
  obtain ⟨answer, b', ended, still⟩ := (t.plan latest.credential.address).result_unwatched b
  refine ⟨answer, b', unwatched ▸ ended, ?_, still⟩
  unfold deal
  simp only [decided, unwatched, ended]
  cases answer <;> rfl

theorem deal_ends (unwatched : t.mode = .fireAndForget) (latest : GeneratedCredential) (b : Bench) :
    ∃ row, (t.deal latest b).1 = .ok row ∧ t.Row latest b row (t.deal latest b).2 := by
  rcases deal_cases latest b with ended | ⟨waiting, decided, -⟩
  · exact ended
  · obtain ⟨answer, b', -, dealt, -⟩ := deal_unwatched decided unwatched b
    rw [dealt] at waiting
    cases waiting

theorem dealAll_cons {latest : GeneratedCredential} {rest : List GeneratedCredential} {b : Bench}
    {row : AccountOutcome} (ended : (t.deal latest b).1 = .ok row) :
    t.dealAll (latest :: rest) b =
      ((t.dealAll rest (t.deal latest b).2).1.map (⟨latest.credential.address, row⟩ :: ·),
        (t.dealAll rest (t.deal latest b).2).2) := by
  rw [dealAll]
  generalize t.deal latest b = dealt at ended ⊢
  obtain ⟨outcome, b₁⟩ := dealt
  obtain rfl : outcome = .ok row := ended
  rfl

/-- Dealing with the accounts one after another makes the rows of a batch. -/
theorem dealAll_rows (accounts : List GeneratedCredential) (b : Bench) :
    t.Rows accounts b (t.dealAll accounts b).1 (t.dealAll accounts b).2 := by
  induction accounts generalizing b with
  | nil => exact .nil b
  | cons latest rest ih =>
    unfold dealAll
    rcases deal_cases (t := t) latest b with ⟨row, ended, first⟩ | ⟨ended, decided, course⟩
    · generalize t.deal latest b = dealt at ended first ⊢
      obtain ⟨outcome, b₁⟩ := dealt
      obtain rfl : outcome = .ok row := ended
      exact .cons first (ih b₁)
    · generalize t.deal latest b = dealt at ended course ⊢
      obtain ⟨outcome, b₁⟩ := dealt
      obtain rfl : outcome = .blocked := ended
      exact .stuck rest decided course

theorem Rows.completed {accounts : List GeneratedCredential} {b b' : Bench}
    {outcome : Outcome RenewalError (List AccountResult)} {results : List AccountResult}
    (rows : t.Rows accounts b outcome b') (ended : outcome = .ok results) :
    t.Completed accounts b results b' := by
  induction rows generalizing results with
  | nil b =>
    cases ended
    exact .nil b
  | @cons latest rest b b₁ b₂ row outcome first later ih =>
    cases outcome with
    | ok rows =>
      cases ended
      exact .cons first (ih rfl)
    | error e => cases ended
    | blocked => cases ended
  | stuck => cases ended

end BatchTerms

namespace Station

variable (s : Station σ) (protocols : ProtocolRegistry) (config : EngineConfig)
  (request : BatchRequest) {snapshot : RoundSnapshot}

theorem renewIfDue_effect (st : σ) (latest : GeneratedCredential)
    (valid : ((request.terms config snapshot).plan latest.credential.address).Valid) :
    ((s.engine protocols config).renewIfDue request snapshot latest).effect st =
      (((request.terms config snapshot).deal latest (s.bench.get st)).1.map
          (⟨latest.credential.address, ·⟩),
        s.bench.set st ((request.terms config snapshot).deal latest (s.bench.get st)).2) := by
  have unchanged : s.bench.set st (s.bench.get st) = st := s.bench.set_get st
  have renewing : ((s.engine protocols config).renewAccount latest.credential.address snapshot
      request.lastValid ((s.engine protocols config).config.feeOr request.fee)
      ((s.engine protocols config).config.dilutionOr request.keyDilution)
      (.submit ((s.engine protocols config).config.waitModeOr request.waitMode))).effect st =
      ((((request.terms config snapshot).plan latest.credential.address).result
          (.submit (request.terms config snapshot).mode) (s.bench.get st)).1,
        s.bench.set st (((request.terms config snapshot).plan latest.credential.address).result
          (.submit (request.terms config snapshot).mode) (s.bench.get st)).2) :=
    s.renewAccount_effect st _ valid protocols config _
  unfold BatchTerms.deal Engine.renewIfDue
  -- The engine classifies on the very terms of the batch.
  change Action.effect (match (request.terms config snapshot).decision latest with
    | .alreadyCovered => _ | .needsManualRenewal => _ | .renew => _) st = _
  cases (request.terms config snapshot).decision latest with
  | alreadyCovered =>
    simp only [unchanged]
    rfl
  | needsManualRenewal =>
    simp only [unchanged]
    rfl
  | renew =>
    simp only [Action.effect_bind, Action.effect_attempt, renewing]
    generalize RenewalPlan.result _ _ _ = last
    obtain ⟨renewal | error | _, b'⟩ := last
    · rfl
    · rfl
    · rfl

theorem renewDue_effect (accounts : List GeneratedCredential) (st : σ)
    (valid : ∀ address, ((request.terms config snapshot).plan address).Valid) :
    ((s.engine protocols config).renewDue request snapshot accounts).effect st =
      (((request.terms config snapshot).dealAll accounts (s.bench.get st)).1,
        s.bench.set st ((request.terms config snapshot).dealAll accounts (s.bench.get st)).2) := by
  induction accounts generalizing st with
  | nil =>
    rw [BatchTerms.dealAll, s.bench.set_get]
    rfl
  | cons latest rest ih =>
    rw [Engine.renewDue, Action.effect_bind,
      s.renewIfDue_effect protocols config request st latest (valid _), BatchTerms.dealAll]
    generalize (request.terms config snapshot).deal latest (s.bench.get st) = dealt
    obtain ⟨row | error | _, b₁⟩ := dealt
    · simp only [Outcome.map_ok, Outcome.chain_ok, Action.effect_bind, ih, s.bench.get_set,
        s.bench.set_set, Action.effect_pure]
      generalize (request.terms config snapshot).dealAll rest b₁ = later
      obtain ⟨rows | error | _, b₂⟩ := later
      · rfl
      · rfl
      · rfl
    · rfl
    · rfl

/-- A batch checks its window and deals with the accounts that are listed. -/
theorem runBatchRenewal_effect (st : σ) :
    ((s.engine protocols config).runBatchRenewal request).effect st =
      match (s.bench.get st).ledger.checkedSnapshot protocols request.lastValid with
      | .error e => (.error e, st)
      | .ok snapshot =>
        let dealt := (request.terms config snapshot).dealAll
          (s.bench.get st).store.credentials.latest.values (s.bench.get st)
        (dealt.1.map (⟨request.lastValid, snapshot.currentRound, ·⟩), s.bench.set st dealt.2) := by
  rw [Engine.runBatchRenewal, Action.effect_within, Action.effect_bind, effect_listCredentials,
    Outcome.chain_ok, effect_checkedSnapshot]
  cases checked : (s.bench.get st).ledger.checkedSnapshot protocols request.lastValid with
  | error e => rfl
  | ok snapshot =>
    obtain ⟨-, window, life⟩ := ScriptedLedger.checkedSnapshot_ok checked
    have valid : ∀ address, ((request.terms config snapshot).plan address).Valid :=
      fun address => ⟨window, life⟩
    simp only [Action.effect_bind, Action.effect_log, Outcome.chain_ok,
      s.renewDue_effect protocols config request _ st valid]
    generalize (request.terms config snapshot).dealAll _ (s.bench.get st) = dealt
    obtain ⟨results | error | _, b'⟩ := dealt
    · rfl
    · rfl
    · rfl

/-- A batch is refused, or its window is checked and it makes the rows of its accounts. -/
theorem runBatchRenewal_cases (st : σ) :
    (∃ e, ((s.engine protocols config).runBatchRenewal request).effect st = (.error e, st)) ∨
    ∃ snapshot rows b', (s.bench.get st).ledger.snapshot protocols = .ok snapshot ∧
      (∀ address, ((request.terms config snapshot).plan address).Valid) ∧
      (request.terms config snapshot).Rows (s.bench.get st).store.credentials.latest.values
        (s.bench.get st) rows b' ∧
      ((s.engine protocols config).runBatchRenewal request).effect st =
        (rows.map (⟨request.lastValid, snapshot.currentRound, ·⟩), s.bench.set st b') := by
  rw [runBatchRenewal_effect]
  cases checked : (s.bench.get st).ledger.checkedSnapshot protocols request.lastValid with
  | error e => exact Or.inl ⟨e, rfl⟩
  | ok snapshot =>
    obtain ⟨taken, window, life⟩ := ScriptedLedger.checkedSnapshot_ok checked
    exact Or.inr ⟨snapshot, _, _, taken, fun address => ⟨window, life⟩,
      BatchTerms.dealAll_rows _ _, rfl⟩

/-- A batch that answers with a report has dealt with every account. -/
theorem runBatchRenewal_completed {st : σ} {report : BatchReport}
    (ended : (((s.engine protocols config).runBatchRenewal request).run st).outcome = .ok report) :
    ∃ snapshot b', (s.bench.get st).ledger.snapshot protocols = .ok snapshot ∧
      report.horizon = request.lastValid ∧ report.currentRound = (s.bench.get st).ledger.round ∧
      (request.terms config snapshot).Completed (s.bench.get st).store.credentials.latest.values
        (s.bench.get st) report.results b' ∧
      (((s.engine protocols config).runBatchRenewal request).run st).state = s.bench.set st b' := by
  rcases s.runBatchRenewal_cases protocols config request st with
    ⟨e, refused⟩ | ⟨snapshot, outcome, b', taken, -, rows, carried⟩
  · obtain ⟨outcomes, -⟩ := Action.run_of_effect refused
    cases ended.symm.trans outcomes
  · obtain ⟨outcomes, state⟩ := Action.run_of_effect carried
    have reported := ended.symm.trans outcomes
    cases outcome with
    | ok results =>
      cases reported
      exact ⟨snapshot, b', taken, rfl, (ScriptedLedger.snapshot_round taken).1,
        rows.completed rfl, state⟩
    | error e => cases reported
    | blocked => cases reported

end Station

end KeyRenewal
