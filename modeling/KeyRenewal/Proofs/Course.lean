import KeyRenewal.Proofs.Bench
import KeyRenewal.Proofs.OrderedMap

/-!
# The course of one renewal

Once its window has been checked, a renewal is determined by a plan and by the bench it starts from.
`RenewalPlan.result` says what it does as a function of the bench, and `Course` lists the ways that
may go. Everything proved about renewals is proved case by case over the courses.
-/

namespace KeyRenewal

/-- One renewal that is due: the account, the snapshot to work from, and the terms. -/
structure RenewalPlan where
  address : Address
  snapshot : RoundSnapshot
  horizon : Round
  fee : UInt64
  keyDilution : UInt64

/-- What remains to be done with the ledger once a transaction has been accepted. -/
def ScriptedLedger.follow (txId : TxId) : WaitMode → Action ScriptedLedger RenewalError DispatchOutcome
  | .fireAndForget => pure (.submitted txId)
  | .waitForConfirmation => do
    let start ← ledger.status.mapError .queryFailed
    let round ← ledger.awaitConfirmation txId start.lastRound
    return .confirmed txId round

/-- How following an accepted transaction may end. -/
inductive ScriptedLedger.Followed (txId : TxId) : Outcome RenewalError DispatchOutcome → Prop
  | submitted : Followed txId (.ok (.submitted txId))
  | confirmed (round : Round) : Followed txId (.ok (.confirmed txId round))
  | rejected (reason : String) : Followed txId (.error (.poolRejected txId reason))
  | unanswered (source : ServiceError) : Followed txId (.error (.queryFailed source))
  | blocked : Followed txId .blocked

theorem ScriptedLedger.follow_followed (txId : TxId) (mode : WaitMode) (l : ScriptedLedger) :
    Followed txId ((follow txId mode).effect l).1 ∧ Progress l ((follow txId mode).effect l).2 := by
  cases mode with
  | fireAndForget => exact ⟨.submitted, .refl l⟩
  | waitForConfirmation =>
    have observed := effect_observe (fun l => (⟨l.round⟩ : NodeStatus)) l
    have awaited := awaitConfirmation_verdict txId l.round l
    simp only [follow, Action.effect_bind, Action.effect_mapError]
    change (ledger.status).effect l = _ at observed
    rw [observed]
    by_cases mute : l.failRoundQueries
    · rw [if_pos mute]
      exact ⟨.unanswered _, .refl l⟩
    rw [if_neg mute, Outcome.mapError_ok, Outcome.chain_ok]
    generalize (ledger.awaitConfirmation txId l.round).effect l = last at awaited ⊢
    obtain ⟨outcome, l'⟩ := last
    obtain ⟨verdict, progress⟩ := awaited
    refine ⟨?_, ?_⟩
    · cases verdict with
      | confirmed round => exact .confirmed round
      | rejected reason => exact .rejected reason
      | unanswered source => exact .unanswered source
      | blocked => exact .blocked
    · cases verdict <;> exact progress

namespace RenewalPlan

variable (p : RenewalPlan)

/-- The window has been checked against the snapshot, whose rules know a lifetime. -/
structure Valid : Prop where
  window : p.snapshot.currentRound.advance p.snapshot.parameters.maxTxnLife < p.horizon
  lifetime : p.snapshot.parameters.maxTxnLife ≠ 0

variable {p} in
theorem Valid.ordered (valid : p.Valid) : ¬ p.horizon < p.snapshot.currentRound := by
  rw [Round.not_lt]
  exact Round.le_of_lt (Round.lt_of_le_of_lt (Round.le_advance _ _) valid.window)

def request : GenerationRequest where
  address := p.address
  firstValid := p.snapshot.currentRound
  lastValid := p.horizon
  keyDilution := resolveDilution p.keyDilution p.snapshot.currentRound p.horizon
  outputDir := none

def handle : KeyHandle := MemoryStore.handleFor p.address p.snapshot.currentRound p.horizon

def credential : Credential := MemoryStore.credentialFor p.request

def generated : GeneratedCredential := ⟨p.credential, p.handle⟩

/-- The go-online transaction that registers the new credential. -/
def transaction : StatusTransaction where
  address := p.address
  firstValid := p.snapshot.currentRound
  lastValid := p.snapshot.currentRound.advance p.snapshot.parameters.maxTxnLife
  fee := p.fee
  registration := some p.credential.registration

variable {p} in
theorem Valid.builds (valid : p.Valid) :
    Engine.buildTransaction p.address (some p.generated.credential) p.snapshot.currentRound
      p.snapshot.parameters.maxTxnLife p.fee = .ok p.transaction := by
  simp [Engine.buildTransaction, StatusTransaction.build?, valid.lifetime, transaction, generated]

def txId : TxId := ScriptedWallet.txIdFor p.transaction

/-- The bench after the store was asked for the key and made none. -/
def asked (b : Bench) : Bench :=
  { b with store := { b.store with requests := b.store.requests ++ [p.request] } }

/-- The bench with the new key installed. -/
def made (b : Bench) : Bench :=
  { p.asked b with store := { (p.asked b).store with
      credentials := b.store.credentials.insert p.handle p.credential } }

/-- The bench after the new key was deleted again. -/
def undone (b : Bench) : Bench :=
  { p.asked b with store := { (p.asked b).store with
      deleted := b.store.deleted ++ [p.handle] } }

/-- The bench with the new key installed and its registration accepted. -/
def sent (b : Bench) : Bench :=
  { p.made b with wallet := { b.wallet with
      submitted := b.wallet.submitted ++ [p.transaction] } }

/-- The bench with the new key installed and its registration written to a path. -/
def written (path : Path) (b : Bench) : Bench :=
  { p.made b with sink := { b.sink with
      artifacts := b.sink.artifacts.insert path
        (Envelope.unsigned p.transaction (b.wallet.multisig.find? p.address)).toCbor } }

/-- What registering the new credential does, and the rollback if that fails, given the bench the
key was not yet made on. -/
def registered (target : DispatchTarget) (b : Bench) : Outcome RenewalError Renewal × Bench :=
  match target with
  | .submit mode =>
    if b.wallet.refuses.contains p.address then
      let refusal := .rejected s!"wallet refused to sign for {p.address}"
      if b.store.failDeletes then (.error (.registrationFailed p.address none refusal), p.made b)
      else (.error (.registrationFailed p.address (some p.handle) refusal), p.undone b)
    else
      let followed := (ScriptedLedger.follow p.txId mode).effect b.ledger
      (followed.1.map (⟨p.address, p.generated, ·⟩), { p.sent b with ledger := followed.2 })
  | .file path =>
    if b.wallet.failLookups then
      (.error (.exportFailed path (.request "wallet unavailable")), p.made b)
    else if b.sink.failWrites then
      (.error (.exportFailed path (.io ⟨.permissionDenied, some "read-only sink"⟩)), p.made b)
    else (.ok ⟨p.address, p.generated, .exported path⟩, p.written path b)

/-- What carrying out the plan does to a bench. -/
def result (target : DispatchTarget) (b : Bench) : Outcome RenewalError Renewal × Bench :=
  if b.store.failGenerationFor.contains p.address then
    (.error (.generationFailed (.request "key generation failed")), p.asked b)
  else if b.store.credentials.contains p.handle then
    (.error (.generationFailed (.rejected s!"key file already exists: {p.handle}")), p.asked b)
  else p.registered target b

end RenewalPlan

/-- How a renewal may end once its registration has been accepted. -/
inductive RenewalPlan.Accepted (p : RenewalPlan) : Outcome RenewalError Renewal → Prop
  | submitted : Accepted p (.ok ⟨p.address, p.generated, .submitted p.txId⟩)
  | confirmed (round : Round) : Accepted p (.ok ⟨p.address, p.generated, .confirmed p.txId round⟩)
  | rejected (reason : String) : Accepted p (.error (.poolRejected p.txId reason))
  | unanswered (source : ServiceError) : Accepted p (.error (.queryFailed source))
  | blocked : Accepted p .blocked

theorem ScriptedLedger.Followed.accepted {p : RenewalPlan}
    {outcome : Outcome RenewalError DispatchOutcome} (followed : Followed p.txId outcome) :
    p.Accepted (outcome.map (⟨p.address, p.generated, ·⟩)) := by
  cases followed with
  | submitted => exact .submitted
  | confirmed round => exact .confirmed round
  | rejected reason => exact .rejected reason
  | unanswered source => exact .unanswered source
  | blocked => exact .blocked

/-- The ways a renewal may go on a bench, each with the outcome and the bench it leaves. Wherever a
key was made, its handle was not taken before. -/
inductive Course (p : RenewalPlan) (b : Bench) :
    DispatchTarget → Outcome RenewalError Renewal → Bench → Prop
  /-- No key was made. -/
  | notMade (target : DispatchTarget) (source : ServiceError) :
    Course p b target (.error (.generationFailed source)) (p.asked b)
  /-- The registration was refused and the key deleted again. -/
  | rolledBack (mode : WaitMode) (source : ServiceError)
    (fresh : b.store.credentials.contains p.handle = false) :
    Course p b (.submit mode) (.error (.registrationFailed p.address (some p.handle) source))
      (p.undone b)
  /-- The registration was refused and the key could not be deleted. -/
  | leftBehind (mode : WaitMode) (source : ServiceError)
    (fresh : b.store.credentials.contains p.handle = false)
    (failing : b.store.failDeletes = true) :
    Course p b (.submit mode) (.error (.registrationFailed p.address none source)) (p.made b)
  /-- The registration was accepted and followed. -/
  | sent (mode : WaitMode) {outcome : Outcome RenewalError Renewal} {ledger : ScriptedLedger}
    (fresh : b.store.credentials.contains p.handle = false) (accepted : p.Accepted outcome)
    (progress : ScriptedLedger.Progress b.ledger ledger) :
    Course p b (.submit mode) outcome { p.sent b with ledger := ledger }
  /-- The unsigned registration could not be written. -/
  | unwritten (path : Path) (source : ServiceError)
    (fresh : b.store.credentials.contains p.handle = false) :
    Course p b (.file path) (.error (.exportFailed path source)) (p.made b)
  /-- The unsigned registration was written. -/
  | written (path : Path) (fresh : b.store.credentials.contains p.handle = false) :
    Course p b (.file path) (.ok ⟨p.address, p.generated, .exported path⟩) (p.written path b)

namespace RenewalPlan

theorem result_course (p : RenewalPlan) (target : DispatchTarget) (b : Bench) :
    Course p b target (p.result target b).1 (p.result target b).2 := by
  unfold result
  by_cases failing : b.store.failGenerationFor.contains p.address
  · rw [if_pos failing]
    exact .notMade target _
  rw [if_neg failing]
  by_cases taken : b.store.credentials.contains p.handle
  · rw [if_pos taken]
    exact .notMade target _
  rw [if_neg taken]
  have fresh : b.store.credentials.contains p.handle = false := Bool.not_eq_true _ ▸ taken
  unfold registered
  cases target with
  | submit mode =>
    by_cases refused : b.wallet.refuses.contains p.address
    · by_cases keeps : b.store.failDeletes
      · simp only [if_pos refused, if_pos keeps]
        exact .leftBehind mode _ fresh keeps
      · simp only [if_pos refused, if_neg keeps]
        exact .rolledBack mode _ fresh
    · obtain ⟨followed, progress⟩ := ScriptedLedger.follow_followed p.txId mode b.ledger
      simp only [if_neg refused]
      exact .sent mode fresh followed.accepted progress
  | file path =>
    by_cases blind : b.wallet.failLookups
    · simp only [if_pos blind]
      exact .unwritten path _ fresh
    by_cases readOnly : b.sink.failWrites
    · simp only [if_neg blind, if_pos readOnly]
      exact .unwritten path _ fresh
    · simp only [if_neg blind, if_neg readOnly]
      exact .written path fresh

/-- A renewal that does not wait for its transaction has an answer and leaves the ledger alone. -/
theorem result_unwatched (p : RenewalPlan) (b : Bench) :
    ∃ answer b', p.result (.submit .fireAndForget) b = (.ofExcept answer, b') ∧
      b'.ledger = b.ledger := by
  unfold result
  by_cases failing : b.store.failGenerationFor.contains p.address
  · rw [if_pos failing]
    exact ⟨.error _, _, rfl, rfl⟩
  by_cases taken : b.store.credentials.contains p.handle
  · rw [if_neg failing, if_pos taken]
    exact ⟨.error _, _, rfl, rfl⟩
  rw [if_neg failing, if_neg taken]
  unfold registered
  by_cases refused : b.wallet.refuses.contains p.address
  · by_cases keeps : b.store.failDeletes
    · simp only [if_pos refused, if_pos keeps]
      exact ⟨.error _, _, rfl, rfl⟩
    · simp only [if_pos refused, if_neg keeps]
      exact ⟨.error _, _, rfl, rfl⟩
  · simp only [if_neg refused]
    exact ⟨.ok _, _, rfl, rfl⟩

end RenewalPlan

/-- A renewal installs no key but its own. -/
theorem Course.mem_credentials {p : RenewalPlan} {b b' : Bench} {target : DispatchTarget}
    {outcome : Outcome RenewalError Renewal} (course : Course p b target outcome b')
    {e : KeyHandle × Credential} (installed : e ∈ b'.store.credentials.toList) :
    e = (p.handle, p.credential) ∨ e ∈ b.store.credentials.toList := by
  cases course with
  | notMade | rolledBack => exact Or.inr installed
  | leftBehind mode source fresh => exact (OrderedMap.mem_insert_of_fresh fresh).mp installed
  | sent mode fresh => exact (OrderedMap.mem_insert_of_fresh fresh).mp installed
  | unwritten path source fresh => exact (OrderedMap.mem_insert_of_fresh fresh).mp installed
  | written path fresh => exact (OrderedMap.mem_insert_of_fresh fresh).mp installed

end KeyRenewal
