import KeyRenewal.Proofs.Conflicts
import KeyRenewal.Proofs.Handovers
import KeyRenewal.Proofs.SameTransaction

/-!
# Registering a kept key again

A renewal that fails or is dropped may keep its new key, so that it can still be registered.
Bringing the account online with whatever key it has picks this one, since it ends later than all
others the account has. As long as the round, the rules and the fee are those of the attempt, the
transaction is the one of the attempt as well.
-/

namespace KeyRenewal

variable {σ : Type}

/-- A key that ends later than every other key of its account. -/
structure Keyring.Longest (keys : Keyring) (key : KeyHandle × Credential) : Prop where
  installed : key ∈ keys.toList
  later : ∀ e ∈ keys.toList, e.2.address = key.2.address → e = key ∨ e.2.lastValid < key.2.lastValid

theorem Keyring.Longest.latest {keys : Keyring} {key : KeyHandle × Credential}
    (longest : keys.Longest key) :
    keys.latest.find? key.2.address = some ⟨key.2, key.1⟩ := by
  have listing := keys.latest_latestOf
  obtain ⟨g, held⟩ := listing.complete key longest.installed
  have named : g.credential.address = key.2.address := listing.named _ held
  have reaches : key.2.lastValid ≤ g.credential.lastValid :=
    listing.greatest _ held key longest.installed rfl
  rcases longest.later _ (listing.installed _ held) named with same | shorter
  · obtain rfl : g = ⟨key.2, key.1⟩ := by
      rw [← same]
    exact OrderedMap.find?_of_mem held
  · exact absurd reaches (Round.not_le.mpr shorter)

/-- A new key is the longest of its account if all the old ones end before it. -/
theorem RenewalPlan.longest {p : RenewalPlan} {before after : Bench}
    (installed : p.key ∈ after.store.credentials.toList)
    (known : ∀ e ∈ after.store.credentials.toList, e.2.address = p.address →
      e = p.key ∨ e ∈ before.store.credentials.toList)
    (due : ∀ e ∈ before.store.credentials.toList, e.2.address = p.address →
      e.2.lastValid < p.horizon) : after.store.credentials.Longest p.key where
  installed := installed
  later e there mine := (known e there mine).imp_right fun old => due e old mine

/-- The keys and the version of the rules are the same. -/
structure Bench.SameTerms (b b' : Bench) : Prop where
  credentials : b'.store.credentials = b.store.credentials
  version : b'.ledger.version = b.ledger.version

/-- Bringing the account of a key online without naming a credential picks the key. The transaction
that is dispatched registers it; in a given round, over the default window and for a given fee, it
is a given one. -/
structure Station.Resubmits (s : Station σ) (protocols : ProtocolRegistry) (round : Round)
    (fee : UInt64) (key : KeyHandle × Credential) (attempted : StatusTransaction) (st : σ) :
    Prop where
  picks : ∀ config, ((s.engine protocols config).chooseCredential key.2.address
    (.online none)).effect st = (.ok (some key.2), st)
  dispatches : ∀ config change snapshot, change.address = key.2.address →
    change.intent = .online none →
    (s.engine protocols config).snapshot.effect st = (.ok snapshot, st) →
    ∃ t, t.address = key.2.address ∧ t.registration = some key.2.registration ∧
      ((s.engine protocols config).changeOnlineStatus change).effect st =
        (s.collaborators.dispatch t
          (.choose change.exportPath (config.waitModeOr change.waitMode))).effect st ∧
      ((s.bench.get st).ledger.round = round → change.firstValid = none →
        change.validRounds = none → config.feeOr change.fee = fee → t = attempted)

theorem StatusChangeRequest.length_ne_zero (change : StatusChangeRequest) {snapshot : RoundSnapshot}
    (lifetime : snapshot.parameters.maxTxnLife ≠ 0) : change.length snapshot ≠ 0 := by
  unfold length
  split
  · split
    · exact lifetime
    · assumption
  · exact lifetime

theorem Keyring.Longest.credential {keys : Keyring} {key : KeyHandle × Credential}
    (longest : keys.Longest key) {change : StatusChangeRequest}
    (mine : change.address = key.2.address) (intent : change.intent = .online none) :
    change.credential keys = .ok (some key.2) := by
  unfold StatusChangeRequest.credential
  simp only [intent, mine, longest.latest]

theorem Station.resubmits (s : Station σ) {protocols : ProtocolRegistry} {p : RenewalPlan}
    {l : ScriptedLedger} (taken : l.snapshot protocols = .ok p.snapshot) {st : σ}
    (longest : (s.bench.get st).store.credentials.Longest p.key)
    (version : (s.bench.get st).ledger.version = l.version) :
    s.Resubmits protocols l.round p.fee p.key p.transaction st := by
  constructor
  · intro config
    have chosen := s.effect_chooseCredential st protocols config
      ⟨p.address, .online none, none, none, none, none, none⟩
    rw [longest.credential rfl rfl] at chosen
    exact chosen
  · intro config change snapshot mine intent looked
    obtain ⟨taken', -⟩ := snapshot_of_effect looked
    obtain ⟨-, lifetime, -⟩ := ScriptedLedger.snapshot_round taken'
    let t : StatusTransaction := ⟨p.address, change.firstRound snapshot,
      (change.firstRound snapshot).advance (change.length snapshot), config.feeOr change.fee,
      some p.credential.registration⟩
    have built : change.transaction config snapshot (s.bench.get st).store.credentials = .ok t := by
      unfold StatusChangeRequest.transaction
      rw [longest.credential mine intent, mine]
      simp only [Engine.buildTransaction, StatusTransaction.build?,
        if_neg (change.length_ne_zero lifetime)]
      rfl
    refine ⟨t, rfl, rfl, ?_, ?_⟩
    · rw [s.changeOnlineStatus_effect, taken']
      simp only [built]
    · intro round first rounds fee
      obtain rfl := ScriptedLedger.snapshot_unique taken taken' version round
      simp only [t, StatusChangeRequest.firstRound, StatusChangeRequest.length, first, rounds, fee]
      rfl

/-- A key that is there afterwards and was not there before. -/
def Bench.NewKey (before after : Bench) (key : KeyHandle × Credential) : Prop :=
  key ∈ after.store.credentials.toList ∧ key ∉ before.store.credentials.toList

/-- The ways a renewal may end without success and keep its new key: its registration was accepted
and then rejected by the pool or lost sight of, it was to be exported, it was refused and the key
could not be deleted, or the renewal was dropped. -/
inductive KeepsKey (before after : Bench) : Outcome RenewalError Renewal → Prop
  | rejected (txId : TxId) (reason : String) :
    KeepsKey before after (.error (.poolRejected txId reason))
  | unanswered (source : ServiceError)
    (accepted : after.wallet.submitted ≠ before.wallet.submitted) :
    KeepsKey before after (.error (.queryFailed source))
  | unwritten (path : Path) (source : ServiceError) :
    KeepsKey before after (.error (.exportFailed path source))
  | leftBehind (address : Address) (source : ServiceError) :
    KeepsKey before after (.error (.registrationFailed address none source))
  | dropped : KeepsKey before after .blocked

/-- The transaction of an attempt to register a new key. It is built from the key, the snapshot and
the fee of the attempt, it is all that the attempt has handed to the wallet or the sink for the
account, and its identifier is the one a rejection by the pool is reported with. -/
structure Attempted (snapshot : RoundSnapshot) (fee : UInt64) (record : List Handover)
    (reported : RenewalError → Prop) (key : KeyHandle × Credential) (t : StatusTransaction) :
    Prop where
  built : Engine.buildTransaction key.2.address (some key.2) snapshot.currentRound
    snapshot.parameters.maxTxnLife fee = .ok t
  handed : ∀ handover ∈ record, handover.Carries fun t' => t'.address = key.2.address → t' = t
  txId : ∀ txId reason, reported (.poolRejected txId reason) → txId = ScriptedWallet.txIdFor t

/-- A key that an attempt has kept can be registered later on, as long as the keys and the version
of the rules are those the attempt has left. -/
def Station.Resubmittable (s : Station σ) (protocols : ProtocolRegistry) (fee : UInt64)
    (before after : Bench) (record : List Handover) (reported : RenewalError → Prop)
    (key : KeyHandle × Credential) : Prop :=
  ∃ snapshot attempted, before.ledger.snapshot protocols = .ok snapshot ∧
    Attempted snapshot fee record reported key attempted ∧
    ∀ later, after.SameTerms (s.bench.get later) →
      s.Resubmits protocols before.ledger.round fee key attempted later

section plan

variable {p : RenewalPlan} {b b' : Bench} {target : DispatchTarget}
  {outcome : Outcome RenewalError Renewal}

/-- A plan that is due makes a key that was not there. -/
theorem RenewalPlan.newKey
    (due : ∀ e ∈ b.store.credentials.toList, e.2.address = p.address → e.2.lastValid < p.horizon)
    (installed : p.key ∈ b'.store.credentials.toList) : b.NewKey b' p.key := by
  refine ⟨installed, fun old => ?_⟩
  exact absurd (Round.le_refl _) (Round.not_le.mpr (due p.key old rfl))

theorem Course.keeps (course : Course p b target outcome b') (keeps : KeepsKey b b' outcome) :
    p.key ∈ b'.store.credentials.toList := by
  cases course with
  | notMade | rolledBack => cases keeps
  | leftBehind mode source fresh =>
    exact (p.made_tally fresh).credentials.mem_iff.mpr List.mem_cons_self
  | sent mode fresh accepted progress =>
    exact (p.sent_tally fresh progress).credentials.mem_iff.mpr List.mem_cons_self
  | unwritten path source fresh =>
    exact (p.made_tally fresh).credentials.mem_iff.mpr List.mem_cons_self
  | written => cases keeps

theorem Course.txId {txId : TxId} {reason : String}
    (course : Course p b target (.error (.poolRejected txId reason)) b') :
    txId = ScriptedWallet.txIdFor p.transaction := by
  cases course with
  | sent mode fresh accepted progress =>
    cases accepted with
    | rejected => rfl

theorem Course.version (course : Course p b target outcome b') :
    b'.ledger.version = b.ledger.version := by
  cases course with
  | sent mode fresh accepted progress => exact progress.version
  | notMade | rolledBack | leftBehind | unwritten | written => rfl

theorem Refusal.keepsNothing {e : RenewalError} (refusal : Refusal b e) :
    ¬ KeepsKey b b (.error e) := by
  intro keeps
  cases refusal with
  | unreachable source mute =>
    cases keeps with
    | unanswered source accepted => exact accepted rfl
  | unknownProtocol | config | windowTooShort | covered => cases keeps

/-- Whatever a batch has come to, a new key is that of the plan for its account, and the account's
longest. -/
theorem BatchTerms.Rows.newKey {t : BatchTerms} {rows : Outcome RenewalError (List AccountResult)}
    (made : t.Rows b.store.credentials.latest.values b rows b') {key : KeyHandle × Credential}
    (new : b.NewKey b' key) :
    ∃ address, key = (t.plan address).key ∧ b'.store.credentials.Longest key := by
  rcases made.mem_credentials new.1 with ⟨latest, listed, decided, rfl⟩ | old
  · refine ⟨latest.credential.address, rfl,
      RenewalPlan.longest new.1 ?_ fun e => below_of_due listed decided⟩
    intro e installed mine
    rcases made.mem_credentials installed with ⟨other, -, -, rfl⟩ | old
    · have same : other.credential.address = latest.credential.address := mine
      exact Or.inl (by rw [same])
    · exact Or.inr old
  · exact absurd old new.2

/-- A batch that comes to its end has made a new key for each row that keeps one. -/
theorem BatchTerms.Completed.newKey {t : BatchTerms} {results : List AccountResult}
    (completed : t.Completed b.store.credentials.latest.values b results b') {row : AccountResult}
    (there : row ∈ results) (keeps : row.outcome.keepsKey = true) :
    ∃ key, b.NewKey b' key ∧ key.2.address = row.address := by
  obtain ⟨latest, listed, owner, b₁, b₂, made⟩ := completed.row row there
  have decided := made.shows.2.2.mp (AccountOutcome.isAttempt_of_keepsKey keeps)
  have installed := completed.key_installed there keeps
  rw [← owner] at installed
  exact ⟨_, RenewalPlan.newKey (fun e => below_of_due listed decided) installed, owner⟩

/-- A batch that is blocked has made a new key, whose registration was accepted last. -/
theorem BatchTerms.Halted.newKey {t : BatchTerms}
    (halted : t.Halted b.store.credentials.latest.values b b') :
    ∃ key t', b.NewKey b' key ∧ b'.wallet.submitted.getLast? = some t' ∧
      t'.address = key.2.address ∧ t'.registration = some key.2.registration := by
  obtain ⟨earlier, latest, later, rows, b₁, accounts, -, decided, course⟩ := halted
  have listed : latest ∈ b.store.credentials.latest.values := by simp [accounts]
  have new := RenewalPlan.newKey (fun e => below_of_due listed decided) (course.keeps .dropped)
  refine ⟨_, (t.plan latest.credential.address).transaction, new, ?_⟩
  cases course with
  | sent mode fresh accepted progress => exact ⟨List.getLast?_concat, rfl, rfl⟩

end plan

theorem Station.Planned.carries {s : Station σ} {st : σ} {protocols : ProtocolRegistry}
    {plan : RoundSnapshot → Address → RenewalPlan} {snapshot : RoundSnapshot} {handover : Handover}
    (planned : s.Planned st protocols plan handover)
    (taken : (s.bench.get st).ledger.snapshot protocols = .ok snapshot) :
    handover.Carries fun t => ∃ address, t = (plan snapshot address).transaction := by
  obtain ⟨snapshot', taken', carries⟩ := planned
  cases taken.symm.trans taken'
  exact carries.mono fun t ⟨address, _, same⟩ => ⟨address, same⟩

theorem Station.resubmittable (s : Station σ) {protocols : ProtocolRegistry} {p : RenewalPlan}
    (valid : p.Valid) {before after : Bench}
    (taken : before.ledger.snapshot protocols = .ok p.snapshot)
    (longest : after.store.credentials.Longest p.key)
    (version : after.ledger.version = before.ledger.version) {record : List Handover}
    (handed : ∀ handover ∈ record, handover.Carries fun t => t.address = p.address →
      t = p.transaction)
    {reported : RenewalError → Prop} (txId : ∀ txId reason, reported (.poolRejected txId reason) →
      txId = ScriptedWallet.txIdFor p.transaction) :
    s.Resubmittable protocols p.fee before after record reported p.key := by
  refine ⟨p.snapshot, p.transaction, taken, ⟨valid.builds, handed, txId⟩, ?_⟩
  intro later same
  exact s.resubmits taken (same.credentials ▸ longest) (same.version.trans version)

/-- A renewal of an account that ends without success in one of the ways that keep its new key has
kept one, and whatever key is new belongs to the account and can be registered later on. -/
structure Station.RenewalKeeps (s : Station σ) (protocols : ProtocolRegistry) (fee : UInt64)
    (address : Address) (before after : Bench) (record : List Handover)
    (outcome : Outcome RenewalError Renewal) : Prop where
  kept : KeepsKey before after outcome → ∃ key, before.NewKey after key
  address : ∀ key, before.NewKey after key → key.2.address = address
  resubmittable : ∀ key, before.NewKey after key →
    s.Resubmittable protocols fee before after record (outcome = .error ·) key

/-- A batch has kept a key for each row that says so, and one whose registration was the last to be
accepted if it was dropped. Whatever key is new can be registered later on. -/
structure Station.BatchKeeps (s : Station σ) (protocols : ProtocolRegistry) (fee : UInt64)
    (before after : Bench) (record : List Handover) (outcome : Outcome RenewalError BatchReport) :
    Prop where
  kept : ∀ report, outcome = .ok report → ∀ row ∈ report.results, row.outcome.keepsKey = true →
    ∃ key, before.NewKey after key ∧ key.2.address = row.address
  dropped : outcome = .blocked → ∃ key t, before.NewKey after key ∧
    after.wallet.submitted.getLast? = some t ∧ t.address = key.2.address ∧
    t.registration = some key.2.registration
  resubmittable : ∀ key, before.NewKey after key →
    s.Resubmittable protocols fee before after record
      (fun e => ∃ report, outcome = .ok report ∧ ⟨key.2.address, .failed e⟩ ∈ report.results) key

namespace Station

variable (s : Station σ) (drops : ScriptedLedger → Bool) (protocols : ProtocolRegistry)
  (config : EngineConfig) (st : σ)

theorem runSingleRenewal_keeps (request : RenewalRequest) :
    s.RenewalKeeps protocols (config.feeOr request.fee) request.address (s.bench.get st)
      (s.bench.get
        (((s.engineDroppedIn drops protocols config).runSingleRenewal request).run st).state)
      (((s.engineDroppedIn drops protocols config).recorded.runSingleRenewal request).run
        (st, [])).state.2
      (((s.engineDroppedIn drops protocols config).runSingleRenewal request).run st).outcome := by
  have planned := (s.runSingleRenewal_handsOver drops protocols config st request).allowed
  rcases s.runSingleRenewal_dropped drops protocols config st request with
    ⟨e, refusal, ended⟩ | ⟨snapshot, outcome, b', taken, valid, uncovered, course, ended⟩
  · obtain ⟨outcomes, state⟩ := Action.run_of_effect ended
    rw [outcomes, state]
    exact ⟨fun keeps => absurd keeps refusal.keepsNothing, fun key new => absurd new.1 new.2,
      fun key new => absurd new.1 new.2⟩
  · obtain ⟨outcomes, state⟩ := Action.run_of_effect ended
    rw [outcomes, state, s.bench.get_set]
    have due := Keyring.coverage?_eq_none_iff.mp uncovered
    have mine : ∀ key, (s.bench.get st).NewKey b' key → key = (request.plan config snapshot).key :=
      fun key new => (course.mem_credentials new.1).resolve_right new.2
    refine ⟨?_, ?_, ?_⟩
    · intro keeps
      exact ⟨_, RenewalPlan.newKey due (course.keeps keeps)⟩
    · intro key new
      rw [mine key new]
      rfl
    · intro key new
      obtain rfl := mine key new
      refine s.resubmittable valid taken ?_ course.version ?_ ?_
      · exact RenewalPlan.longest new.1 (fun e installed _ => course.mem_credentials installed) due
      · intro handover there
        refine ((planned handover there).carries taken).mono ?_
        rintro t ⟨-, rfl⟩ -
        rfl
      · rintro txId reason rfl
        exact course.txId

variable {s protocols} in
theorem resubmittable_of_rows (request : BatchRequest) {snapshot : RoundSnapshot} {b' : Bench}
    {outcome : Outcome RenewalError (List AccountResult)}
    (taken : (s.bench.get st).ledger.snapshot protocols = .ok snapshot)
    (valid : ∀ address, ((request.terms config snapshot).plan address).Valid)
    (rows : (request.terms config snapshot).Rows (s.bench.get st).store.credentials.latest.values
      (s.bench.get st) outcome b') {record : List Handover}
    (planned : ∀ handover ∈ record, s.Planned st protocols
      (fun snapshot => (request.terms config snapshot).plan) handover)
    {key : KeyHandle × Credential} (new : (s.bench.get st).NewKey b' key)
    {reported : RenewalError → Prop} (txId : ∀ txId reason, reported (.poolRejected txId reason) →
      txId = ScriptedWallet.txIdFor
        ((request.terms config snapshot).plan key.2.address).transaction) :
    s.Resubmittable protocols (config.feeOr request.fee) (s.bench.get st) b' record reported
      key := by
  obtain ⟨address, rfl, longest⟩ := rows.newKey new
  obtain ⟨_, _, _, _, -, -, -, -, tally⟩ := rows.tally
  refine s.resubmittable (valid address) taken longest tally.ledger.version ?_ txId
  intro handover there
  refine ((planned handover there).carries taken).mono ?_
  rintro t ⟨address', rfl⟩ mine
  have same : address' = address := mine
  rw [same]

theorem runBatchRenewal_keeps (request : BatchRequest) :
    s.BatchKeeps protocols (config.feeOr request.fee) (s.bench.get st)
      (s.bench.get
        (((s.engineDroppedIn drops protocols config).runBatchRenewal request).run st).state)
      (((s.engineDroppedIn drops protocols config).recorded.runBatchRenewal request).run
        (st, [])).state.2
      (((s.engineDroppedIn drops protocols config).runBatchRenewal request).run st).outcome := by
  have planned := (s.runBatchRenewal_handsOver drops protocols config st request).allowed
  rcases s.runBatchRenewal_dropped drops protocols config request st with
    ⟨e, ended⟩ | ⟨snapshot, taken, valid, ⟨results, b', dealt, ended⟩ | ⟨b', halted, ended⟩⟩
  · obtain ⟨outcomes, state⟩ := Action.run_of_effect ended
    rw [outcomes, state]
    refine ⟨?_, ?_, fun key new => absurd new.1 new.2⟩
    · rintro report ⟨⟩
    · rintro ⟨⟩
  · obtain ⟨outcomes, state⟩ := Action.run_of_effect ended
    rw [outcomes, state, s.bench.get_set]
    have rows := BatchTerms.dealAll_rows (t := request.terms config snapshot)
      (s.bench.get st).store.credentials.latest.values (s.bench.get st)
    rw [dealt] at rows
    have completed := rows.completed rfl
    refine ⟨?_, ?_, ?_⟩
    · rintro report ⟨⟩ row there keeps
      exact completed.newKey there keeps
    · rintro ⟨⟩
    · intro key new
      refine resubmittable_of_rows config st request taken valid rows planned new ?_
      rintro txId reason ⟨report, ⟨⟩, there⟩
      obtain ⟨latest, -, owner, b₁, b₂, made⟩ := completed.row _ there
      cases made with
      | failed decided course =>
        have mine : latest.credential.address = key.2.address := owner
        rw [← mine]
        exact course.txId
  · obtain ⟨outcomes, state⟩ := Action.run_of_effect ended
    rw [outcomes, state, s.bench.get_set]
    refine ⟨?_, ?_, ?_⟩
    · rintro report ⟨⟩
    · rintro -
      exact halted.newKey
    · intro key new
      refine resubmittable_of_rows config st request taken valid halted.rows planned new ?_
      rintro txId reason ⟨report, ⟨⟩, -⟩

end Station

/-- A key that a renewal or a batch has made and kept, in whatever way it has failed or been
dropped, can be registered later on: bringing the account online picks it, and as long as the round,
the fee and the window are those of the attempt, it does so with the transaction of the attempt. -/
theorem kept_keys_resubmittable (s : Station σ) (drops : ScriptedLedger → Bool)
    (protocols : ProtocolRegistry) (config : EngineConfig) (st : σ) :
    let engine := s.engineDroppedIn drops protocols config
    let before := s.bench.get st
    (∀ request,
      let run := (engine.runSingleRenewal request).run st
      let record := ((engine.recorded.runSingleRenewal request).run (st, [])).state.2
      s.RenewalKeeps protocols (config.feeOr request.fee) request.address before
        (s.bench.get run.state) record run.outcome) ∧
    ∀ request,
      let run := (engine.runBatchRenewal request).run st
      let record := ((engine.recorded.runBatchRenewal request).run (st, [])).state.2
      s.BatchKeeps protocols (config.feeOr request.fee) before (s.bench.get run.state) record
        run.outcome :=
  ⟨s.runSingleRenewal_keeps drops protocols config st,
    s.runBatchRenewal_keeps drops protocols config st⟩

/-- The wallet refuses an account, and its new key cannot be deleted. Once the wallet is willing,
the account is brought online with the transaction it refused. A batch keeps a key for the account
in the same way. -/
theorem kept_keys_resubmittable_of_refused :
    let st := World.ofBench .threeAccounts
    let engine := World.station.engineDroppedIn (fun _ => false) .testRules .leavingExpired
    let run := (engine.runSingleRenewal ⟨⟨"A"⟩, ⟨5000⟩, none, none, none, none⟩).run st
    let willing := World.ofBench { run.state.bench with wallet := .empty }
    run.outcome =
      .error (.registrationFailed ⟨"A"⟩ none (.rejected "wallet refused to sign for A")) ∧
    (∃ key attempted, Bench.threeAccounts.NewKey run.state.bench key ∧
      attempted.address = ⟨"A"⟩ ∧ attempted.registration = some key.2.registration ∧
      ((World.station.engine .testRules .leavingExpired).changeOnlineStatus
          ⟨⟨"A"⟩, .online none, none, none, none, none, none⟩).effect willing =
        (World.station.collaborators.dispatch attempted (.submit .waitForConfirmation)).effect
          willing) ∧
    ∃ key, Bench.threeAccounts.NewKey
        ((engine.runBatchRenewal ⟨⟨5000⟩, none, none, none⟩).run st).state.bench key ∧
      key.2.address = ⟨"A"⟩ := by
  intro st engine run willing
  obtain ⟨renewals, batches⟩ :=
    kept_keys_resubmittable World.station (fun _ => false) .testRules .leavingExpired st
  have failed : run.outcome = .error (.registrationFailed ⟨"A"⟩ none
      (.rejected "wallet refused to sign for A")) ∧
      willing.bench.ledger = Bench.threeAccounts.ledger := by decide +kernel
  have reported : ((engine.runBatchRenewal ⟨⟨5000⟩, none, none, none⟩).run st).outcome =
      .ok .ofThreeAccounts := by decide +kernel
  have renewal : ∃ record, World.station.RenewalKeeps .testRules 0 ⟨"A"⟩ .threeAccounts
      (World.station.bench.get run.state) record run.outcome :=
    ⟨_, renewals ⟨⟨"A"⟩, ⟨5000⟩, none, none, none, none⟩⟩
  clear_value run
  obtain ⟨record, renewal⟩ := renewal
  obtain ⟨key, new⟩ := renewal.kept (failed.1 ▸ .leftBehind _ _)
  obtain ⟨snapshot, attempted, taken, attempt, resubmits⟩ := renewal.resubmittable key new
  have looked : (World.station.engine .testRules .leavingExpired).snapshot.effect willing =
      (.ok ⟨⟨100⟩, ⟨ScriptedLedger.testVersion, 1000⟩⟩, willing) := by
    rw [World.station.effect_snapshot]
    show (Outcome.ofExcept (willing.bench.ledger.snapshot .testRules), willing) = _
    rw [failed.2]
    rfl
  obtain ⟨t, sender, registered, dispatched, same⟩ :=
    (resubmits willing ⟨rfl, rfl⟩).dispatches .leavingExpired
      ⟨⟨"A"⟩, .online none, none, none, none, none, none⟩ _ (renewal.address key new).symm rfl
      looked
  obtain rfl := same (congrArg ScriptedLedger.round failed.2) rfl rfl rfl
  obtain ⟨key', new', owner⟩ := (batches ⟨⟨5000⟩, none, none, none⟩).kept _ reported
    ⟨⟨"A"⟩, .failed (.registrationFailed ⟨"A"⟩ none (.rejected "wallet refused to sign for A"))⟩
    List.mem_cons_self rfl
  exact ⟨failed.1, ⟨key, t, new, sender.trans (renewal.address key new), registered, dispatched⟩,
    key', new', owner⟩

end KeyRenewal
