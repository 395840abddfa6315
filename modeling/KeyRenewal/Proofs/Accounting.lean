import KeyRenewal.Proofs.Latest
import KeyRenewal.Proofs.Tally
import Mathlib.Data.List.Nodup

/-!
# The accounts of a batch

A batch that answers with a report has one row for every account that owns a credential. Each row
says what was decided from the account's latest credential, and the rows together say exactly which
keys are new, which transactions went out and which keys were deleted again.
-/

namespace KeyRenewal

variable {σ : Type}

namespace AccountOutcome

/-- Whether a renewal of the account was begun. -/
def isAttempt : AccountOutcome → Bool
  | renewed _ | failed _ => true
  | _ => false

/-- Whether the account is left with a new key. -/
def keepsKey : AccountOutcome → Bool
  | renewed _ => true
  | failed (.poolRejected ..) | failed (.queryFailed _) => true
  | failed (.registrationFailed _ none _) => true
  | _ => false

/-- Whether a registration of the account was accepted. -/
def isSent : AccountOutcome → Bool
  | renewed _ => true
  | failed (.poolRejected ..) | failed (.queryFailed _) => true
  | _ => false

/-- The new key that was deleted again. -/
def rolledBack? : AccountOutcome → Option KeyHandle
  | failed (.registrationFailed _ handle _) => handle
  | _ => none

theorem isAttempt_of_keepsKey {row : AccountOutcome} (keeps : row.keepsKey = true) :
    row.isAttempt = true := by
  cases row with
  | renewed | failed => rfl
  | alreadyCovered | needsManualRenewal => cases keeps

theorem keepsKey_of_isSent {row : AccountOutcome} (sent : row.isSent = true) :
    row.keepsKey = true := by
  unfold isSent at sent
  split at sent
  · rfl
  · rfl
  · rfl
  · cases sent

end AccountOutcome

/-- The accounts whose rows are of some kind, in the order of the rows. -/
def accountsWith (kind : AccountOutcome → Bool) (results : List AccountResult) : List Address :=
  (results.filter (kind ·.outcome)).map (·.address)

theorem map_accountsWith_cons {β : Type} (kind : AccountOutcome → Bool) (f : Address → β)
    (address : Address) (row : AccountOutcome) (rows : List AccountResult) :
    (accountsWith kind (⟨address, row⟩ :: rows)).map f =
      (if kind row then [f address] else []) ++ (accountsWith kind rows).map f := by
  cases chosen : kind row <;> simp [accountsWith, chosen]

theorem filterMap_rolledBack?_cons (address : Address) (row : AccountOutcome)
    (rows : List AccountResult) :
    (⟨address, row⟩ :: rows : List AccountResult).filterMap (·.outcome.rolledBack?) =
      row.rolledBack?.toList ++ rows.filterMap (·.outcome.rolledBack?) := by
  cases rolled : row.rolledBack? <;> simp [rolled]

/-- The round in which the last credential of an account ends. -/
def Keyring.EndsIn (keys : Keyring) (address : Address) (last : Round) : Prop :=
  (∃ e ∈ keys.toList, e.2.address = address ∧ e.2.lastValid = last) ∧
    ∀ e ∈ keys.toList, e.2.address = address → e.2.lastValid ≤ last

/-- What a batch decides for an account, given the round in which its last credential ends. -/
structure DecidedBy (policy : LapsePolicy) (current horizon last : Round) (row : AccountOutcome) :
    Prop where
  covered : row = .alreadyCovered last ↔ horizon ≤ last
  lapsed : row = .needsManualRenewal last ↔
    last < horizon ∧ (policy = .manualBelowHorizon ∨ last < current)
  attempted : row.isAttempt = true ↔
    last < horizon ∧ ¬ (policy = .manualBelowHorizon ∨ last < current)

theorem LapsePolicy.classify_cases (policy : LapsePolicy) (last current horizon : Round) :
    (policy.classify last current horizon = .alreadyCovered ↔ horizon ≤ last) ∧
    (policy.classify last current horizon = .needsManualRenewal ↔
      last < horizon ∧ (policy = .manualBelowHorizon ∨ last < current)) ∧
    (policy.classify last current horizon = .renew ↔
      last < horizon ∧ ¬ (policy = .manualBelowHorizon ∨ last < current)) := by
  unfold LapsePolicy.classify
  by_cases reaches : horizon ≤ last
  · have notBelow : ¬ last < horizon := fun below => Round.not_le.mpr below reaches
    simp [reaches, notBelow]
  · have below : last < horizon := Round.not_le.mp reaches
    cases policy with
    | manualBelowHorizon => simp [reaches, below]
    | manualWhenExpired => by_cases expired : last < current <;> simp [reaches, below, expired]

theorem Keyring.EndsIn.unique {keys : Keyring} {address : Address} {m n : Round}
    (hm : keys.EndsIn address m) (hn : keys.EndsIn address n) : m = n := by
  obtain ⟨⟨x, hx, ownsX, rfl⟩, aboveM⟩ := hm
  obtain ⟨⟨y, hy, ownsY, rfl⟩, aboveN⟩ := hn
  exact Round.le_antisymm (aboveN x hx ownsX) (aboveM y hy ownsY)

/-- An account is covered exactly if its last credential reaches the horizon, and by that one. -/
theorem Keyring.coverage?_eq_some_iff {keys : Keyring} {address : Address} {horizon last : Round} :
    keys.coverage? address horizon = some last ↔ keys.EndsIn address last ∧ horizon ≤ last := by
  have sound : ∀ {m}, keys.coverage? address horizon = some m →
      keys.EndsIn address m ∧ horizon ≤ m := by
    intro m covered
    obtain ⟨c, chosen, rfl⟩ := List.mem_map.mp (List.max?_mem covered)
    obtain ⟨there, covers⟩ := List.mem_filter.mp chosen
    obtain ⟨e, installed, rfl⟩ := List.mem_map.mp there
    simp only [Credential.covers, Bool.and_eq_true, beq_iff_eq, decide_eq_true_eq] at covers
    refine ⟨⟨⟨e, installed, covers.1, rfl⟩, ?_⟩, covers.2⟩
    intro e' installed' mine
    by_cases reaches : horizon ≤ e'.2.lastValid
    · refine (List.max?_le_iff covered).mp (Round.le_refl _) _ (List.mem_map_of_mem ?_)
      refine List.mem_filter.mpr ⟨List.mem_map_of_mem installed', ?_⟩
      simp [Credential.covers, mine, reaches]
    · exact Round.le_trans (Round.le_of_lt (Round.not_le.mp reaches)) covers.2
  refine ⟨sound, ?_⟩
  rintro ⟨ends, reaches⟩
  cases covered : keys.coverage? address horizon with
  | none =>
    obtain ⟨e, installed, mine, rfl⟩ := ends.1
    have short := Keyring.coverage?_eq_none_iff.mp covered e installed mine
    exact absurd reaches (Round.not_le.mpr short)
  | some existing => exact congrArg some ((sound covered).1.unique ends)

namespace BatchTerms

variable {t : BatchTerms} {latest : GeneratedCredential} {b b' : Bench}

/-- A row shows the decision it comes from. -/
theorem Row.shows {row : AccountOutcome} (made : t.Row latest b row b') :
    (row = .alreadyCovered latest.credential.lastValid ↔ t.decision latest = .alreadyCovered) ∧
    (row = .needsManualRenewal latest.credential.lastValid ↔
      t.decision latest = .needsManualRenewal) ∧
    (row.isAttempt = true ↔ t.decision latest = .renew) := by
  cases made with
  | covered decided => simp [decided, AccountOutcome.isAttempt]
  | lapsed decided => simp [decided, AccountOutcome.isAttempt]
  | renewed decided course => simp [decided, AccountOutcome.isAttempt]
  | failed decided course => simp [decided, AccountOutcome.isAttempt]

theorem Row.decidedBy {row : AccountOutcome} (made : t.Row latest b row b') :
    DecidedBy t.policy t.snapshot.currentRound t.horizon latest.credential.lastValid row := by
  obtain ⟨covered, lapsed, renew⟩ := t.policy.classify_cases latest.credential.lastValid
    t.snapshot.currentRound t.horizon
  obtain ⟨showsCovered, showsLapsed, showsRenew⟩ := made.shows
  exact ⟨showsCovered.trans covered, showsLapsed.trans lapsed, showsRenew.trans renew⟩

/-- What one row adds to the bench. -/
theorem Row.tally {row : AccountOutcome} (made : t.Row latest b row b') :
    let p := t.plan latest.credential.address
    Tally b b' (if row.isAttempt then [p.request] else []) (if row.keepsKey then [p.key] else [])
      row.rolledBack?.toList (if row.isSent then [p.transaction] else []) := by
  cases made with
  | covered => exact .refl b
  | lapsed => exact .refl b
  | renewed decided course =>
    cases course with
    | sent mode fresh accepted progress => exact RenewalPlan.sent_tally _ fresh progress
  | failed decided course =>
    cases course with
    | notMade _ source => exact RenewalPlan.asked_tally _ b
    | rolledBack mode source fresh => exact RenewalPlan.undone_tally _ b
    | leftBehind mode source fresh failing => exact RenewalPlan.made_tally _ fresh
    | sent mode fresh accepted progress =>
      cases accepted with
      | rejected reason => exact RenewalPlan.sent_tally _ fresh progress
      | unanswered source => exact RenewalPlan.sent_tally _ fresh progress

variable {accounts : List GeneratedCredential} {results : List AccountResult}

theorem Completed.addresses (completed : t.Completed accounts b results b') :
    results.map (·.address) = accounts.map (·.credential.address) := by
  induction completed with
  | nil b => rfl
  | cons first later ih => exact congrArg (_ :: ·) ih

/-- What the rows of a batch add to the bench. -/
theorem Completed.tally (completed : t.Completed accounts b results b') :
    Tally b b' ((accountsWith (·.isAttempt) results).map (fun address => (t.plan address).request))
      ((accountsWith (·.keepsKey) results).map (fun address => (t.plan address).key))
      (results.filterMap (·.outcome.rolledBack?))
      ((accountsWith (·.isSent) results).map (fun address => (t.plan address).transaction)) := by
  induction completed with
  | nil b => exact .refl b
  | cons first later ih =>
    simp only [map_accountsWith_cons, filterMap_rolledBack?_cons]
    exact first.tally.trans ih

/-- Every credential an account is left with is an old one, or the new one if its row keeps one. -/
theorem Completed.mem_credentials (completed : t.Completed accounts b results b')
    (distinct : (results.map (·.address)).Nodup) {row : AccountResult} (there : row ∈ results)
    {e : KeyHandle × Credential} (installed : e ∈ b'.store.credentials.toList)
    (mine : e.2.address = row.address) :
    (row.outcome.keepsKey = true ∧ e = (t.plan row.address).key) ∨
      e ∈ b.store.credentials.toList := by
  rcases List.mem_append.mp (completed.tally.credentials.mem_iff.mp installed) with new | old
  · obtain ⟨address, chosen, rfl⟩ := List.mem_map.mp new
    obtain ⟨row', kept, rfl⟩ := List.mem_map.mp chosen
    obtain ⟨there', keeps⟩ := List.mem_filter.mp kept
    obtain rfl : row' = row := List.inj_on_of_nodup_map distinct there' there mine
    exact Or.inl ⟨keeps, rfl⟩
  · exact Or.inr old

/-- A row that keeps a key leaves it installed. -/
theorem Completed.key_installed (completed : t.Completed accounts b results b')
    {row : AccountResult} (there : row ∈ results) (keeps : row.outcome.keepsKey = true) :
    (t.plan row.address).key ∈ b'.store.credentials.toList := by
  have listed : row.address ∈ accountsWith (·.keepsKey) results :=
    List.mem_map_of_mem (List.mem_filter.mpr ⟨there, keeps⟩)
  exact completed.tally.credentials.mem_iff.mpr (List.mem_append_left _
    (List.mem_map_of_mem (f := fun address => (t.plan address).key) listed))

/-- Every row is that of a listed account. -/
theorem Completed.row (completed : t.Completed accounts b results b') :
    ∀ row ∈ results, ∃ latest ∈ accounts, latest.credential.address = row.address ∧
      ∃ b₁ b₂, t.Row latest b₁ row.outcome b₂ := by
  induction completed with
  | nil b =>
    intro row none
    cases none
  | @cons latest rest b b₁ b₂ row rows first later ih =>
    intro row' there
    rcases List.mem_cons.mp there with rfl | there
    · exact ⟨latest, List.mem_cons_self, rfl, b, b₁, first⟩
    · obtain ⟨latest', listed, same, made⟩ := ih row' there
      exact ⟨latest', List.mem_cons_of_mem _ listed, same, made⟩

/-- What is deleted again is the new key of the account. -/
theorem Row.rolledBack {row : AccountOutcome} (made : t.Row latest b row b') {handle : KeyHandle}
    (rolled : row.rolledBack? = some handle) :
    handle = (t.plan latest.credential.address).handle := by
  cases made with
  | covered | lapsed | renewed => cases rolled
  | failed decided course =>
    cases course with
    | rolledBack mode source fresh => exact (Option.some.inj rolled).symm
    | notMade | leftBehind => cases rolled
    | sent mode fresh accepted progress => cases accepted <;> cases rolled

end BatchTerms

theorem Keyring.latest_endsIn {keys : Keyring} {g : GeneratedCredential}
    (listed : g ∈ keys.latest.values) :
    keys.EndsIn g.credential.address g.credential.lastValid := by
  refine ⟨⟨_, latest_installed listed, rfl, rfl⟩, ?_⟩
  intro e he mine
  exact latest_greatest listed he mine

/-- An account that is due has only credentials that end before the horizon. -/
theorem BatchTerms.below_of_due {t : BatchTerms} {keys : Keyring} {latest : GeneratedCredential}
    (listed : latest ∈ keys.latest.values) (decided : t.decision latest = .renew)
    {e : KeyHandle × Credential} (installed : e ∈ keys.toList)
    (mine : e.2.address = latest.credential.address) : e.2.lastValid < t.horizon :=
  Round.lt_of_le_of_lt (Keyring.latest_greatest listed installed mine)
    ((t.policy.classify_cases _ _ _).2.2.mp decided).1

/-- The key a batch makes for an account: it runs from the round of the batch to its horizon. -/
structure BatchKey (current horizon : Round) (address : Address) (key : KeyHandle × Credential) :
    Prop where
  handle : key.1 = MemoryStore.handleFor address current horizon
  address : key.2.address = address
  firstValid : key.2.firstValid = current
  lastValid : key.2.lastValid = horizon

/-- The full account of a batch: whose rows there are, what each was decided from, and what the rows
together have done. -/
structure BatchAccounts (policy : LapsePolicy) (horizon : Round) (before after : Bench)
    (report : BatchReport) : Prop where
  horizon : report.horizon = horizon
  current : report.currentRound = before.ledger.round
  ordered : (report.results.map (·.address)).Pairwise (compare · · = .lt)
  owners : ∀ address, address ∈ report.results.map (·.address) ↔
    ∃ e ∈ before.store.credentials.toList, e.2.address = address
  decided : ∀ row ∈ report.results, ∃ last, before.store.credentials.EndsIn row.address last ∧
    DecidedBy policy report.currentRound report.horizon last row.outcome
  effects : ∃ (asked : Address → GenerationRequest) (key : Address → KeyHandle × Credential)
    (transaction : Address → StatusTransaction),
    (∀ address, BatchKey report.currentRound report.horizon address (key address)) ∧
    (∀ address, (transaction address).address = address ∧
      (transaction address).registration = some (key address).2.registration) ∧
    (∀ row ∈ report.results, ∀ handle, row.outcome.rolledBack? = some handle →
      handle = (key row.address).1) ∧
    Tally before after ((accountsWith (·.isAttempt) report.results).map asked)
      ((accountsWith (·.keepsKey) report.results).map key)
      (report.results.filterMap (·.outcome.rolledBack?))
      ((accountsWith (·.isSent) report.results).map transaction)

/-- A batch that answers with a report has done what the report says, and nothing but the bench has
changed. -/
theorem batch_accounts (s : Station σ) (protocols : ProtocolRegistry) (config : EngineConfig)
    (request : BatchRequest) (st : σ) (report : BatchReport)
    (ended : (((s.engine protocols config).runBatchRenewal request).run st).outcome = .ok report) :
    ∃ after, (((s.engine protocols config).runBatchRenewal request).run st).state =
        s.bench.set st after ∧
      BatchAccounts config.lapsePolicy request.lastValid (s.bench.get st) after report := by
  obtain ⟨snapshot, after, taken, horizon, current, completed, state⟩ :=
    s.runBatchRenewal_completed protocols config request ended
  obtain ⟨round, -, -⟩ := ScriptedLedger.snapshot_round taken
  refine ⟨after, state, horizon, current, ?_, ?_, ?_, ?_⟩
  · rw [completed.addresses]
    exact Keyring.sorted_latest _
  · intro address
    rw [completed.addresses]
    exact Keyring.mem_latest_iff
  · intro row there
    obtain ⟨latest, listed, same, b₁, b₂, made⟩ := completed.row row there
    refine ⟨latest.credential.lastValid, same ▸ Keyring.latest_endsIn listed, ?_⟩
    rw [horizon, current, ← round]
    exact made.decidedBy
  · refine ⟨_, _, _, ?_, ?_, ?_, completed.tally⟩
    · intro address
      rw [horizon, current, ← round]
      exact ⟨rfl, rfl, rfl, rfl⟩
    · intro address
      exact ⟨rfl, rfl⟩
    · intro row there handle rolled
      obtain ⟨latest, -, same, b₁, b₂, made⟩ := completed.row row there
      rw [← same]
      exact made.rolledBack rolled

/-- A credential for tests, valid from round zero on. -/
def Credential.until (address : Address) (lastValid : Round) : Credential :=
  ⟨address, .zero, lastValid, default, default, 0⟩

/-- A bench at round 100 with one account to renew, one covered and one lapsed. The wallet refuses
the first, and keys cannot be deleted. -/
def Bench.threeAccounts : Bench :=
  { Bench.refusing with
    store := { MemoryStore.empty with
      credentials := .ofList [(⟨"a"⟩, .until ⟨"A"⟩ ⟨200⟩), (⟨"b"⟩, .until ⟨"B"⟩ ⟨6000⟩),
        (⟨"c"⟩, .until ⟨"C"⟩ ⟨50⟩)]
      failDeletes := true } }

def EngineConfig.leavingExpired : EngineConfig := { lapsePolicy := .manualWhenExpired }

def BatchReport.ofThreeAccounts : BatchReport where
  horizon := ⟨5000⟩
  currentRound := ⟨100⟩
  results := [
    ⟨⟨"A"⟩, .failed (.registrationFailed ⟨"A"⟩ none (.rejected "wallet refused to sign for A"))⟩,
    ⟨⟨"B"⟩, .alreadyCovered ⟨6000⟩⟩,
    ⟨⟨"C"⟩, .needsManualRenewal ⟨50⟩⟩]

/-- The account that fails keeps its new key, and nothing was sent for it. -/
theorem batch_accounts_of_three :
    ((World.station.engine .testRules .leavingExpired).runBatchRenewal
        ⟨⟨5000⟩, none, none, none⟩ |>.run (.ofBench .threeAccounts)).outcome = .ok .ofThreeAccounts ∧
    ∃ after, ((World.station.engine .testRules .leavingExpired).runBatchRenewal
        ⟨⟨5000⟩, none, none, none⟩ |>.run (.ofBench .threeAccounts)).state =
        World.station.bench.set (.ofBench .threeAccounts) after ∧
      BatchAccounts .manualWhenExpired ⟨5000⟩ .threeAccounts after .ofThreeAccounts :=
  ⟨by decide +kernel, batch_accounts World.station .testRules .leavingExpired
    ⟨⟨5000⟩, none, none, none⟩ (.ofBench .threeAccounts) _ (by decide +kernel)⟩

end KeyRenewal
