import KeyRenewal.Proofs.Accounting
import KeyRenewal.Proofs.Handles

/-!
# Failures stay with their accounts

Two batches that differ only in the accounts made to fail end in the same way and report on the same
accounts. For an account whose own failures are the same in both, the row, the keys and the accepted
transactions are the same too, whatever becomes of the others. Accounts have the key store in
common, so this needs that the handles of their new keys differ; addresses have no slash.
-/

namespace KeyRenewal

variable {σ : Type}

/-- The keys of an account, in handle order. -/
def Keyring.ownedBy (keys : Keyring) (address : Address) : List (KeyHandle × Credential) :=
  keys.toList.filter (·.2.address == address)

/-- The transactions of an account that the wallet has accepted. -/
def ScriptedWallet.acceptedFrom (w : ScriptedWallet) (address : Address) : List StatusTransaction :=
  w.submitted.filter (·.address == address)

/-- The bench with other accounts made to fail, in generation and in signing. -/
def Bench.failing (b : Bench) (generation signing : List Address) : Bench :=
  { b with
    store := { b.store with failGenerationFor := generation }
    wallet := { b.wallet with refuses := signing } }

/-- Whether an account is made to fail on two benches alike. -/
structure Bench.Agree (b b' : Bench) (address : Address) : Prop where
  generation : b'.store.failGenerationFor.contains address =
    b.store.failGenerationFor.contains address
  signing : b'.wallet.refuses.contains address = b.wallet.refuses.contains address

namespace BatchTerms

/-- Two benches that are the same for one account of a batch. -/
structure Alike (t : BatchTerms) (address : Address) (b b' : Bench) : Prop where
  keys : b'.store.credentials.ownedBy address = b.store.credentials.ownedBy address
  accepted : b'.wallet.acceptedFrom address = b.wallet.acceptedFrom address
  taken : '/' ∉ address.text.toList →
    b'.store.credentials.contains (t.plan address).handle =
      b.store.credentials.contains (t.plan address).handle
  generation : b'.store.failGenerationFor.contains address =
    b.store.failGenerationFor.contains address
  signing : b'.wallet.refuses.contains address = b.wallet.refuses.contains address
  deletes : b'.store.failDeletes = b.store.failDeletes

namespace Alike

variable {t : BatchTerms} {address : Address} {b b' b'' : Bench}

theorem refl (b : Bench) : t.Alike address b b := ⟨rfl, rfl, fun _ => rfl, rfl, rfl, rfl⟩

theorem symm (same : t.Alike address b b') : t.Alike address b' b where
  keys := same.keys.symm
  accepted := same.accepted.symm
  taken plain := (same.taken plain).symm
  generation := same.generation.symm
  signing := same.signing.symm
  deletes := same.deletes.symm

theorem trans (first : t.Alike address b b') (second : t.Alike address b' b'') :
    t.Alike address b b'' where
  keys := second.keys.trans first.keys
  accepted := second.accepted.trans first.accepted
  taken plain := (second.taken plain).trans (first.taken plain)
  generation := second.generation.trans first.generation
  signing := second.signing.trans first.signing
  deletes := second.deletes.trans first.deletes

theorem asked (same : t.Alike address b b') (p : RenewalPlan) :
    t.Alike address (p.asked b) (p.asked b') :=
  ⟨same.keys, same.accepted, same.taken, same.generation, same.signing, same.deletes⟩

theorem undone (same : t.Alike address b b') (p : RenewalPlan) :
    t.Alike address (p.undone b) (p.undone b') :=
  ⟨same.keys, same.accepted, same.taken, same.generation, same.signing, same.deletes⟩

theorem made (same : t.Alike address b b') (plain : '/' ∉ address.text.toList)
    (fresh : b.store.credentials.contains (t.plan address).handle = false) :
    t.Alike address ((t.plan address).made b) ((t.plan address).made b') where
  keys := by
    have fresh' := (same.taken plain).trans fresh
    have mine : ((t.plan address).credential.address == address) = true := beq_self_eq_true _
    have placed := OrderedMap.filter_insert_of_pos
      (p := fun e : KeyHandle × Credential => e.2.address == address) fresh mine
    have placed' := OrderedMap.filter_insert_of_pos
      (p := fun e : KeyHandle × Credential => e.2.address == address) fresh' mine
    exact placed'.trans ((congrArg _ same.keys).trans placed.symm)
  accepted := same.accepted
  taken plain := by
    have there := OrderedMap.contains_insert_self fresh (t.plan address).credential
    have there' := OrderedMap.contains_insert_self ((same.taken plain).trans fresh)
      (t.plan address).credential
    exact there'.trans there.symm
  generation := same.generation
  signing := same.signing
  deletes := same.deletes

theorem sent (same : t.Alike address b b') (plain : '/' ∉ address.text.toList)
    (fresh : b.store.credentials.contains (t.plan address).handle = false) :
    t.Alike address ((t.plan address).sent b) ((t.plan address).sent b') where
  keys := (same.made plain fresh).keys
  accepted := by
    have listed := congrArg (· ++ [(t.plan address).transaction].filter (·.address == address))
      same.accepted
    simp only [ScriptedWallet.acceptedFrom, ← List.filter_append] at listed
    exact listed
  taken := (same.made plain fresh).taken
  generation := same.generation
  signing := same.signing
  deletes := same.deletes

/-- Renewing the account has the same answer on both benches and keeps them the same for it. -/
theorem result (same : t.Alike address b b') (plain : '/' ∉ address.text.toList) :
    ((t.plan address).result (.submit .fireAndForget) b').1 =
        ((t.plan address).result (.submit .fireAndForget) b).1 ∧
      t.Alike address ((t.plan address).result (.submit .fireAndForget) b).2
        ((t.plan address).result (.submit .fireAndForget) b').2 := by
  have named : (t.plan address).address = address := rfl
  unfold RenewalPlan.result RenewalPlan.registered
  simp only [named, same.generation, same.taken plain, same.signing, same.deletes]
  by_cases failing : b.store.failGenerationFor.contains address
  · simp only [if_pos failing]
    exact ⟨trivial, same.asked _⟩
  by_cases taken : b.store.credentials.contains (t.plan address).handle
  · simp only [if_neg failing, if_pos taken]
    exact ⟨trivial, same.asked _⟩
  have fresh : b.store.credentials.contains (t.plan address).handle = false :=
    Bool.not_eq_true _ ▸ taken
  by_cases refused : b.wallet.refuses.contains address
  · by_cases keeps : b.store.failDeletes
    · simp only [if_neg failing, if_neg taken, if_pos refused, if_pos keeps]
      exact ⟨trivial, same.made plain fresh⟩
    · simp only [if_neg failing, if_neg taken, if_pos refused, if_neg keeps]
      exact ⟨trivial, same.undone _⟩
  · simp only [if_neg failing, if_neg taken, if_neg refused]
    exact ⟨rfl, same.sent plain fresh⟩

theorem of_made {other : Address} (apart : other ≠ address) (plain : '/' ∉ other.text.toList)
    (fresh : b.store.credentials.contains (t.plan other).handle = false) :
    t.Alike address b ((t.plan other).made b) where
  keys := OrderedMap.filter_insert_of_not fresh (beq_false_of_ne apart)
  accepted := rfl
  taken plainHere := by
    refine OrderedMap.contains_insert_of_ne fresh ?_ _
    intro same
    exact apart (MemoryStore.handleFor_inj plainHere plain same).symm
  generation := rfl
  signing := rfl
  deletes := rfl

theorem of_sent {other : Address} (apart : other ≠ address) (plain : '/' ∉ other.text.toList)
    (fresh : b.store.credentials.contains (t.plan other).handle = false) :
    t.Alike address b ((t.plan other).sent b) where
  keys := (of_made apart plain fresh).keys
  accepted := by
    have foreign : ((t.plan other).transaction.address == address) = false := beq_false_of_ne apart
    show (b.wallet.submitted ++ [(t.plan other).transaction]).filter (·.address == address) =
      b.wallet.submitted.filter (·.address == address)
    simp [foreign]
  taken := (of_made apart plain fresh).taken
  generation := rfl
  signing := rfl
  deletes := rfl

theorem of_ledger (b : Bench) (ledger : ScriptedLedger) :
    t.Alike address b { b with ledger := ledger } := ⟨rfl, rfl, fun _ => rfl, rfl, rfl, rfl⟩

/-- The row of another account changes nothing. -/
theorem of_row {latest : GeneratedCredential} {row : AccountOutcome} (made : t.Row latest b row b')
    (apart : latest.credential.address ≠ address)
    (plain : '/' ∉ latest.credential.address.text.toList) : t.Alike address b b' := by
  cases made with
  | covered | lapsed => exact refl b
  | renewed decided course =>
    cases course with
    | sent mode fresh => exact (of_sent apart plain fresh).trans (of_ledger _ _)
  | failed decided course =>
    cases course with
    | notMade | rolledBack => exact ⟨rfl, rfl, fun _ => rfl, rfl, rfl, rfl⟩
    | leftBehind mode source fresh => exact of_made apart plain fresh
    | sent mode fresh => exact (of_sent apart plain fresh).trans (of_ledger _ _)

end Alike

variable {t : BatchTerms} {address : Address}

/-- The account's own row is the same on benches that are the same for it. -/
theorem deal_alike {b b' : Bench} (unwatched : t.mode = .fireAndForget)
    {latest : GeneratedCredential} (own : latest.credential.address = address)
    (plain : '/' ∉ address.text.toList) (same : t.Alike address b b') :
    (t.deal latest b').1 = (t.deal latest b).1 ∧
      t.Alike address (t.deal latest b).2 (t.deal latest b').2 := by
  subst own
  by_cases decided : t.decision latest = .renew
  · obtain ⟨answers, kept⟩ := same.result plain
    unfold deal
    simp only [decided, unwatched, answers, true_and]
    exact kept
  · obtain ⟨row, skipped⟩ := deal_skipped decided
    rw [(skipped b).1, (skipped b').1]
    exact ⟨rfl, same⟩

/-- A batch that does not wait for transactions has a row for every account. -/
theorem dealAll_ends (unwatched : t.mode = .fireAndForget) (accounts : List GeneratedCredential)
    (b : Bench) :
    ∃ rows, (t.dealAll accounts b).1 = .ok rows ∧
      rows.map (·.address) = accounts.map (·.credential.address) := by
  induction accounts generalizing b with
  | nil => exact ⟨[], rfl, rfl⟩
  | cons latest rest ih =>
    obtain ⟨row, ended, -⟩ := deal_ends unwatched latest b
    obtain ⟨rows, later, named⟩ := ih (t.deal latest b).2
    refine ⟨⟨latest.credential.address, row⟩ :: rows, ?_, congrArg _ named⟩
    rw [dealAll_cons ended, later]
    rfl

/-- Batches over benches that are the same for an account have the same rows for it, and leave the
benches the same for it. -/
theorem dealAll_alike (unwatched : t.mode = .fireAndForget) (accounts : List GeneratedCredential)
    (plain : ∀ latest ∈ accounts, '/' ∉ latest.credential.address.text.toList) {b b' : Bench}
    (same : t.Alike address b b') {rows rows' : List AccountResult}
    (ended : (t.dealAll accounts b).1 = .ok rows) (ended' : (t.dealAll accounts b').1 = .ok rows') :
    rows'.filter (·.address == address) = rows.filter (·.address == address) ∧
      t.Alike address (t.dealAll accounts b).2 (t.dealAll accounts b').2 := by
  induction accounts generalizing b b' rows rows' with
  | nil =>
    cases ended
    cases ended'
    exact ⟨rfl, same⟩
  | cons latest rest ih =>
    have plainHere := plain latest List.mem_cons_self
    obtain ⟨row, first, made⟩ := deal_ends unwatched latest b
    obtain ⟨row', first', made'⟩ := deal_ends unwatched latest b'
    obtain ⟨later, ends, -⟩ := dealAll_ends unwatched rest (t.deal latest b).2
    obtain ⟨later', ends', -⟩ := dealAll_ends unwatched rest (t.deal latest b').2
    rw [dealAll_cons first] at ended ⊢
    rw [dealAll_cons first'] at ended' ⊢
    rw [ends] at ended
    rw [ends'] at ended'
    cases ended
    cases ended'
    have plainLater : ∀ other ∈ rest, '/' ∉ other.credential.address.text.toList :=
      fun other listed => plain other (List.mem_cons_of_mem _ listed)
    by_cases own : latest.credential.address = address
    · obtain ⟨equal, sameLater⟩ := deal_alike unwatched own (own ▸ plainHere) same
      rw [first, first'] at equal
      cases equal
      obtain ⟨equalLater, kept⟩ := ih plainLater sameLater ends ends'
      exact ⟨by simp [own, equalLater], kept⟩
    -- the two rows may differ here, but neither touches what is seen of the account
    · have sameLater : t.Alike address (t.deal latest b).2 (t.deal latest b').2 :=
        (Alike.of_row made own plainHere).symm.trans (same.trans (.of_row made' own plainHere))
      obtain ⟨equalLater, kept⟩ := ih plainLater sameLater ends ends'
      exact ⟨by simp [own, equalLater], kept⟩

theorem Alike.of_failing {b : Bench} {generation signing : List Address}
    (agree : b.Agree (b.failing generation signing) address) :
    t.Alike address b (b.failing generation signing) :=
  ⟨rfl, rfl, fun _ => rfl, agree.generation, agree.signing, rfl⟩

end BatchTerms

theorem BatchReport.outcome?_eq_of_filter {report report' : BatchReport} {address : Address}
    (same : report'.results.filter (·.address == address) =
      report.results.filter (·.address == address)) :
    report'.outcome? address = report.outcome? address := by
  unfold outcome?
  rw [← List.head?_filter, ← List.head?_filter, same]

/-- Two batches that end in the same way, report on the same accounts, and are the same for every
account that is made to fail alike. -/
structure Isolated (agree : Address → Prop) (after after' : Bench)
    (outcome outcome' : Outcome RenewalError BatchReport) : Prop where
  ended : (∃ e, outcome = .error e ∧ outcome' = .error e) ∨
    ∃ report report', outcome = .ok report ∧ outcome' = .ok report' ∧
      report'.results.map (·.address) = report.results.map (·.address) ∧
      ∀ address, agree address → report'.outcome? address = report.outcome? address
  keys : ∀ address, agree address →
    after'.store.credentials.ownedBy address = after.store.credentials.ownedBy address
  accepted : ∀ address, agree address →
    after'.wallet.acceptedFrom address = after.wallet.acceptedFrom address

/-- Making other accounts fail makes no difference to an account whose own failures stay the
same. -/
theorem failures_isolated (s : Station σ) (protocols : ProtocolRegistry) (config : EngineConfig)
    (request : BatchRequest) (st : σ) (generation signing : List Address)
    (unwatched : config.waitModeOr request.waitMode = .fireAndForget)
    (plain : ∀ e ∈ (s.bench.get st).store.credentials.toList, '/' ∉ e.2.address.text.toList) :
    let run := ((s.engine protocols config).runBatchRenewal request).run st
    let run' := ((s.engine protocols config).runBatchRenewal request).run
      (s.bench.set st ((s.bench.get st).failing generation signing))
    Isolated ((s.bench.get st).Agree ((s.bench.get st).failing generation signing))
      (s.bench.get run.state) (s.bench.get run'.state) run.outcome run'.outcome := by
  intro run run'
  have carried := s.runBatchRenewal_effect protocols config request st
  have carried' := s.runBatchRenewal_effect protocols config request
    (s.bench.set st ((s.bench.get st).failing generation signing))
  rw [s.bench.get_set] at carried'
  have ledger : ((s.bench.get st).failing generation signing).ledger =
    (s.bench.get st).ledger := rfl
  have listed : ((s.bench.get st).failing generation signing).store.credentials =
    (s.bench.get st).store.credentials := rfl
  simp only [ledger, listed] at carried'
  cases checked : (s.bench.get st).ledger.checkedSnapshot protocols request.lastValid with
  | error e =>
    simp only [checked] at carried carried'
    obtain ⟨outcome, state⟩ := Action.run_of_effect carried
    obtain ⟨outcome', state'⟩ := Action.run_of_effect carried'
    simp only [run, run', outcome, outcome', state, state', s.bench.get_set]
    exact ⟨Or.inl ⟨e, rfl, rfl⟩, fun _ _ => rfl, fun _ _ => rfl⟩
  | ok snapshot =>
    simp only [checked] at carried carried'
    obtain ⟨rows, ends, named⟩ := BatchTerms.dealAll_ends (t := request.terms config snapshot)
      unwatched (s.bench.get st).store.credentials.latest.values (s.bench.get st)
    obtain ⟨rows', ends', named'⟩ := BatchTerms.dealAll_ends (t := request.terms config snapshot)
      unwatched (s.bench.get st).store.credentials.latest.values
      ((s.bench.get st).failing generation signing)
    have plainHere : ∀ latest ∈ (s.bench.get st).store.credentials.latest.values,
        '/' ∉ latest.credential.address.text.toList :=
      fun _ there => plain _ (Keyring.latest_installed there)
    have alike : ∀ address,
        (s.bench.get st).Agree ((s.bench.get st).failing generation signing) address →
        rows'.filter (·.address == address) = rows.filter (·.address == address) ∧
          (request.terms config snapshot).Alike address _ _ :=
      fun _ agree => BatchTerms.dealAll_alike unwatched _ plainHere (.of_failing agree) ends ends'
    obtain ⟨outcome, state⟩ := Action.run_of_effect carried
    obtain ⟨outcome', state'⟩ := Action.run_of_effect carried'
    simp only [run, run', outcome, outcome', state, state', s.bench.get_set, ends, ends']
    refine ⟨Or.inr ⟨_, _, rfl, rfl, named'.trans named.symm, ?_⟩, ?_, ?_⟩
    · exact fun address agree => BatchReport.outcome?_eq_of_filter (alike address agree).1
    · exact fun address agree => (alike address agree).2.keys
    · exact fun address agree => (alike address agree).2.accepted

/-- A bench at round 100 with two accounts to renew. -/
def Bench.twoDue : Bench :=
  { Bench.startingAt ⟨100⟩ ScriptedLedger.testVersion with
    store := { MemoryStore.empty with
      credentials := .ofList [(⟨"a"⟩, .until ⟨"A"⟩ ⟨200⟩), (⟨"b"⟩, .until ⟨"B"⟩ ⟨200⟩)] } }

/-- The second account fares the same whether or not a key can be made for the first. -/
theorem failures_isolated_of_two :
    let failing := Bench.twoDue.failing [⟨"A"⟩] []
    let batch := (World.station.engine .testRules .leavingExpired).runBatchRenewal
      ⟨⟨5000⟩, none, none, some .fireAndForget⟩
    Bench.twoDue.Agree failing ⟨"B"⟩ ∧ ¬ Bench.twoDue.Agree failing ⟨"A"⟩ ∧
    Isolated (Bench.twoDue.Agree failing) (batch.run (.ofBench .twoDue)).state.bench
      (batch.run (.ofBench failing)).state.bench
      (batch.run (.ofBench .twoDue)).outcome (batch.run (.ofBench failing)).outcome :=
  ⟨⟨by decide, by decide⟩, fun agree => absurd agree.generation (by decide),
    failures_isolated World.station .testRules .leavingExpired
      ⟨⟨5000⟩, none, none, some .fireAndForget⟩ (.ofBench .twoDue) [⟨"A"⟩] [] rfl (by decide)⟩

end KeyRenewal
