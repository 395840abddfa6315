import KeyRenewal.Proofs.Accounting
import Mathlib.Data.List.Nodup

/-!
# Registrations never conflict

Renewals, batches and generations follow one another in any order, and between them the scripted
collaborators may be set up anew in any way. A registration goes out when the wallet accepts it or the
sink takes it unsigned. Each one ends later than every credential its account had installed before,
and later than every registration of the account that has gone out before: the credential behind a
registration that went out is never deleted.
-/

namespace KeyRenewal

variable {σ : Type}

/-- A registration that has gone out. -/
structure Emission where
  address : Address
  registration : KeyRegistration

/-- The registrations the wallet has accepted between two benches. -/
def Bench.acceptedSince (before after : Bench) : List Emission :=
  (after.wallet.submitted.drop before.wallet.submitted.length).filterMap fun transaction =>
    transaction.registration.map (⟨transaction.address, ·⟩)

theorem Bench.acceptedSince_eq_nil {before after : Bench}
    (same : after.wallet.submitted = before.wallet.submitted) : before.acceptedSince after = [] := by
  unfold Bench.acceptedSince
  rw [same, List.drop_length]
  rfl

/-- The registration a renewal has exported. -/
def Emission.exportedBy : Outcome RenewalError Renewal → List Emission
  | .ok ⟨address, generated, .exported _⟩ => [⟨address, generated.credential.registration⟩]
  | _ => []

theorem Emission.exportedBy_error (e : RenewalError) : exportedBy (.error e) = [] := rfl

/-- The settings of the scripted collaborators: the ledger as a whole, the failures of the others,
and what the wallet knows of multisig accounts. -/
structure Rigging where
  ledger : ScriptedLedger
  failGenerationFor : List Address
  failDeletes : Bool
  refuses : List Address
  multisig : OrderedMap Address MultisigInfo
  failLookups : Bool
  failWrites : Bool

def Bench.rig (b : Bench) (r : Rigging) : Bench where
  ledger := r.ledger
  store := { b.store with failGenerationFor := r.failGenerationFor, failDeletes := r.failDeletes }
  wallet := { b.wallet with
    refuses := r.refuses, multisig := r.multisig, failLookups := r.failLookups }
  sink := { b.sink with failWrites := r.failWrites }

/-- One call of a run, or a change of the settings between two calls. -/
inductive Operation
  | renewal (protocols : ProtocolRegistry) (config : EngineConfig) (request : RenewalRequest)
  | batch (protocols : ProtocolRegistry) (config : EngineConfig) (request : BatchRequest)
  | generation (protocols : ProtocolRegistry) (config : EngineConfig) (address : Address)
    (firstValid lastValid : Round) (keyDilution : Option UInt64)
  | rigging (rig : Rigging)

/-- The state an operation leaves, however it ends, and the registrations that have gone out. -/
def Operation.perform (s : Station σ) (st : σ) : Operation → σ × List Emission
  | .renewal protocols config request =>
    let run := ((s.engine protocols config).runSingleRenewal request).run st
    (run.state, (s.bench.get st).acceptedSince (s.bench.get run.state) ++
      Emission.exportedBy run.outcome)
  | .batch protocols config request =>
    let run := ((s.engine protocols config).runBatchRenewal request).run st
    (run.state, (s.bench.get st).acceptedSince (s.bench.get run.state))
  | .generation protocols config address firstValid lastValid keyDilution =>
    let run := ((s.engine protocols config).addCredential address firstValid lastValid keyDilution
      .managed).run st
    (run.state, (s.bench.get st).acceptedSince (s.bench.get run.state))
  | .rigging rig => (s.bench.set st ((s.bench.get st).rig rig), [])

def Operation.performAll (s : Station σ) : List Operation → σ → σ × List Emission
  | [], st => (st, [])
  | operation :: rest, st =>
    let now := operation.perform s st
    let later := performAll s rest now.1
    (later.1, now.2 ++ later.2)

/-- What an operation that sends registrations out does to the bench. -/
structure Contribution (before after : Bench) (sent : List Emission) : Prop where
  /-- No installed credential is lost. -/
  kept : ∀ e ∈ before.store.credentials.toList, e ∈ after.store.credentials.toList
  /-- A registration ends later than what its account had. -/
  above : ∀ r ∈ sent, ∀ e ∈ before.store.credentials.toList, e.2.address = r.address →
    e.2.lastValid < r.registration.voteLast
  /-- The credential of a registration is installed. -/
  standing : ∀ r ∈ sent, ∃ e ∈ after.store.credentials.toList,
    e.2.address = r.address ∧ e.2.registration = r.registration
  /-- An account is renewed only once. -/
  once : ∀ r ∈ sent, (after.store.requests.drop before.store.requests.length).countP
    (·.address == r.address) = 1
  apart : sent.Pairwise (fun r r' => r.address ≠ r'.address)
  /-- The sink takes nothing but registrations that count as gone out. -/
  sink : after.sink.artifacts = before.sink.artifacts ∨
    ∃ path transaction sender registration, transaction.registration = some registration ∧
      ⟨transaction.address, registration⟩ ∈ sent ∧
      after.sink.artifacts =
        before.sink.artifacts.insert path (Envelope.unsigned transaction sender).toCbor

namespace Contribution

theorem nothing {before after : Bench}
    (kept : ∀ e ∈ before.store.credentials.toList, e ∈ after.store.credentials.toList)
    (sink : after.sink.artifacts = before.sink.artifacts) : Contribution before after [] where
  kept := kept
  above _ none := absurd none List.not_mem_nil
  standing _ none := absurd none List.not_mem_nil
  once _ none := absurd none List.not_mem_nil
  apart := .nil
  sink := Or.inl sink

end Contribution

theorem Tally.acceptedSince {b b' : Bench} {asked : List GenerationRequest}
    {made : List (KeyHandle × Credential)} {deleted : List KeyHandle} {plan : Address → RenewalPlan}
    {sent : List Address}
    (tally : Tally b b' asked made deleted (sent.map (fun address => (plan address).transaction))) :
    b.acceptedSince b' =
      sent.map (fun address => ⟨(plan address).address, (plan address).credential.registration⟩) := by
  unfold Bench.acceptedSince
  rw [tally.submitted, List.drop_left, List.filterMap_map]
  rw [← List.filterMap_eq_map]
  rfl

/-- Renewals of different accounts, each of which had only credentials that end before its horizon. -/
theorem Tally.contribution {b b' : Bench} {deleted : List KeyHandle} (plan : Address → RenewalPlan)
    (begun kept sent : List Address)
    (tally : Tally b b' (begun.map (fun address => (plan address).request))
      (kept.map (fun address => (plan address).key)) deleted
      (sent.map (fun address => (plan address).transaction)))
    (named : ∀ address ∈ begun, (plan address).address = address) (distinct : begun.Nodup)
    (keptBegun : kept.Sublist begun) (sentKept : sent.Sublist kept)
    (due : ∀ address ∈ sent, ∀ e ∈ b.store.credentials.toList, e.2.address = address →
      e.2.lastValid < (plan address).horizon) :
    Contribution b b' (b.acceptedSince b') := by
  have sentNamed : ∀ address ∈ sent, (plan address).address = address :=
    fun address there => named address (keptBegun.subset (sentKept.subset there))
  rw [tally.acceptedSince]
  constructor
  · intro e he
    exact tally.mem_of_mem he
  · intro r there e he mine
    obtain ⟨address, chosen, rfl⟩ := List.mem_map.mp there
    exact due address chosen e he (mine.trans (sentNamed address chosen))
  · intro r there
    obtain ⟨address, chosen, rfl⟩ := List.mem_map.mp there
    refine ⟨(plan address).key, ?_, rfl, rfl⟩
    exact tally.credentials.mem_iff.mpr (List.mem_append_left _
      (List.mem_map.mpr ⟨address, sentKept.subset chosen, rfl⟩))
  · intro r there
    obtain ⟨address, chosen, rfl⟩ := List.mem_map.mp there
    rw [tally.requests, List.drop_left, List.countP_map, sentNamed address chosen]
    have once : begun.count address = 1 :=
      List.count_eq_one_of_mem distinct (keptBegun.subset (sentKept.subset chosen))
    rw [← once]
    refine List.countP_congr ?_
    intro address' there'
    show ((plan address').address == address) = true ↔ (address' == address) = true
    rw [named address' there']
  · have apart : sent.Pairwise (· ≠ ·) := distinct.sublist (sentKept.trans keptBegun)
    refine List.pairwise_map.mpr (apart.imp_of_mem ?_)
    intro address address' there there' differ
    rw [sentNamed address there, sentNamed address' there']
    exact differ
  · exact Or.inl (congrArg MemorySink.artifacts tally.sink)

theorem RenewalPlan.written_contribution (p : RenewalPlan) {b : Bench} (path : Path)
    (fresh : b.store.credentials.contains p.handle = false)
    (due : ∀ e ∈ b.store.credentials.toList, e.2.address = p.address → e.2.lastValid < p.horizon) :
    Contribution b (p.written path b) [⟨p.address, p.credential.registration⟩] := by
  have tally := p.made_tally fresh
  constructor
  · intro e he
    exact tally.mem_of_mem he
  · intro r there e he mine
    obtain rfl := List.mem_singleton.mp there
    exact due e he mine
  · intro r there
    obtain rfl := List.mem_singleton.mp there
    exact ⟨p.key, tally.credentials.mem_iff.mpr List.mem_cons_self, rfl, rfl⟩
  · intro r there
    obtain rfl := List.mem_singleton.mp there
    show ((b.store.requests ++ [p.request]).drop b.store.requests.length).countP _ = 1
    rw [List.drop_left]
    simp [RenewalPlan.request]
  · exact List.pairwise_singleton _ _
  · exact Or.inr ⟨path, p.transaction, b.wallet.multisig.find? p.address, _, rfl,
      List.mem_singleton.mpr rfl, rfl⟩

theorem RenewalPlan.contribution (p : RenewalPlan) {b after : Bench} {deleted : List KeyHandle}
    (kept sent : List Address)
    (tally : Tally b after [p.request] (kept.map (fun _ => p.key)) deleted
      (sent.map (fun _ => p.transaction)))
    (keptBegun : kept.Sublist [p.address]) (sentKept : sent.Sublist kept)
    (due : ∀ e ∈ b.store.credentials.toList, e.2.address = p.address → e.2.lastValid < p.horizon) :
    Contribution b after (b.acceptedSince after) := by
  refine tally.contribution (fun _ => p) [p.address] kept sent ?_ (List.nodup_singleton _) keptBegun
    sentKept ?_
  · intro address there
    exact (List.mem_singleton.mp there).symm
  · intro address there e he mine
    obtain rfl := List.mem_singleton.mp (keptBegun.subset (sentKept.subset there))
    exact due e he mine

theorem Course.contribution {p : RenewalPlan} {b b' : Bench} {target : DispatchTarget}
    {outcome : Outcome RenewalError Renewal} (course : Course p b target outcome b')
    (due : ∀ e ∈ b.store.credentials.toList, e.2.address = p.address → e.2.lastValid < p.horizon) :
    Contribution b b' (b.acceptedSince b' ++ Emission.exportedBy outcome) := by
  cases course with
  | notMade _ source =>
    rw [Emission.exportedBy_error, List.append_nil]
    exact p.contribution [] [] (p.asked_tally b) (List.nil_sublist _) (.refl _) due
  | rolledBack mode source fresh =>
    rw [Emission.exportedBy_error, List.append_nil]
    exact p.contribution [] [] (p.undone_tally b) (List.nil_sublist _) (.refl _) due
  | leftBehind mode source fresh failing =>
    rw [Emission.exportedBy_error, List.append_nil]
    exact p.contribution [p.address] [] (p.made_tally fresh) (.refl _) (List.nil_sublist _) due
  | sent mode fresh accepted progress =>
    have silent : Emission.exportedBy outcome = [] := by cases accepted <;> rfl
    rw [silent, List.append_nil]
    exact p.contribution [p.address] [p.address] (p.sent_tally fresh progress) (.refl _) (.refl _) due
  | unwritten path source fresh =>
    rw [Emission.exportedBy_error, List.append_nil]
    exact p.contribution [p.address] [] (p.made_tally fresh) (.refl _) (List.nil_sublist _) due
  | written path fresh =>
    have unsent : b.acceptedSince (p.written path b) = [] := Bench.acceptedSince_eq_nil rfl
    rw [unsent]
    exact p.written_contribution path fresh due

/-- The address of an account if its row is of some kind. -/
def ifKind (kind : Bool) (address : Address) : List Address := if kind then [address] else []

theorem ifKind_sublist {kind kind' : Bool} (implied : kind = true → kind' = true)
    (address : Address) : (ifKind kind address).Sublist (ifKind kind' address) := by
  cases kind with
  | false => exact List.nil_sublist _
  | true =>
    obtain rfl := implied rfl
    exact .refl _

theorem map_ifKind {β : Type} (kind : Bool) (address : Address) (f : Address → β) :
    (ifKind kind address).map f = if kind then [f address] else [] := by
  cases kind <;> rfl

namespace BatchTerms

variable {t : BatchTerms}

/-- What the rows of a batch add to the bench, whether or not it comes to its end. -/
theorem Rows.tally {accounts : List GeneratedCredential} {b b' : Bench}
    {outcome : Outcome RenewalError (List AccountResult)} (rows : t.Rows accounts b outcome b') :
    ∃ begun kept sent : List Address, ∃ deleted,
      begun.Sublist (accounts.map (·.credential.address)) ∧ kept.Sublist begun ∧ sent.Sublist kept ∧
      (∀ address ∈ begun, ∃ latest ∈ accounts, latest.credential.address = address ∧
        t.decision latest = .renew) ∧
      Tally b b' (begun.map (fun address => (t.plan address).request))
        (kept.map (fun address => (t.plan address).key)) deleted
        (sent.map (fun address => (t.plan address).transaction)) := by
  induction rows with
  | nil b => exact ⟨[], [], [], [], .slnil, .slnil, .slnil, fun _ none => absurd none List.not_mem_nil,
      .refl b⟩
  | @cons latest rest b b₁ b₂ row rows first later ih =>
    obtain ⟨begun, kept, sent, deleted, listed, keptBegun, sentKept, due, tally⟩ := ih
    have whole := first.tally.trans tally
    refine ⟨ifKind row.isAttempt latest.credential.address ++ begun,
      ifKind row.keepsKey latest.credential.address ++ kept,
      ifKind row.isSent latest.credential.address ++ sent,
      row.rolledBack?.toList ++ deleted, ?_, ?_, ?_, ?_, ?_⟩
    · have here : (ifKind row.isAttempt latest.credential.address).Sublist
          (ifKind true latest.credential.address) := ifKind_sublist (fun _ => rfl) _
      exact here.append listed
    · exact (ifKind_sublist AccountOutcome.isAttempt_of_keepsKey _).append keptBegun
    · exact (ifKind_sublist AccountOutcome.keepsKey_of_isSent _).append sentKept
    · intro address there
      rcases List.mem_append.mp there with here | there
      · cases attempt : row.isAttempt with
        | false =>
          rw [attempt] at here
          cases here
        | true =>
          rw [attempt] at here
          exact ⟨latest, List.mem_cons_self, (List.mem_singleton.mp here).symm,
            first.shows.2.2.mp attempt⟩
      · obtain ⟨latest', listed', owner, decided⟩ := due address there
        exact ⟨latest', List.mem_cons_of_mem _ listed', owner, decided⟩
    · simp only [List.map_append, map_ifKind]
      exact whole
  | @stuck latest rest b b' decided course =>
    refine ⟨[latest.credential.address], [latest.credential.address], [latest.credential.address],
      [], ?_, .refl _, .refl _, ?_, ?_⟩
    · exact (List.nil_sublist _).cons_cons _
    · intro address there
      exact ⟨latest, List.mem_cons_self, (List.mem_singleton.mp there).symm, decided⟩
    · cases course with
      | sent mode fresh accepted progress => exact RenewalPlan.sent_tally _ fresh progress

/-- A batch installs no keys but those of accounts that are due. -/
theorem Rows.mem_credentials {accounts : List GeneratedCredential} {b b' : Bench}
    {outcome : Outcome RenewalError (List AccountResult)} (rows : t.Rows accounts b outcome b')
    {e : KeyHandle × Credential} (installed : e ∈ b'.store.credentials.toList) :
    (∃ latest ∈ accounts, t.decision latest = .renew ∧
      e = (t.plan latest.credential.address).key) ∨ e ∈ b.store.credentials.toList := by
  obtain ⟨begun, kept, sent, deleted, -, keptBegun, -, due, tally⟩ := rows.tally
  rcases List.mem_append.mp (tally.credentials.mem_iff.mp installed) with new | old
  · obtain ⟨address, chosen, rfl⟩ := List.mem_map.mp new
    obtain ⟨latest, listed, rfl, decided⟩ := due address (keptBegun.subset chosen)
    exact Or.inl ⟨latest, listed, decided, rfl⟩
  · exact Or.inr old

end BatchTerms

/-- A batch begins only what is due. -/
theorem BatchTerms.Rows.contribution {t : BatchTerms} {b b' : Bench}
    {outcome : Outcome RenewalError (List AccountResult)}
    (rows : t.Rows b.store.credentials.latest.values b outcome b') :
    Contribution b b' (b.acceptedSince b') := by
  obtain ⟨begun, kept, sent, deleted, listed, keptBegun, sentKept, due, tally⟩ := rows.tally
  have distinct : begun.Nodup :=
    ((Keyring.sorted_latest _).imp OrderedMap.ne_of_compare_lt).sublist listed
  refine tally.contribution t.plan begun kept sent (fun _ _ => rfl) distinct keptBegun sentKept ?_
  intro address there e he mine
  obtain ⟨latest, listed', owner, decided⟩ := due address (keptBegun.subset (sentKept.subset there))
  exact BatchTerms.below_of_due listed' decided he (mine.trans owner.symm)

theorem Contribution.idle (b : Bench) : Contribution b b [] := .nothing (fun _ he => he) rfl

theorem Operation.perform_contribution (s : Station σ) (st : σ) (operation : Operation) :
    Contribution (s.bench.get st) (s.bench.get (operation.perform s st).1)
      (operation.perform s st).2 := by
  cases operation with
  | renewal protocols config request =>
    rcases s.runSingleRenewal_cases st protocols config request with
      ⟨e, -, refused⟩ | ⟨snapshot, -, -, uncovered, carried⟩
    · obtain ⟨outcome, state⟩ := Action.run_of_effect refused
      simp only [perform, outcome, state, Bench.acceptedSince_eq_nil, Emission.exportedBy_error]
      exact .idle _
    · obtain ⟨outcome, state⟩ := Action.run_of_effect carried
      simp only [perform, outcome, state, s.bench.get_set]
      exact (RenewalPlan.result_course _ _ _).contribution
        (Keyring.coverage?_eq_none_iff.mp uncovered)
  | batch protocols config request =>
    rcases s.runBatchRenewal_cases protocols config request st with
      ⟨e, refused⟩ | ⟨snapshot, rows, b', -, -, made, carried⟩
    · obtain ⟨-, state⟩ := Action.run_of_effect refused
      simp only [perform, state, Bench.acceptedSince_eq_nil]
      exact .idle _
    · obtain ⟨-, state⟩ := Action.run_of_effect carried
      simp only [perform, state, s.bench.get_set]
      exact made.contribution
  | generation protocols config address firstValid lastValid keyDilution =>
    obtain ⟨b', state, how⟩ := s.addCredential_cases st protocols config address firstValid
      lastValid keyDilution
    simp only [perform, state, s.bench.get_set]
    have silent : (s.bench.get st).acceptedSince b' = [] := by
      rcases how with rfl | rfl | ⟨-, rfl⟩ <;> exact Bench.acceptedSince_eq_nil rfl
    rw [silent]
    rcases how with rfl | rfl | ⟨fresh, rfl⟩
    · exact .idle _
    · exact .nothing (fun _ he => he) rfl
    · exact .nothing (fun _ he => (RenewalPlan.made_tally _ fresh).mem_of_mem he) rfl
  | rigging rig =>
    simp only [perform, s.bench.get_set]
    exact .nothing (fun _ he => he) rfl

/-- The credential of every registration that has gone out is installed. -/
def Standing (b : Bench) (gone : List Emission) : Prop :=
  ∀ r ∈ gone, ∃ e ∈ b.store.credentials.toList,
    e.2.address = r.address ∧ e.2.registration = r.registration

theorem Contribution.standing_after {before after : Bench} {gone sent : List Emission}
    (contribution : Contribution before after sent) (standing : Standing before gone) :
    Standing after (gone ++ sent) := by
  intro r there
  rcases List.mem_append.mp there with old | new
  · obtain ⟨e, he, same⟩ := standing r old
    exact ⟨e, contribution.kept e he, same⟩
  · exact contribution.standing r new

theorem Operation.performAll_standing (s : Station σ) (operations : List Operation) (st : σ)
    {gone : List Emission} (standing : Standing (s.bench.get st) gone) :
    Standing (s.bench.get (performAll s operations st).1)
      (gone ++ (performAll s operations st).2) := by
  induction operations generalizing st gone with
  | nil =>
    rw [performAll, List.append_nil]
    exact standing
  | cons operation rest ih =>
    have later := ih (operation.perform s st).1
      ((operation.perform_contribution s st).standing_after standing)
    rw [List.append_assoc] at later
    exact later

/-- Whatever has happened before, a registration that goes out ends later than every credential its
account has installed and later than every registration of the account that has gone out before. In
one operation an account is renewed once and has one registration at most, and the sink takes nothing
but registrations that count as gone out. -/
theorem registrations_never_conflict (s : Station σ) (st : σ) (earlier : List Operation)
    (operation : Operation) :
    let past := Operation.performAll s earlier st
    let now := operation.perform s past.1
    let before := s.bench.get past.1
    let after := s.bench.get now.1
    (∀ r ∈ now.2,
      (∀ e ∈ before.store.credentials.toList, e.2.address = r.address →
        e.2.lastValid < r.registration.voteLast) ∧
      (∀ r' ∈ past.2, r'.address = r.address →
        r'.registration.voteLast < r.registration.voteLast) ∧
      (after.store.requests.drop before.store.requests.length).countP
        (·.address == r.address) = 1) ∧
    now.2.Pairwise (fun r r' => r.address ≠ r'.address) ∧
    (after.sink.artifacts = before.sink.artifacts ∨
      ∃ path transaction sender registration, transaction.registration = some registration ∧
        ⟨transaction.address, registration⟩ ∈ now.2 ∧
        after.sink.artifacts =
          before.sink.artifacts.insert path (Envelope.unsigned transaction sender).toCbor) := by
  intro past now before after
  have contribution : Contribution before after now.2 := operation.perform_contribution s past.1
  have standing : Standing before past.2 := by
    have nothing : Standing (s.bench.get st) [] := fun _ none => absurd none List.not_mem_nil
    exact Operation.performAll_standing s earlier st nothing
  refine ⟨?_, contribution.apart, contribution.sink⟩
  intro r there
  refine ⟨contribution.above r there, ?_, contribution.once r there⟩
  intro r' gone same
  obtain ⟨e, he, owns, registered⟩ := standing r' gone
  have below := contribution.above r there e he (owns.trans same)
  rw [← registered]
  exact below

end KeyRenewal
