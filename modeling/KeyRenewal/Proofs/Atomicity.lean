import KeyRenewal.Proofs.Tally

/-!
# What a failed renewal leaves behind

A single renewal that fails reports one of nine kinds of failure, and the failure alone tells what
has become of the keys, the submissions and the exports. A new key stays behind exactly when its
registration was accepted, when it could not be deleted, or when it was to be exported.
-/

namespace KeyRenewal

/-- A key made for a request: it runs from the round of the ledger to the requested one, and nothing
was installed under its handle. -/
structure MadeFor (request : RenewalRequest) (before : Bench) (key : KeyHandle × Credential) :
    Prop where
  address : key.2.address = request.address
  firstValid : key.2.firstValid = before.ledger.round
  lastValid : key.2.lastValid = request.lastValid
  fresh : before.store.credentials.contains key.1 = false

/-- One new key, and no more than that. -/
def KeyLeft (request : RenewalRequest) (before after : Bench) : Prop :=
  ∃ key asked, MadeFor request before key ∧ Tally before after [asked] [key] [] []

/-- One new key and one accepted transaction that registers it. -/
def KeySent (request : RenewalRequest) (before after : Bench) (transaction : StatusTransaction) :
    Prop :=
  ∃ key asked, MadeFor request before key ∧ transaction.address = request.address ∧
    transaction.registration = some key.2.registration ∧
    Tally before after [asked] [key] [] [transaction]

/-- The bench after a request was made of the store and some keys were deleted again. -/
def Bench.afterRequest (b : Bench) (asked : GenerationRequest) (deleted : List KeyHandle) : Bench :=
  { b with store := { b.store with
      requests := b.store.requests ++ [asked]
      deleted := b.store.deleted ++ deleted } }

/-- What a failure says about the bench it leaves, given the bench before. -/
def AfterFailure (request : RenewalRequest) (before after : Bench) : RenewalError → Prop
  | .config _ | .unknownProtocol _ | .windowTooShort .. | .existingCredential .. => after = before
  | .generationFailed _ => ∃ asked, after = before.afterRequest asked []
  | .registrationFailed address (some handle) _ =>
    address = request.address ∧ before.store.credentials.contains handle = false ∧
      ∃ asked, after = before.afterRequest asked [handle]
  | .registrationFailed address none _ =>
    address = request.address ∧ before.store.failDeletes = true ∧ KeyLeft request before after
  | .poolRejected txId _ =>
    ∃ transaction, txId = ScriptedWallet.txIdFor transaction ∧
      KeySent request before after transaction
  | .queryFailed _ =>
    if before.ledger.failRoundQueries then after = before
    else ∃ transaction, KeySent request before after transaction
  | .exportFailed path _ => request.exportPath = some path ∧ KeyLeft request before after
  | _ => False

theorem Refusal.afterFailure {request : RenewalRequest} {b : Bench} {e : RenewalError}
    (refusal : Refusal b e) : AfterFailure request b b e := by
  cases refusal with
  | unreachable source mute => exact (if_pos mute).mpr rfl
  | unknownProtocol version => exact rfl
  | config error => exact rfl
  | windowTooShort horizon life => exact rfl
  | covered horizon existing => exact rfl

section plan

variable {request : RenewalRequest} {config : EngineConfig} {snapshot : RoundSnapshot} {b b' : Bench}

theorem plan_madeFor (round : snapshot.currentRound = b.ledger.round)
    (fresh : b.store.credentials.contains (request.plan config snapshot).handle = false) :
    MadeFor request b (request.plan config snapshot).key :=
  ⟨rfl, round, rfl, fresh⟩

theorem RenewalRequest.target_file {path : Path} (exporting : request.target config = .file path) :
    request.exportPath = some path := by
  unfold RenewalRequest.target DispatchTarget.choose at exporting
  split at exporting
  · cases exporting
    assumption
  · cases exporting

theorem Course.afterFailure {e : RenewalError} (round : snapshot.currentRound = b.ledger.round)
    (answers : b.ledger.failRoundQueries = false) {target : DispatchTarget}
    (course : Course (request.plan config snapshot) b target (.error e) b')
    (chosen : request.target config = target) : AfterFailure request b b' e := by
  cases course with
  | notMade _ source =>
    refine ⟨(request.plan config snapshot).request, ?_⟩
    simp only [Bench.afterRequest, List.append_nil]
    rfl
  | rolledBack mode source fresh =>
    exact ⟨rfl, fresh, (request.plan config snapshot).request, rfl⟩
  | leftBehind mode source fresh failing =>
    exact ⟨rfl, failing, _, _, plan_madeFor round fresh, RenewalPlan.made_tally _ fresh⟩
  | sent mode fresh accepted progress =>
    have sent : KeySent request b _ (request.plan config snapshot).transaction :=
      ⟨_, _, plan_madeFor round fresh, rfl, rfl, RenewalPlan.sent_tally _ fresh progress⟩
    cases accepted with
    | rejected reason => exact ⟨_, rfl, sent⟩
    | unanswered source => exact (if_neg (Bool.not_eq_true _ ▸ answers)).mpr ⟨_, sent⟩
  | unwritten path source fresh =>
    exact ⟨RenewalRequest.target_file chosen, _, _, plan_madeFor round fresh,
      RenewalPlan.made_tally _ fresh⟩

end plan

/-- A single renewal that fails leaves a bench its failure describes, and nothing but the bench has
changed. -/
theorem single_renewal_atomic {σ : Type} (s : Station σ) (protocols : ProtocolRegistry)
    (config : EngineConfig) (request : RenewalRequest) (st : σ) (e : RenewalError)
    (failed : (((s.engine protocols config).runSingleRenewal request).run st).outcome = .error e) :
    ∃ after, (((s.engine protocols config).runSingleRenewal request).run st).state =
        s.bench.set st after ∧ AfterFailure request (s.bench.get st) after e := by
  rcases s.runSingleRenewal_cases st protocols config request with
    ⟨e', refusal, refused⟩ | ⟨snapshot, taken, valid, -, carried⟩
  · obtain ⟨outcome, state⟩ := Action.run_of_effect refused
    cases failed.symm.trans outcome
    exact ⟨s.bench.get st, by rw [s.bench.set_get, state], refusal.afterFailure⟩
  · obtain ⟨round, -, answers⟩ := ScriptedLedger.snapshot_round taken
    have course := (request.plan config snapshot).result_course (request.target config)
      (s.bench.get st)
    obtain ⟨outcome, state⟩ := Action.run_of_effect carried
    rw [← outcome, failed] at course
    exact ⟨_, state, course.afterFailure round answers rfl⟩

/-- A renewal the wallet refuses is rolled back. -/
theorem refused_renewal_atomic :
    ((World.station.engine .testRules {}).runSingleRenewal
        ⟨⟨"A"⟩, ⟨5000⟩, none, none, none, none⟩ |>.run (.ofBench .refusing)).outcome =
      .error (.registrationFailed ⟨"A"⟩ (some ⟨"memory/A.100.5000.partkey"⟩)
        (.rejected "wallet refused to sign for A")) ∧
    ∃ after, ((World.station.engine .testRules {}).runSingleRenewal
        ⟨⟨"A"⟩, ⟨5000⟩, none, none, none, none⟩ |>.run (.ofBench .refusing)).state =
        World.station.bench.set (.ofBench .refusing) after ∧
      AfterFailure ⟨⟨"A"⟩, ⟨5000⟩, none, none, none, none⟩ .refusing after
        (.registrationFailed ⟨"A"⟩ (some ⟨"memory/A.100.5000.partkey"⟩)
          (.rejected "wallet refused to sign for A")) :=
  ⟨by decide +kernel, single_renewal_atomic World.station .testRules {}
    ⟨⟨"A"⟩, ⟨5000⟩, none, none, none, none⟩ (.ofBench .refusing) _ (by decide +kernel)⟩

end KeyRenewal
