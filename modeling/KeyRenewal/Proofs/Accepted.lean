import KeyRenewal.Batch
import KeyRenewal.Proofs.Bench
import KeyRenewal.Proofs.Failures
import KeyRenewal.Proofs.Registry
import KeyRenewal.Toml.Settings

/-!
# Accepted configurations

What is wrong with a configuration shows when it is read. From one that is accepted an engine is
put together, and whatever the collaborators then do, nothing fails for the configuration any more.
-/

namespace KeyRenewal

variable {σ : Type}

/-- The failure is not one of the configuration. -/
def RenewalError.Operational (error : RenewalError) : Prop := ∀ reason, error ≠ .config reason

open RenewalError (Operational)
open ProtocolRegistry (Consistent)
open KeyRenewal.Action (FailsWith effect_bind_eq_ok effect_of_attempt_error ok_of_effect_ofExcept
  ok_of_effect_pure)

theorem DispatchTarget.Fails.operational {sender : Address} {target : DispatchTarget}
    {error : RenewalError} (fails : target.Fails sender error) : error.Operational := by
  rintro reason rfl
  cases fails

theorem Destination.outputDir_operational (isDirectory : Path → σ → Bool)
    (destination : Destination) (st : σ) :
    FailsWith Operational (destination.outputDir isDirectory) st := by
  cases destination with
  | managed => exact .pure _
  | directory path =>
    intro error st' ends
    change (if isDirectory path st then pure (some path) else
      Action.fail (.outputDirMissing path) : Action σ RenewalError (Option Path)).effect st = _
      at ends
    by_cases there : isDirectory path st
    · rw [if_pos there] at ends
      cases ends
    · rw [if_neg there] at ends
      cases ends
      exact nofun

theorem Collaborators.generate_operational (c : Collaborators σ) (address : Address)
    (firstValid lastValid : Round) (keyDilution : UInt64) (destination : Destination) (st : σ) :
    FailsWith Operational (c.generate address firstValid lastValid keyDilution destination) st := by
  unfold Collaborators.generate
  by_cases inverted : lastValid < firstValid
  · rw [if_pos inverted]
    exact .fail nofun
  · rw [if_neg inverted]
    refine (destination.outputDir_operational _ st).bind fun _ _ _ => ?_
    refine FailsWith.bind (.mapError (fun _ => nofun) _) fun _ _ _ => ?_
    exact (FailsWith.log _).bind fun _ _ _ => .pure _

namespace RenewalAttempt

variable {store : CredentialStore σ} {attempt : RenewalAttempt} {fails : RenewalError → Prop}
  {st st' : σ}

/-- Rolling back never fails: a key that cannot be deleted is left behind. -/
theorem rollBack_failsWith : FailsWith fails (attempt.rollBack store) st := by
  unfold rollBack
  cases attempt.generated with
  | none => exact .pure _
  | some generated =>
    refine (FailsWith.attempt _).bind fun answer _ _ => ?_
    cases answer with
    | ok => exact (FailsWith.log _).bind fun _ _ _ => .pure _
    | error => exact (FailsWith.log _).bind fun _ _ _ => .pure _

theorem fail_failsWith (error : RenewalError) : FailsWith fails (attempt.fail store error) st := by
  cases error with
  | registrationFailed => exact rollBack_failsWith.bind fun _ _ _ => .pure _
  | _ => exact .pure _

/-- What an attempt reports is the failure it was told of, or else one of registration. -/
theorem fail_operational {error : RenewalError} {answer : RenewalAttempt × RenewalError}
    (operational : error.Operational)
    (ends : (attempt.fail store error : Action σ RenewalError _).effect st = (.ok answer, st')) :
    answer.2.Operational := by
  cases error with
  | registrationFailed address rolledBack source =>
    obtain ⟨_, _, -, answered⟩ := effect_bind_eq_ok ends
    cases answered
    exact nofun
  | _ =>
    cases ends
    exact operational

end RenewalAttempt

theorem checkWindow_operational {current lastValid : Round} {maxTxnLife : UInt64}
    {error : RenewalError} (refused : checkWindow current lastValid maxTxnLife = .error error) :
    error.Operational := by
  unfold checkWindow at refused
  split at refused <;> cases refused
  exact nofun

namespace Engine

theorem buildTransaction_operational {address : Address} {credential : Option Credential}
    {firstValid : Round} {validRounds fee : UInt64} {error : RenewalError}
    (refused : buildTransaction address credential firstValid validRounds fee = .error error) :
    error.Operational := by
  unfold buildTransaction at refused
  split at refused <;> cases refused
  exact nofun

variable (e : Engine σ) (st : σ)

theorem listCredentials_operational : FailsWith Operational e.listCredentials st :=
  .mapError (fun _ => nofun) _

theorem giveUp_operational {α : Type} {error : RenewalError} (operational : error.Operational)
    (attempt : RenewalAttempt) :
    FailsWith Operational (e.giveUp attempt error : Action σ RenewalError α) st :=
  (RenewalAttempt.fail_failsWith error).bind fun _ _ reported =>
    .fail (RenewalAttempt.fail_operational operational reported)

theorem register_operational (snapshot : RoundSnapshot) (fee : UInt64) (target : DispatchTarget)
    (generated : GeneratedCredential) (address : Address) :
    FailsWith Operational (e.register snapshot fee target generated address) st :=
  FailsWith.bind (.ofExcept fun _ refused => buildTransaction_operational refused)
    fun transaction st' _ => (e.collaborators.dispatch_fails transaction st' target).mono
      fun _ fails => fails.operational

theorem renewAccount_operational (address : Address) (snapshot : RoundSnapshot) (lastValid : Round)
    (fee dilution : UInt64) (target : DispatchTarget) :
    FailsWith Operational (e.renewAccount address snapshot lastValid fee dilution target) st := by
  refine (FailsWith.attempt _).bind fun answer st₁ generating => ?_
  cases answer with
  | error error =>
    refine e.giveUp_operational st₁ ?_ _
    exact e.collaborators.generate_operational _ _ _ _ _ st _ _ (effect_of_attempt_error generating)
  | ok generated =>
    refine (FailsWith.attempt _).bind fun answer st₂ registering => ?_
    cases answer with
    | error error =>
      refine e.giveUp_operational st₂ ?_ _
      exact e.register_operational st₁ _ _ _ _ _ _ _ (effect_of_attempt_error registering)
    | ok dispatch => exact .pure _

/-- One account never fails the batch. -/
theorem renewIfDue_failsWith {fails : RenewalError → Prop} (request : BatchRequest)
    (snapshot : RoundSnapshot) (latest : GeneratedCredential) :
    FailsWith fails (e.renewIfDue request snapshot latest) st := by
  unfold renewIfDue
  dsimp only
  cases e.config.lapsePolicy.classify latest.credential.lastValid snapshot.currentRound
      request.lastValid with
  | alreadyCovered => exact (FailsWith.log _).bind fun _ _ _ => .pure _
  | needsManualRenewal => exact (FailsWith.log _).bind fun _ _ _ => .pure _
  | renew =>
    refine (FailsWith.attempt _).bind fun answer _ _ => ?_
    cases answer with
    | ok renewal => exact .pure _
    | error error => exact (FailsWith.log _).bind fun _ _ _ => .pure _

theorem renewDue_failsWith {fails : RenewalError → Prop} (request : BatchRequest)
    (snapshot : RoundSnapshot) (accounts : List GeneratedCredential) :
    FailsWith fails (e.renewDue request snapshot accounts) st := by
  induction accounts generalizing st with
  | nil => exact .pure _
  | cons latest rest ih =>
    refine (e.renewIfDue_failsWith st request snapshot latest).bind fun _ st' _ => ?_
    exact (ih st').bind fun _ _ _ => .pure _

end Engine

/-- A failure a report names is not one of the configuration. -/
def AccountResult.Operational (row : AccountResult) : Prop :=
  ∀ error, row.outcome = .failed error → error.Operational

namespace Engine

variable {e : Engine σ} {request : BatchRequest} {snapshot : RoundSnapshot} {st st' : σ}

theorem renewIfDue_operational {latest : GeneratedCredential} {row : AccountResult}
    (ends : (e.renewIfDue request snapshot latest).effect st = (.ok row, st')) :
    row.Operational := by
  unfold renewIfDue at ends
  dsimp only at ends
  cases decided : e.config.lapsePolicy.classify latest.credential.lastValid
      snapshot.currentRound request.lastValid with
  | alreadyCovered | needsManualRenewal =>
    rw [decided] at ends
    obtain ⟨_, _, _, answered⟩ := effect_bind_eq_ok ends
    obtain ⟨rfl, -⟩ := ok_of_effect_pure answered
    exact nofun
  | renew =>
    rw [decided] at ends
    obtain ⟨answer, s₁, renewing, done⟩ := effect_bind_eq_ok ends
    cases answer with
    | ok renewal =>
      obtain ⟨rfl, -⟩ := ok_of_effect_pure done
      exact nofun
    | error error =>
      obtain ⟨_, _, _, answered⟩ := effect_bind_eq_ok done
      obtain ⟨rfl, -⟩ := ok_of_effect_pure answered
      rintro _ ⟨⟩
      exact e.renewAccount_operational st _ _ _ _ _ _ _ _ (effect_of_attempt_error renewing)

theorem renewDue_operational {accounts : List GeneratedCredential} {rows : List AccountResult}
    (ends : (e.renewDue request snapshot accounts).effect st = (.ok rows, st')) :
    ∀ row ∈ rows, row.Operational := by
  induction accounts generalizing st rows with
  | nil =>
    obtain ⟨rfl, -⟩ := ok_of_effect_pure ends
    exact List.forall_mem_nil _
  | cons latest rest ih =>
    obtain ⟨row, s₁, first, dealt⟩ := effect_bind_eq_ok ends
    obtain ⟨others, s₂, later, answered⟩ := effect_bind_eq_ok dealt
    obtain ⟨rfl, rfl⟩ := ok_of_effect_pure answered
    exact List.forall_mem_cons.mpr ⟨renewIfDue_operational first, ih later⟩

end Engine

/-- Asked one after the other, the ledger reports a round and the parameters in force. -/
def Ledger.Reports (ledger : Ledger σ) (st : σ) (round : Round) (suggested : SuggestedParams)
    (st' : σ) : Prop :=
  ∃ between, ledger.currentRound.effect st = (.ok round, between) ∧
    ledger.suggestedParams.effect between = (.ok suggested, st')

namespace Engine

variable {e : Engine σ} {entries : List ProtocolEntry} {st st' : σ} {round : Round}
  {suggested : SuggestedParams}

/-- What the engine knows of the versions is read from consistent entries. -/
structure ReadFrom (e : Engine σ) (entries : List ProtocolEntry) : Prop where
  consistent : Consistent entries
  protocols : e.protocols = entries.foldl ProtocolRegistry.add .empty

theorem effect_snapshot_of_reports
    (reports : e.collaborators.ledger.Reports st round suggested st') :
    e.snapshot.effect st =
      (match e.protocols.lookup suggested.consensusVersion with
        | .error error => .error error
        | .ok parameters =>
          if parameters.maxTxnLife = 0 then
            .error (.config (.zeroLifetimeInForce parameters.version))
          else .ok ⟨round, parameters⟩, st') := by
  obtain ⟨between, told, suggesting⟩ := reports
  simp only [snapshot, Action.effect_bind, Action.effect_mapError, told, suggesting,
    Outcome.mapError_ok, Outcome.chain_ok, Action.effect_ofExcept]
  cases e.protocols.lookup suggested.consensusVersion with
  | error error => rfl
  | ok parameters =>
    simp only [Outcome.ofExcept_ok, Outcome.chain_ok, Action.effect_ite, Action.effect_fail,
      Action.effect_bind, Action.effect_log, Action.effect_pure]
    split <;> rfl

/-- A snapshot that fails for no query fails over what the ledger reports. -/
theorem reports_of_snapshot_error {error : RenewalError}
    (ends : e.snapshot.effect st = (.error error, st')) :
    (∃ source, error = .queryFailed source) ∨
      ∃ round suggested, e.collaborators.ledger.Reports st round suggested st' := by
  have steps := ends
  simp only [snapshot, Action.effect_bind, Action.effect_mapError] at steps
  rcases told : e.collaborators.ledger.currentRound.effect st with ⟨round | source | _, between⟩
  · rw [told] at steps
    rcases suggesting : e.collaborators.ledger.suggestedParams.effect between with
      ⟨suggested | source | _, after⟩
    · have reports : e.collaborators.ledger.Reports st round suggested after :=
        ⟨between, told, suggesting⟩
      rw [effect_snapshot_of_reports reports] at ends
      obtain ⟨-, rfl⟩ := Prod.mk.inj ends
      exact Or.inr ⟨round, suggested, reports⟩
    · simp only [Outcome.mapError_ok, Outcome.chain_ok, suggesting] at steps
      cases steps
      exact Or.inl ⟨source, rfl⟩
    · simp only [Outcome.mapError_ok, Outcome.chain_ok, suggesting] at steps
      cases steps
  · rw [told] at steps
    cases steps
    exact Or.inl ⟨source, rfl⟩
  · rw [told] at steps
    cases steps

namespace ReadFrom

variable (read : e.ReadFrom entries)

include read

theorem effect_snapshot (reports : e.collaborators.ledger.Reports st round suggested st') :
    e.snapshot.effect st =
      ((entries.find? (·.version = suggested.consensusVersion.text)).elim
        (.error (.unknownProtocol suggested.consensusVersion))
        fun entry => .ok ⟨round, ⟨suggested.consensusVersion, entry.maxTxnLife⟩⟩, st') := by
  rw [effect_snapshot_of_reports reports, read.protocols, read.consistent.lookup]
  cases found : entries.find? (·.version = suggested.consensusVersion.text) with
  | none => rfl
  | some entry =>
    have lasting := read.consistent.lasting entry (List.mem_of_find?_eq_some found)
    simp only [Option.elim_some, if_neg lasting]

theorem snapshot_known {entry : ProtocolEntry}
    (reports : e.collaborators.ledger.Reports st round suggested st') (there : entry ∈ entries)
    (mine : entry.version = suggested.consensusVersion.text) :
    e.snapshot.effect st =
      (.ok ⟨round, ⟨suggested.consensusVersion, entry.maxTxnLife⟩⟩, st') := by
  rw [read.effect_snapshot reports, read.consistent.find?_eq_some there mine]
  rfl

/-- A snapshot fails for a query or for a version no entry has, and for nothing else. -/
theorem snapshot_error {error : RenewalError}
    (ends : e.snapshot.effect st = (.error error, st')) :
    (∃ source, error = .queryFailed source) ∨
      ∃ round suggested, e.collaborators.ledger.Reports st round suggested st' ∧
        error = .unknownProtocol suggested.consensusVersion ∧
        ∀ entry ∈ entries, entry.version ≠ suggested.consensusVersion.text := by
  rcases reports_of_snapshot_error ends with queried | ⟨round, suggested, reports⟩
  · exact Or.inl queried
  · rw [read.effect_snapshot reports] at ends
    cases found : entries.find? (·.version = suggested.consensusVersion.text) with
    | some entry =>
      rw [found] at ends
      cases ends
    | none =>
      rw [found] at ends
      cases ends
      exact Or.inr ⟨round, suggested, reports, rfl, by simpa using found⟩

theorem snapshot_unknown_iff {version : ConsensusVersion} :
    e.snapshot.effect st = (.error (.unknownProtocol version), st') ↔
      (∃ round suggested, e.collaborators.ledger.Reports st round suggested st' ∧
        suggested.consensusVersion = version) ∧
      ∀ entry ∈ entries, entry.version ≠ version.text := by
  constructor
  · intro ends
    rcases read.snapshot_error ends with
      ⟨source, other⟩ | ⟨round, suggested, reports, same, without⟩
    · cases other
    · cases same
      exact ⟨⟨round, suggested, reports, rfl⟩, without⟩
  · rintro ⟨⟨round, suggested, reports, rfl⟩, without⟩
    have missing : entries.find? (·.version = suggested.consensusVersion.text) = none := by
      simpa using without
    rw [read.effect_snapshot reports, missing]
    rfl

theorem snapshot_fails (st : σ) :
    FailsWith (fun error => (∃ source, error = .queryFailed source) ∨
      ∃ version, error = .unknownProtocol version) e.snapshot st := by
  intro error st' ends
  rcases read.snapshot_error ends with queried | ⟨round, suggested, -, unknown, -⟩
  · exact Or.inl queried
  · exact Or.inr ⟨suggested.consensusVersion, unknown⟩

theorem snapshot_operational (st : σ) : FailsWith Operational e.snapshot st := by
  refine (read.snapshot_fails st).mono ?_
  rintro _ (⟨source, rfl⟩ | ⟨version, rfl⟩) <;> exact nofun

theorem changeOnlineStatus_operational (request : StatusChangeRequest) (st : σ) :
    FailsWith Operational (e.changeOnlineStatus request) st := by
  refine (read.snapshot_operational st).bind fun snapshot s₁ _ => ?_
  refine FailsWith.bind ?_ fun chosen s₂ _ => ?_
  · match request.intent with
    | .offline => exact .pure _
    | .online (some credential) => exact .pure _
    | .online none =>
      refine (e.listCredentials_operational s₁).bind fun installed s₂ _ => ?_
      cases installed.latest.find? request.address with
      | some latest => exact .pure _
      | none => exact .fail nofun
  · refine FailsWith.bind (.ofExcept fun _ refused => buildTransaction_operational refused)
      fun transaction s₃ _ => ?_
    exact (e.collaborators.dispatch_fails transaction s₃ _).mono fun _ fails => fails.operational

theorem runSingleRenewal_operational (request : RenewalRequest) (st : σ) :
    FailsWith Operational (e.runSingleRenewal request) st := by
  refine FailsWith.within ?_ _
  refine (read.snapshot_operational st).bind fun snapshot s₁ _ => ?_
  refine (FailsWith.ofExcept fun _ => checkWindow_operational).bind fun _ s₂ _ => ?_
  refine (e.listCredentials_operational s₂).bind fun installed s₃ _ => ?_
  cases installed.coverage? request.address request.lastValid with
  | some existing => exact .fail nofun
  | none => exact e.renewAccount_operational s₃ _ _ _ _ _ _

theorem runBatchRenewal_operational (request : BatchRequest) (st : σ) :
    FailsWith Operational (e.runBatchRenewal request) st := by
  refine FailsWith.within ?_ _
  refine (e.listCredentials_operational st).bind fun installed s₁ _ => ?_
  refine (read.snapshot_operational s₁).bind fun snapshot s₂ _ => ?_
  refine (FailsWith.ofExcept fun _ => checkWindow_operational).bind fun _ s₃ _ => ?_
  refine (FailsWith.log _).bind fun _ s₄ _ => ?_
  refine (e.renewDue_failsWith s₄ _ _ _).bind fun rows s₅ _ => ?_
  exact (FailsWith.log _).bind fun _ _ _ => .pure _

end ReadFrom

theorem accounts_operational {request : BatchRequest} {report : BatchReport}
    (ends : (e.runBatchRenewal request).effect st = (.ok report, st')) :
    ∀ row ∈ report.results, row.Operational := by
  obtain ⟨installed, s₁, listed, snapping⟩ := effect_bind_eq_ok ends
  obtain ⟨snapshot, s₂, taken, checking⟩ := effect_bind_eq_ok snapping
  obtain ⟨_, s₃, passed, starting⟩ := effect_bind_eq_ok checking
  obtain ⟨_, s₄, started, dealing⟩ := effect_bind_eq_ok starting
  obtain ⟨rows, s₅, dealt, finishing⟩ := effect_bind_eq_ok dealing
  obtain ⟨_, s₆, finished, answered⟩ := effect_bind_eq_ok finishing
  obtain ⟨rfl, -⟩ := ok_of_effect_pure answered
  exact renewDue_operational dealt

/-- The entries are all the engine knows of the versions, and no operation fails for the
configuration, a batch on no account either. -/
structure Configured (e : Engine σ) (entries : List ProtocolEntry) : Prop where
  lookup : ∀ entry ∈ entries,
    e.protocols.lookup ⟨entry.version⟩ = .ok ⟨⟨entry.version⟩, entry.maxTxnLife⟩
  known : ∀ st round suggested st', e.collaborators.ledger.Reports st round suggested st' →
    ∀ entry ∈ entries, entry.version = suggested.consensusVersion.text → e.snapshot.effect st =
      (.ok ⟨round, ⟨suggested.consensusVersion, entry.maxTxnLife⟩⟩, st')
  unknown : ∀ st version st', e.snapshot.effect st = (.error (.unknownProtocol version), st') ↔
    (∃ round suggested, e.collaborators.ledger.Reports st round suggested st' ∧
      suggested.consensusVersion = version) ∧ ∀ entry ∈ entries, entry.version ≠ version.text
  snapshot : ∀ st, FailsWith (fun error => (∃ source, error = .queryFailed source) ∨
    ∃ version, error = .unknownProtocol version) e.snapshot st
  addCredential : ∀ address firstValid lastValid keyDilution destination st, FailsWith Operational
    (e.addCredential address firstValid lastValid keyDilution destination) st
  changeOnlineStatus : ∀ request st, FailsWith Operational (e.changeOnlineStatus request) st
  runSingleRenewal : ∀ request st, FailsWith Operational (e.runSingleRenewal request) st
  runBatchRenewal : ∀ request st, FailsWith Operational (e.runBatchRenewal request) st
  accounts : ∀ request st report st', (e.runBatchRenewal request).effect st = (.ok report, st') →
    ∀ row ∈ report.results, row.Operational

theorem ReadFrom.configured (read : e.ReadFrom entries) : e.Configured entries where
  lookup entry there := by
    rw [read.protocols, read.consistent.lookup, read.consistent.find?_eq_some there rfl]
    rfl
  known _ _ _ _ reports _ there mine := read.snapshot_known reports there mine
  unknown _ _ _ := read.snapshot_unknown_iff
  snapshot := read.snapshot_fails
  addCredential _ _ _ _ _ st := e.collaborators.generate_operational _ _ _ _ _ st
  changeOnlineStatus := read.changeOnlineStatus_operational
  runSingleRenewal := read.runSingleRenewal_operational
  runBatchRenewal := read.runBatchRenewal_operational
  accounts _ _ _ _ ends := accounts_operational ends

end Engine

namespace EngineConfig

variable {config : EngineConfig} {document : String}

theorem validate_of_ofDocument (accepted : ofDocument document = .ok config) :
    config.validate = .ok () := by
  unfold ofDocument at accepted
  split at accepted
  · cases accepted
  · rename_i described _
    cases valid : described.validate with
    | error reason =>
      rw [valid] at accepted
      cases accepted
    | ok =>
      rw [valid] at accepted
      cases accepted
      exact valid

theorem registry_of_validate (valid : config.validate = .ok ()) :
    ∃ registry, config.registry = .ok registry := by
  unfold validate at valid
  cases leveled : config.logging.validate with
  | error reason =>
    rw [leveled] at valid
    cases valid
  | ok =>
    rw [leveled] at valid
    cases made : config.registry with
    | error reason =>
      rw [made] at valid
      cases valid
    | ok registry => exact ⟨registry, rfl⟩

end EngineConfig

/-- From a configuration that is accepted and the three collaborators there have to be, an engine is
put together that never fails for the configuration, whatever they do. -/
theorem accepted_configurations_suffice {document : String} {config : EngineConfig}
    (accepted : EngineConfig.ofDocument document = .ok config) (ledger : Ledger σ)
    (store : CredentialStore σ) (signer : Signer σ) (sink : Option (ArtifactSink σ))
    (files : ArtifactSink σ) (isDirectory : Path → σ → Bool) :
    ∃ e : Engine σ, EngineParts.assemble ⟨some ledger, some store, some signer, sink, files,
        isDirectory, none, config⟩ = .ok e ∧
      e.collaborators = ⟨ledger, store, signer, sink.getD files, isDirectory⟩ ∧
      e.config = config ∧ e.Configured config.protocols := by
  obtain ⟨registry, made⟩ :=
    EngineConfig.registry_of_validate (EngineConfig.validate_of_ofDocument accepted)
  obtain ⟨consistent, same⟩ := ProtocolRegistry.ofEntries_ok_iff.mp made
  refine ⟨⟨⟨ledger, store, signer, sink.getD files, isDirectory⟩, registry, config⟩, ?_, rfl, rfl,
    Engine.ReadFrom.configured ⟨consistent, same⟩⟩
  unfold EngineParts.assemble
  dsimp only
  rw [made]
  rfl

/-- A document that lists one version is accepted. The engine knows the rules of that version, and
no snapshot is taken while another one is in force. -/
theorem accepted_configurations_suffice_of_one_version :
    let document := "default_fee = 5\n[[protocol]]\nversion = \"v1\"\nmax_txn_life = 1000\n"
    let config : EngineConfig := { defaultFee := 5, protocols := [⟨"v1", 1000⟩] }
    let under (version : ConsensusVersion) := World.ofBench (.startingAt ⟨100⟩ version)
    EngineConfig.ofDocument document = .ok config ∧
    ∃ e : Engine World, (World.station.parts none true none config).assemble = .ok e ∧
      e.snapshot.effect (under ⟨"v1"⟩) = (.ok ⟨⟨100⟩, ⟨⟨"v1"⟩, 1000⟩⟩, under ⟨"v1"⟩) ∧
      e.snapshot.effect (under ⟨"v2"⟩) = (.error (.unknownProtocol ⟨"v2"⟩), under ⟨"v2"⟩) := by
  intro document config under
  have accepted : EngineConfig.ofDocument document = .ok config := by decide +kernel
  obtain ⟨e, assembled, collaborators, -, configured⟩ := accepted_configurations_suffice accepted
    World.station.ledger World.station.memoryStore World.station.signer
    (some World.station.fileSink) World.station.fileSink World.station.isDirectory
  have reports (version : ConsensusVersion) : e.collaborators.ledger.Reports (under version) ⟨100⟩
      ⟨version, 0⟩ (under version) := by
    rw [collaborators]
    exact ⟨under version, rfl, rfl⟩
  refine ⟨accepted, e, assembled, ?_, ?_⟩
  · exact configured.known _ _ _ _ (reports ⟨"v1"⟩) ⟨"v1", 1000⟩ List.mem_cons_self rfl
  · exact (configured.unknown _ _ _).mpr ⟨⟨_, _, reports ⟨"v2"⟩, rfl⟩, by decide⟩

end KeyRenewal
