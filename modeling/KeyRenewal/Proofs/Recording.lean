import KeyRenewal.Proofs.Bench

/-!
# Recorded runs

A recorded engine keeps a list beside its state of everything it hands to the wallet for signing and
to the sink for writing, whether that is then taken or refused. `RecordedAs` says that recording
makes no other difference and what the list may contain; it holds of an action put together from
others if it holds of those.
-/

namespace KeyRenewal

variable {σ ρ ε ε' α β : Type}

/-- The state without the record beside it. -/
def Lens.unrecorded : Lens (σ × List ρ) σ :=
  ⟨Prod.fst, fun s st => (st, s.2), fun _ _ => rfl, fun _ => rfl, fun _ _ _ => rfl⟩

namespace Action

/-- Add an entry to the record. -/
def note (entry : ρ) : Action (σ × List ρ) ε Unit := modify fun s => (s.1, s.2 ++ [entry])

/-- From a state on, the recorded action ends as the plain one does and leaves the same state, and
adds to the record only entries of one kind. -/
def RecordedAs (kind : ρ → Prop) (recorded : Action (σ × List ρ) ε α) (plain : Action σ ε α)
    (st : σ) : Prop :=
  ∀ record, ∃ added,
    recorded.effect (st, record) = ((plain.effect st).1, (plain.effect st).2, record ++ added) ∧
    ∀ entry ∈ added, kind entry

namespace RecordedAs

variable {kind : ρ → Prop} {st : σ}

theorem pure (value : α) :
    RecordedAs kind (Pure.pure value : Action (σ × List ρ) ε α) (Pure.pure value) st :=
  fun record => ⟨[], by simp, by simp⟩

theorem fail (e : ε) :
    RecordedAs kind (Action.fail e : Action (σ × List ρ) ε α) (Action.fail e) st :=
  fun record => ⟨[], by simp, by simp⟩

theorem log (notice : Logging.Notice) :
    RecordedAs kind (Action.log notice : Action (σ × List ρ) ε Unit) (Action.log notice) st :=
  fun record => ⟨[], by simp, by simp⟩

theorem ofExcept (x : Except ε α) :
    RecordedAs kind (Action.ofExcept x : Action (σ × List ρ) ε α) (Action.ofExcept x) st :=
  fun record => ⟨[], by simp, by simp⟩

/-- What runs beside the record adds nothing to it. -/
theorem focus (a : Action σ ε α) : RecordedAs kind (a.focus .unrecorded) a st :=
  fun record => ⟨[], by simp [Lens.unrecorded], by simp⟩

/-- What is noted before it runs is added, however it ends. -/
theorem noted {entry : ρ} (allowed : kind entry) (a : Action σ ε α) :
    RecordedAs kind (do note entry; a.focus .unrecorded) a st := by
  intro record
  exact ⟨[entry], by simp [note, Lens.unrecorded], by simpa using allowed⟩

variable {recorded : Action (σ × List ρ) ε α} {plain : Action σ ε α}

theorem mapError (same : RecordedAs kind recorded plain st) (f : ε → ε') :
    RecordedAs kind (recorded.mapError f) (plain.mapError f) st := by
  intro record
  obtain ⟨added, ends, allowed⟩ := same record
  exact ⟨added, by simp only [effect_mapError, ends], allowed⟩

theorem attempt (same : RecordedAs kind recorded plain st) :
    RecordedAs kind (recorded.attempt : Action _ ε' _) plain.attempt st := by
  intro record
  obtain ⟨added, ends, allowed⟩ := same record
  exact ⟨added, by simp only [effect_attempt, ends], allowed⟩

theorem within (same : RecordedAs kind recorded plain st) (span : Logging.Span) :
    RecordedAs kind (recorded.within span) (plain.within span) st := same

/-- The second action has to be recorded only where the first one leads. -/
theorem bind {next : α → Action (σ × List ρ) ε β} {next' : α → Action σ ε β}
    (first : RecordedAs kind recorded plain st)
    (second : ∀ value st', plain.effect st = (.ok value, st') →
      RecordedAs kind (next value) (next' value) st') :
    RecordedAs kind (recorded >>= next) (plain >>= next') st := by
  intro record
  obtain ⟨added, ends, allowed⟩ := first record
  simp only [effect_bind, ends]
  -- where the first action fails or gets stuck, its own entries are all there is
  rcases plainly : plain.effect st with ⟨value | e | _, st'⟩
  · obtain ⟨later, endsLater, allowedLater⟩ := second value st' plainly (record ++ added)
    refine ⟨added ++ later, ?_, ?_⟩
    · simp only [Outcome.chain_ok, endsLater, List.append_assoc]
    · intro entry there
      exact (List.mem_append.mp there).elim (allowed entry) (allowedLater entry)
  · exact ⟨added, rfl, allowed⟩
  · exact ⟨added, rfl, allowed⟩

theorem mono {kind' : ρ → Prop} (same : RecordedAs kind recorded plain st)
    (wider : ∀ entry, kind entry → kind' entry) : RecordedAs kind' recorded plain st := by
  intro record
  obtain ⟨added, ends, allowed⟩ := same record
  exact ⟨added, ends, fun entry there => wider entry (allowed entry there)⟩

/-- A run that starts with an empty record leaves only entries of the kind. -/
theorem allowed (same : RecordedAs kind recorded plain st) :
    ∀ entry ∈ (recorded.run (st, [])).state.2, kind entry := by
  obtain ⟨added, ends, allowed⟩ := same []
  rw [(run_of_effect ends).2]
  exact allowed

/-- What is in the record stays there. -/
theorem kept {s s' : σ × List ρ} {o : Outcome ε α} (same : RecordedAs kind recorded plain s.1)
    (ends : recorded.effect s = (o, s')) {entry : ρ} (there : entry ∈ s.2) : entry ∈ s'.2 := by
  obtain ⟨added, left, -⟩ := same s.2
  cases ends.symm.trans left
  exact List.mem_append_left _ there

end RecordedAs

end Action

/-- What is handed to the wallet to be signed, or to the sink to be written. -/
inductive Handover
  | signed (transaction : StatusTransaction)
  | written (path : Path) (bytes : List UInt8)
deriving DecidableEq

/-- What is handed over is a transaction with a property, or the bytes of one. -/
inductive Handover.Carries (holds : StatusTransaction → Prop) : Handover → Prop
  | signed {t : StatusTransaction} (has : holds t) : Carries holds (.signed t)
  | written (path : Path) {t : StatusTransaction} (sender : Option MultisigInfo) (has : holds t) :
    Carries holds (.written path (Envelope.unsigned t sender).toCbor)

theorem Handover.Carries.mono {holds holds' : StatusTransaction → Prop} {handover : Handover}
    (carries : Carries holds handover) (wider : ∀ t, holds t → holds' t) :
    Carries holds' handover := by
  cases carries with
  | signed has => exact .signed (wider _ has)
  | written path sender has => exact .written path sender (wider _ has)

/-- The same collaborators, with a record of what is handed to them. -/
def Collaborators.recorded (c : Collaborators σ) : Collaborators (σ × List Handover) where
  ledger := c.ledger.focus .unrecorded
  store := c.store.focus .unrecorded
  signer := {
    signAndSubmit transaction := do
      Action.note (.signed transaction)
      (c.signer.signAndSubmit transaction).focus .unrecorded
    multisigInfo address := (c.signer.multisigInfo address).focus .unrecorded }
  sink := {
    write path bytes := do
      Action.note (.written path bytes)
      (c.sink.write path bytes).focus .unrecorded }
  isDirectory path s := c.isDirectory path s.1

def Engine.recorded (e : Engine σ) : Engine (σ × List Handover) :=
  ⟨e.collaborators.recorded, e.protocols, e.config⟩

open KeyRenewal.Action (RecordedAs)

section steps

variable {kind : Handover → Prop} {st : σ}

namespace Collaborators

variable (c : Collaborators σ)

theorem generate_recorded (address : Address) (firstValid lastValid : Round)
    (keyDilution : UInt64) :
    RecordedAs kind (c.recorded.generate address firstValid lastValid keyDilution .managed)
      (c.generate address firstValid lastValid keyDilution .managed) st := by
  unfold generate
  by_cases reversed : lastValid < firstValid
  · simp only [if_pos reversed]
    exact .fail _
  simp only [if_neg reversed, Destination.outputDir]
  exact ((RecordedAs.focus _).mapError _).bind fun _ _ _ => (RecordedAs.log _).bind
    fun _ _ _ => .pure _

variable {t : StatusTransaction}

theorem submit_recorded (mode : WaitMode) (allowed : kind (.signed t)) :
    RecordedAs kind (c.recorded.submit t mode) (c.submit t mode) st := by
  refine ((RecordedAs.noted allowed _).mapError _).bind fun txId _ _ => (RecordedAs.log _).bind
    fun _ _ _ => ?_
  cases mode with
  | fireAndForget => exact (RecordedAs.log _).bind fun _ _ _ => .pure _
  | waitForConfirmation =>
    refine ((RecordedAs.focus _).mapError _).bind fun start _ _ => ?_
    refine RecordedAs.bind ?_ fun _ _ _ => .pure _
    rw [show c.recorded.ledger = c.ledger.focus .unrecorded from rfl,
      Ledger.awaitConfirmation_focus]
    exact .focus _

theorem writeUnsigned_recorded (path : Path)
    (allowed : ∀ sender, kind (.written path (Envelope.unsigned t sender).toCbor)) :
    RecordedAs kind (c.recorded.writeUnsigned t path) (c.writeUnsigned t path) st :=
  ((RecordedAs.focus _).mapError _).bind fun sender _ _ =>
    ((RecordedAs.noted (allowed sender) _).mapError _).bind fun _ _ _ =>
      (RecordedAs.log _).bind fun _ _ _ => .pure _

theorem dispatch_recorded (target : DispatchTarget) :
    RecordedAs (Handover.Carries (· = t)) (c.recorded.dispatch t target) (c.dispatch t target)
      st := by
  cases target with
  | submit mode => exact c.submit_recorded mode (.signed rfl)
  | file path => exact c.writeUnsigned_recorded path fun sender => .written path sender rfl

end Collaborators

namespace Engine

variable (e : Engine σ)

theorem snapshot_recorded : RecordedAs kind e.recorded.snapshot e.snapshot st := by
  refine ((RecordedAs.focus _).mapError _).bind fun round _ _ =>
    ((RecordedAs.focus _).mapError _).bind fun suggested _ _ =>
      (RecordedAs.ofExcept _).bind fun parameters _ _ => ?_
  by_cases life : parameters.maxTxnLife = 0
  · simp only [if_pos life]
    exact .fail _
  · simp only [if_neg life]
    exact (RecordedAs.log _).bind fun _ _ _ => .pure _

theorem listCredentials_recorded :
    RecordedAs kind e.recorded.listCredentials e.listCredentials st :=
  (RecordedAs.focus _).mapError _

theorem giveUp_recorded (attempt : RenewalAttempt) (error : RenewalError) :
    RecordedAs kind (e.recorded.giveUp attempt error : Action _ _ α) (e.giveUp attempt error)
      st := by
  refine RecordedAs.bind ?_ fun _ _ _ => .fail _
  cases error with
  | registrationFailed address rolledBack source =>
    refine RecordedAs.bind ?_ fun _ _ _ => .pure _
    unfold RenewalAttempt.rollBack
    cases attempt.generated with
    | none => exact .pure _
    | some generated =>
      refine (RecordedAs.focus _).attempt.bind fun deleted _ _ => ?_
      cases deleted <;> exact (RecordedAs.log _).bind fun _ _ _ => .pure _
  | _ => exact .pure _

/-- A renewal hands over nothing but the transaction built for the credential it was given. -/
theorem renewAccount_recorded (address : Address) (snapshot : RoundSnapshot) (lastValid : Round)
    (fee keyDilution : UInt64) (target : DispatchTarget)
    (allowed : ∀ generated st' t, (e.collaborators.generate address snapshot.currentRound lastValid
        keyDilution .managed).effect st = (.ok generated, st') →
      buildTransaction address (some generated.credential) snapshot.currentRound
        snapshot.parameters.maxTxnLife fee = .ok t →
      ∀ handover, handover.Carries (· = t) → kind handover) :
    RecordedAs kind
      (e.recorded.renewAccount address snapshot lastValid fee keyDilution target)
      (e.renewAccount address snapshot lastValid fee keyDilution target) st := by
  refine (e.collaborators.generate_recorded address _ _ _).attempt.bind fun answer st' made => ?_
  cases answer with
  | error error => exact e.giveUp_recorded _ error
  | ok generated =>
    have register : RecordedAs kind (e.recorded.register snapshot fee target generated address)
        (e.register snapshot fee target generated address) st' := by
      refine (RecordedAs.ofExcept _).bind fun t _ built => ?_
      exact (e.collaborators.dispatch_recorded target).mono (allowed generated st' t
        (Action.effect_of_attempt_ok made) (Action.ok_of_effect_ofExcept built).1)
    refine register.attempt.bind fun answer _ _ => ?_
    cases answer with
    | error error => exact e.giveUp_recorded _ error
    | ok dispatch => exact .pure _

variable {request : BatchRequest} {snapshot : RoundSnapshot}

/-- How the renewals of a batch are recorded, wherever the state has got to. -/
def RenewalsRecorded (kind : Handover → Prop) (request : BatchRequest) (snapshot : RoundSnapshot) :
    Prop :=
  ∀ address st, RecordedAs kind
    (e.recorded.renewAccount address snapshot request.lastValid (e.config.feeOr request.fee)
      (e.config.dilutionOr request.keyDilution) (.submit (e.config.waitModeOr request.waitMode)))
    (e.renewAccount address snapshot request.lastValid (e.config.feeOr request.fee)
      (e.config.dilutionOr request.keyDilution) (.submit (e.config.waitModeOr request.waitMode))) st

theorem renewIfDue_recorded (renewals : e.RenewalsRecorded kind request snapshot)
    (latest : GeneratedCredential) :
    RecordedAs kind (e.recorded.renewIfDue request snapshot latest)
      (e.renewIfDue request snapshot latest) st := by
  unfold renewIfDue
  dsimp only
  rw [show e.recorded.config = e.config from rfl]
  cases e.config.lapsePolicy.classify latest.credential.lastValid snapshot.currentRound
    request.lastValid with
  | alreadyCovered | needsManualRenewal => exact (RecordedAs.log _).bind fun _ _ _ => .pure _
  | renew =>
    refine (renewals latest.credential.address st).attempt.bind fun answer _ _ => ?_
    cases answer with
    | ok renewal => exact .pure _
    | error error => exact (RecordedAs.log _).bind fun _ _ _ => .pure _

theorem renewDue_recorded (renewals : e.RenewalsRecorded kind request snapshot)
    (accounts : List GeneratedCredential) :
    RecordedAs kind (e.recorded.renewDue request snapshot accounts)
      (e.renewDue request snapshot accounts) st := by
  induction accounts generalizing st with
  | nil => exact .pure _
  | cons latest rest ih =>
    exact (e.renewIfDue_recorded renewals latest).bind fun row _ _ => ih.bind fun _ _ _ => .pure _

/-- A single renewal is recorded as its one renewal is, on a snapshot that clears the window. -/
theorem runSingleRenewal_recorded {request : RenewalRequest}
    (renewal : ∀ snapshot taken, e.snapshot.effect st = (.ok snapshot, taken) →
      checkWindow snapshot.currentRound request.lastValid snapshot.parameters.maxTxnLife = .ok () →
      ∀ here, RecordedAs kind
        (e.recorded.renewAccount request.address snapshot request.lastValid
          (e.config.feeOr request.fee) (e.config.dilutionOr request.keyDilution)
          (.choose request.exportPath (e.config.waitModeOr request.waitMode)))
        (e.renewAccount request.address snapshot request.lastValid (e.config.feeOr request.fee)
          (e.config.dilutionOr request.keyDilution)
          (.choose request.exportPath (e.config.waitModeOr request.waitMode))) here) :
    RecordedAs kind (e.recorded.runSingleRenewal request) (e.runSingleRenewal request) st := by
  refine RecordedAs.within ?_ _
  refine e.snapshot_recorded.bind fun snapshot taken snapshotEnds => ?_
  refine (RecordedAs.ofExcept _).bind fun _ _ checkEnds => ?_
  refine e.listCredentials_recorded.bind fun installed here _ => ?_
  cases installed.coverage? request.address request.lastValid with
  | some existing => exact .fail _
  | none => exact renewal snapshot taken snapshotEnds (Action.ok_of_effect_ofExcept checkEnds).1 here

/-- A batch is recorded as its renewals are, all on one snapshot that clears the window. It is taken
after the credentials are listed. -/
theorem runBatchRenewal_recorded
    (renewals : ∀ installed listed snapshot taken,
      e.listCredentials.effect st = (.ok installed, listed) →
      e.snapshot.effect listed = (.ok snapshot, taken) →
      checkWindow snapshot.currentRound request.lastValid snapshot.parameters.maxTxnLife = .ok () →
      e.RenewalsRecorded kind request snapshot) :
    RecordedAs kind (e.recorded.runBatchRenewal request) (e.runBatchRenewal request) st := by
  refine RecordedAs.within ?_ _
  refine e.listCredentials_recorded.bind fun installed listed listEnds => ?_
  refine e.snapshot_recorded.bind fun snapshot taken snapshotEnds => ?_
  refine (RecordedAs.ofExcept _).bind fun _ _ checkEnds => ?_
  refine (RecordedAs.log _).bind fun _ _ _ => ?_
  have recorded : e.RenewalsRecorded kind request snapshot :=
    renewals installed listed snapshot taken listEnds snapshotEnds
      (Action.ok_of_effect_ofExcept checkEnds).1
  refine (e.renewDue_recorded recorded _).bind fun results _ _ => ?_
  exact (RecordedAs.log _).bind fun _ _ _ => .pure _

end Engine

end steps

end KeyRenewal
