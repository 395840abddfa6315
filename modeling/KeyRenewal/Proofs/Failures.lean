import KeyRenewal.Batch
import KeyRenewal.Proofs.Effects

/-!
# Ways to fail

Collaborators may fail as they like, but an engine turns their failures into its own, each of which
belongs to the step that came to nothing.
-/

namespace KeyRenewal

variable {σ ε ε' α β : Type}

namespace Action

/-- If the action fails from a state on, it does so in one of the given ways. -/
def FailsWith (fails : ε → Prop) (a : Action σ ε α) (st : σ) : Prop :=
  ∀ e st', a.effect st = (.error e, st') → fails e

namespace FailsWith

variable {fails : ε → Prop} {st : σ}

theorem pure (value : α) : FailsWith fails (Pure.pure value) st := by
  intro e st' ends
  cases ends

theorem log (notice : Logging.Notice) : FailsWith fails (Action.log notice) st := by
  intro e st' ends
  cases ends

theorem fail {e : ε} (allowed : fails e) :
    FailsWith fails (Action.fail e : Action σ ε α) st := by
  intro e' st' ends
  cases ends
  exact allowed

theorem ofExcept {x : Except ε α} (allowed : ∀ e, x = .error e → fails e) :
    FailsWith fails (Action.ofExcept x) st := by
  intro e st' ends
  cases x with
  | ok value => cases ends
  | error e' => exact FailsWith.fail (allowed e' rfl) e st' ends

theorem mapError {f : ε → ε'} {fails : ε' → Prop} (allowed : ∀ e, fails (f e)) (a : Action σ ε α) :
    FailsWith fails (a.mapError f) st := by
  intro e st' ends
  rw [effect_mapError] at ends
  generalize a.effect st = left at ends
  obtain ⟨value | e' | _, st''⟩ := left <;> cases ends
  exact allowed e'

/-- What is attempted does not fail. -/
theorem attempt {fails : ε' → Prop} (a : Action σ ε α) : FailsWith fails a.attempt st := by
  intro e st' ends
  rw [effect_attempt] at ends
  generalize a.effect st = left at ends
  obtain ⟨value | e' | _, st''⟩ := left <;> cases ends

theorem within {a : Action σ ε α} (inner : FailsWith fails a st) (span : Logging.Span) :
    FailsWith fails (a.within span) st := inner

theorem mono {fails' : ε → Prop} {a : Action σ ε α} (first : FailsWith fails a st)
    (wider : ∀ e, fails e → fails' e) : FailsWith fails' a st :=
  fun e st' ends => wider e (first e st' ends)

/-- The second action has to fail in the given ways only where the first one leads. -/
theorem bind {a : Action σ ε α} {next : α → Action σ ε β} (first : FailsWith fails a st)
    (second : ∀ value st', a.effect st = (.ok value, st') → FailsWith fails (next value) st') :
    FailsWith fails (a >>= next) st := by
  intro e st' ends
  rw [effect_bind] at ends
  rcases leads : a.effect st with ⟨value | e' | _, st''⟩
  · rw [leads] at ends
    exact second value st'' leads e st' ends
  · rw [leads] at ends
    cases ends
    exact first e st' leads
  · rw [leads] at ends
    cases ends

end FailsWith

end Action

open KeyRenewal.Action (FailsWith)

/-- How dispatching a transaction of an account may fail. A registration that fails names no key
that would have been deleted for it. -/
inductive DispatchTarget.Fails (sender : Address) : DispatchTarget → RenewalError → Prop
  | registrationFailed (mode : WaitMode) (source : ServiceError) :
    Fails sender (.submit mode) (.registrationFailed sender none source)
  | poolRejected (mode : WaitMode) (txId : TxId) (reason : String) :
    Fails sender (.submit mode) (.poolRejected txId reason)
  | queryFailed (mode : WaitMode) (source : ServiceError) :
    Fails sender (.submit mode) (.queryFailed source)
  | exportFailed (path : Path) (source : ServiceError) :
    Fails sender (.file path) (.exportFailed path source)

open DispatchTarget (Fails)

theorem Ledger.watch_fails (ledger : Ledger σ) (sender : Address) (mode : WaitMode) (txId : TxId)
    (turns : Nat) (round : Round) (st : σ) :
    FailsWith (Fails sender (.submit mode)) (ledger.watch txId turns round) st := by
  induction turns generalizing round st with
  | zero =>
    intro error st' ends
    cases ends
  | succ turns ih =>
    refine (FailsWith.mapError (.queryFailed mode) _).bind fun status _ _ => ?_
    by_cases confirmed : status.isConfirmed
    · simp only [if_pos confirmed]
      exact (FailsWith.log _).bind fun _ _ _ => .pure _
    by_cases rejected : status.isRejected
    · simp only [if_neg confirmed, if_pos rejected]
      exact (FailsWith.log _).bind fun _ _ _ => .fail (.poolRejected mode _ _)
    simp only [if_neg confirmed, if_neg rejected]
    refine (FailsWith.log _).bind fun _ _ _ => ?_
    exact (FailsWith.mapError (.queryFailed mode) _).bind fun seen _ _ => ih _ _

namespace Collaborators

variable (c : Collaborators σ) (t : StatusTransaction) (st : σ)

theorem submit_fails (mode : WaitMode) :
    FailsWith (Fails t.address (.submit mode)) (c.submit t mode) st := by
  refine (FailsWith.mapError (.registrationFailed mode) _).bind fun txId _ _ => ?_
  refine (FailsWith.log _).bind fun _ _ _ => ?_
  cases mode with
  | fireAndForget => exact (FailsWith.log _).bind fun _ _ _ => .pure _
  | waitForConfirmation =>
    refine (FailsWith.mapError (.queryFailed _) _).bind fun start s₁ _ => ?_
    refine FailsWith.bind ?_ fun _ _ _ => .pure _
    exact c.ledger.watch_fails t.address _ txId _ start.lastRound s₁

theorem writeUnsigned_fails (path : Path) :
    FailsWith (Fails t.address (.file path)) (c.writeUnsigned t path) st := by
  refine (FailsWith.mapError (.exportFailed path) _).bind fun sender _ _ => ?_
  refine (FailsWith.mapError (.exportFailed path) _).bind fun _ _ _ => ?_
  exact (FailsWith.log _).bind fun _ _ _ => .pure _

theorem dispatch_fails (target : DispatchTarget) :
    FailsWith (target.Fails t.address) (c.dispatch t target) st := by
  cases target with
  | submit mode => exact c.submit_fails t st mode
  | file path => exact c.writeUnsigned_fails t st path

end Collaborators

namespace Engine

variable (e : Engine σ)

/-- How taking a snapshot may fail. The version in force is not known, or its rules are void. -/
inductive SnapshotFails : RenewalError → Prop
  | queryFailed (source : ServiceError) : SnapshotFails (.queryFailed source)
  | unknownProtocol {version : ConsensusVersion}
    (unknown : e.protocols.lookup version = .error (.unknownProtocol version)) :
    SnapshotFails (.unknownProtocol version)
  | zeroLifetime {version : ConsensusVersion} {parameters : ProtocolParameters}
    (known : e.protocols.lookup version = .ok parameters) (zero : parameters.maxTxnLife = 0) :
    SnapshotFails (.config (.zeroLifetimeInForce parameters.version))

theorem snapshot_fails (st : σ) : FailsWith e.SnapshotFails e.snapshot st := by
  refine (FailsWith.mapError .queryFailed _).bind fun round _ _ => ?_
  refine (FailsWith.mapError .queryFailed _).bind fun suggested _ _ => ?_
  refine FailsWith.bind (.ofExcept fun error refused => ?_) fun parameters _ found => ?_
  · have unknown : error = .unknownProtocol suggested.consensusVersion := by
      unfold ProtocolRegistry.lookup at refused
      split at refused <;> cases refused
      rfl
    subst unknown
    exact .unknownProtocol refused
  · by_cases zero : parameters.maxTxnLife = 0
    · simp only [if_pos zero]
      exact .fail (.zeroLifetime (Action.ok_of_effect_ofExcept found).1 zero)
    · simp only [if_neg zero]
      exact (FailsWith.log _).bind fun _ _ _ => .pure _

end Engine

end KeyRenewal
