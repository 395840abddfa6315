import KeyRenewal.Batch
import KeyRenewal.Proofs.Dilution
import KeyRenewal.Proofs.Effects
import KeyRenewal.Proofs.RoundOrder

/-!
# What runs keep

An action keeps a property of the state if it never leaves a state without it, however it ends. What
is put together from actions that keep a property keeps it as well. An engine so keeps whatever its
collaborators keep, and of the store that has to hold only for requests in order: those for a range
that does not run backwards, with a dilution that is not zero.
-/

namespace KeyRenewal

variable {σ ε ε' α β : Type}

/-- However the action ends, it leaves a state with the property if it started in one. -/
def Action.Keeps (inv : σ → Prop) (a : Action σ ε α) : Prop :=
  ∀ st, inv st → inv (a.effect st).2

namespace Action.Keeps

variable {inv : σ → Prop}

theorem pure (value : α) : (Pure.pure value : Action σ ε α).Keeps inv := fun _ holds => holds

theorem fail (e : ε) : (Action.fail e : Action σ ε α).Keeps inv := fun _ holds => holds

theorem log (notice : Logging.Notice) : (Action.log notice : Action σ ε Unit).Keeps inv :=
  fun _ holds => holds

theorem get : (Action.get : Action σ ε σ).Keeps inv := fun _ holds => holds

theorem ofExcept (x : Except ε α) : (Action.ofExcept x : Action σ ε α).Keeps inv := by
  intro st holds
  rw [effect_ofExcept]
  exact holds

variable {a : Action σ ε α}

theorem bind {next : α → Action σ ε β} (first : a.Keeps inv)
    (second : ∀ value, (next value).Keeps inv) : (a >>= next).Keeps inv := by
  intro st holds
  have middle := first st holds
  rw [effect_bind]
  generalize a.effect st = left at middle ⊢
  obtain ⟨value | e | _, st'⟩ := left
  · exact second value st' middle
  · exact middle
  · exact middle

theorem mapError (keeps : a.Keeps inv) (f : ε → ε') : (a.mapError f).Keeps inv := by
  intro st holds
  rw [effect_mapError]
  exact keeps st holds

theorem attempt (keeps : a.Keeps inv) : (a.attempt : Action σ ε' _).Keeps inv := by
  intro st holds
  rw [effect_attempt]
  exact keeps st holds

theorem within (keeps : a.Keeps inv) (span : Logging.Span) : (a.within span).Keeps inv := keeps

theorem ite {c : Prop} [Decidable c] {b : Action σ ε α} (yes : c → a.Keeps inv)
    (no : ¬ c → b.Keeps inv) : (if c then a else b).Keeps inv := by
  by_cases h : c
  · rw [if_pos h]
    exact yes h
  · rw [if_neg h]
    exact no h

end Action.Keeps

/-- A request in order: the range does not run backwards, and the dilution is the one given or, if
that is zero, the default of the range. -/
structure GenerationRequest.Resolves (dilution : UInt64) (r : GenerationRequest) : Prop where
  ordered : r.firstValid ≤ r.lastValid
  nonzero : r.keyDilution ≠ 0
  given : dilution ≠ 0 → r.keyDilution = dilution
  derived : dilution = 0 → r.keyDilution = defaultDilution r.firstValid r.lastValid

theorem GenerationRequest.resolves (address : Address) {firstValid lastValid : Round}
    (ordered : firstValid ≤ lastValid) (dilution : UInt64) (outputDir : Option Path) :
    Resolves dilution
      ⟨address, firstValid, lastValid, resolveDilution dilution firstValid lastValid, outputDir⟩ := by
  by_cases none : dilution = 0
  · have derived : resolveDilution dilution firstValid lastValid =
        defaultDilution firstValid lastValid := if_pos none
    exact ⟨ordered, derived ▸ defaultDilution_ne_zero _ _, absurd none, fun _ => derived⟩
  · have given : resolveDilution dilution firstValid lastValid = dilution := if_neg none
    exact ⟨ordered, fun zero => none (given.symm.trans zero), fun _ => given, (absurd · none)⟩

/-- The collaborators keep a property of the state, as long as the store is asked for keys of one
kind only. -/
structure Collaborators.Keep (c : Collaborators σ) (inv : σ → Prop)
    (kind : GenerationRequest → Prop) : Prop where
  currentRound : c.ledger.currentRound.Keeps inv
  suggestedParams : c.ledger.suggestedParams.Keeps inv
  status : c.ledger.status.Keeps inv
  pendingTransaction : ∀ txId, (c.ledger.pendingTransaction txId).Keeps inv
  waitForRound : ∀ round, (c.ledger.waitForRound round).Keeps inv
  list : c.store.list.Keeps inv
  generate : ∀ request, kind request → (c.store.generate request).Keeps inv
  delete : ∀ handle, (c.store.delete handle).Keeps inv
  signAndSubmit : ∀ t, (c.signer.signAndSubmit t).Keeps inv
  multisigInfo : ∀ address, (c.signer.multisigInfo address).Keeps inv
  write : ∀ path bytes, (c.sink.write path bytes).Keeps inv

open KeyRenewal.Action (Keeps)

section operations

variable {inv : σ → Prop} {kind : GenerationRequest → Prop} {dilution : UInt64}

namespace Collaborators

variable {c : Collaborators σ}

theorem Keep.watch (keep : c.Keep inv kind) (txId : TxId) (turns : Nat) (round : Round) :
    (c.ledger.watch txId turns round).Keeps inv := by
  -- whatever the ledger answers, a turn makes one query and at most one wait
  induction turns generalizing round with
  | zero => exact fun _ holds => holds
  | succ turns ih =>
    refine ((keep.pendingTransaction txId).mapError _).bind fun status => ?_
    refine .ite (fun _ => (Keeps.log _).bind fun _ => .pure _) fun _ => ?_
    refine .ite (fun _ => (Keeps.log _).bind fun _ => .fail _) fun _ => ?_
    refine (Keeps.log _).bind fun _ => ?_
    exact ((keep.waitForRound _).mapError _).bind fun seen => ih _

theorem Keep.dispatch (keep : c.Keep inv kind) (t : StatusTransaction) (target : DispatchTarget) :
    (c.dispatch t target).Keeps inv := by
  cases target with
  | submit mode =>
    refine ((keep.signAndSubmit t).mapError _).bind fun txId => ?_
    refine (Keeps.log _).bind fun _ => ?_
    cases mode with
    | fireAndForget => exact (Keeps.log _).bind fun _ => .pure _
    | waitForConfirmation =>
      refine (keep.status.mapError _).bind fun start => ?_
      refine Keeps.bind ?_ fun _ => .pure _
      exact Keeps.get.bind fun _ => keep.watch txId _ _
  | file path =>
    refine ((keep.multisigInfo t.address).mapError _).bind fun sender => ?_
    refine ((keep.write path _).mapError _).bind fun _ => ?_
    exact (Keeps.log _).bind fun _ => .pure _

/-- Only a request in order reaches the store. -/
theorem Keep.generated (keep : c.Keep inv (·.Resolves dilution)) (address : Address)
    (firstValid lastValid : Round) (destination : Destination) :
    (c.generate address firstValid lastValid dilution destination).Keeps inv := by
  refine .ite (fun _ => .fail _) fun ordered => ?_
  refine Keeps.bind ?_ fun outputDir => ?_
  · cases destination with
    | managed => exact .pure _
    | directory path =>
      exact Keeps.get.bind fun _ => .ite (fun _ => .pure _) fun _ => .fail _
  · have asked := keep.generate _ (GenerationRequest.resolves address (Round.not_lt.mp ordered)
      dilution outputDir)
    exact (asked.mapError _).bind fun _ => (Keeps.log _).bind fun _ => .pure _

end Collaborators

namespace Engine

variable {e : Engine σ}

theorem snapshot_keeps (keep : e.collaborators.Keep inv kind) : e.snapshot.Keeps inv := by
  refine (keep.currentRound.mapError _).bind fun round => ?_
  refine (keep.suggestedParams.mapError _).bind fun suggested => ?_
  refine (Keeps.ofExcept _).bind fun parameters => ?_
  exact .ite (fun _ => .fail _) fun _ => (Keeps.log _).bind fun _ => .pure _

theorem giveUp_keeps (keep : e.collaborators.Keep inv kind) (attempt : RenewalAttempt)
    (error : RenewalError) : (e.giveUp attempt error : Action σ _ α).Keeps inv := by
  refine Keeps.bind ?_ fun _ => .fail _
  cases error with
  | registrationFailed address rolledBack source =>
    refine Keeps.bind ?_ fun _ => .pure _
    unfold RenewalAttempt.rollBack
    cases attempt.generated with
    | none => exact .pure _
    | some generated =>
      refine (keep.delete _).attempt.bind fun deleted => ?_
      cases deleted <;> exact (Keeps.log _).bind fun _ => .pure _
  | _ => exact .pure _

theorem renewAccount_keeps (keep : e.collaborators.Keep inv (·.Resolves dilution))
    (address : Address) (snapshot : RoundSnapshot) (lastValid : Round) (fee : UInt64)
    (target : DispatchTarget) :
    (e.renewAccount address snapshot lastValid fee dilution target).Keeps inv := by
  refine (keep.generated _ _ _ _).attempt.bind fun made => ?_
  cases made with
  | error error => exact giveUp_keeps keep _ error
  | ok generated =>
    have register : (e.register snapshot fee target generated address).Keeps inv :=
      (Keeps.ofExcept _).bind fun t => keep.dispatch t target
    refine register.attempt.bind fun dispatched => ?_
    cases dispatched with
    | error error => exact giveUp_keeps keep _ error
    | ok dispatch => exact .pure _

theorem runSingleRenewal_keeps {request : RenewalRequest}
    (keep : e.collaborators.Keep inv (·.Resolves (e.config.dilutionOr request.keyDilution))) :
    (e.runSingleRenewal request).Keeps inv := by
  refine Keeps.within ?_ _
  refine (snapshot_keeps keep).bind fun snapshot => ?_
  refine (Keeps.ofExcept _).bind fun _ => ?_
  refine (keep.list.mapError _).bind fun installed => ?_
  cases installed.coverage? request.address request.lastValid with
  | some existing => exact .fail _
  | none => exact renewAccount_keeps keep _ _ _ _ _

section batch

variable {request : BatchRequest}
  (keep : e.collaborators.Keep inv (·.Resolves (e.config.dilutionOr request.keyDilution)))

include keep

theorem renewIfDue_keeps (snapshot : RoundSnapshot) (latest : GeneratedCredential) :
    (e.renewIfDue request snapshot latest).Keeps inv := by
  unfold renewIfDue
  dsimp only
  cases e.config.lapsePolicy.classify latest.credential.lastValid snapshot.currentRound
    request.lastValid with
  | alreadyCovered | needsManualRenewal => exact (Keeps.log _).bind fun _ => .pure _
  | renew =>
    refine (renewAccount_keeps keep _ _ _ _ _).attempt.bind fun answer => ?_
    cases answer with
    | ok renewal => exact .pure _
    | error error => exact (Keeps.log _).bind fun _ => .pure _

theorem renewDue_keeps (snapshot : RoundSnapshot) (accounts : List GeneratedCredential) :
    (e.renewDue request snapshot accounts).Keeps inv := by
  induction accounts with
  | nil => exact .pure _
  | cons latest rest ih =>
    exact (renewIfDue_keeps keep _ _).bind fun row => ih.bind fun rows => .pure _

theorem runBatchRenewal_keeps : (e.runBatchRenewal request).Keeps inv := by
  refine Keeps.within ?_ _
  refine (keep.list.mapError _).bind fun installed => ?_
  refine (snapshot_keeps keep).bind fun snapshot => ?_
  refine (Keeps.ofExcept _).bind fun _ => ?_
  refine (Keeps.log _).bind fun _ => ?_
  refine (renewDue_keeps keep _ _).bind fun results => ?_
  exact (Keeps.log _).bind fun _ => .pure _

end batch

end Engine

end operations

end KeyRenewal
