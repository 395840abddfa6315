import KeyRenewal.Proofs.Answered
import KeyRenewal.Proofs.Scripts
import KeyRenewal.Proofs.Settling

/-!
# What a successful renewal has done

The stored credential, the registration that went out or was written, the outcome that is reported
and the transaction the pool was asked about are made in different places. After a renewal that
succeeds they all belong together.
-/

namespace KeyRenewal

namespace ScriptedLedger

/-- The pool names the round of a confirmation, and it is not the one that means "not confirmed". -/
theorem Polled.confirmed {l after : ScriptedLedger} {txId : TxId} {start round : Round}
    (polled : Polled txId start l (.ok round) after) :
    round ≠ .zero ∧
      (l.statuses.getD l.pendings (.confirmed after.round.next)).confirmedRound = round := by
  have answered := polled.answered
  unfold PendingStatus.verdict at answered
  split at answered
  · cases answered
  · rename_i decided
    cases answered
    exact ⟨decided, rfl⟩

/-- How far an accepted transaction has been followed when that ends well. -/
inductive FollowedTo (txId : TxId) (before after : ScriptedLedger) :
    WaitMode → DispatchOutcome → Prop
  | submitted (untouched : after = before) :
    FollowedTo txId before after .fireAndForget (.submitted txId)
  | confirmed {round : Round} (nonzero : round ≠ .zero)
      (lastAnswer : (before.statuses.getD before.pendings
        (.confirmed after.round.next)).confirmedRound = round)
      (polled : Polled txId before.round before (.ok round) after) :
    FollowedTo txId before after .waitForConfirmation (.confirmed txId round)

end ScriptedLedger

/-- How a registration leaves the engine: it is written to a path and nothing is submitted, or it is
submitted once and followed as far as the mode says. -/
inductive World.Dispatched (toFiles : Bool) (t : StatusTransaction) (before after : World) :
    DispatchTarget → DispatchOutcome → Prop
  | exported (path : Path)
      (written : ((exportsTo toFiles).write path (Envelope.unsigned t
        (before.bench.wallet.multisig.find? t.address)).toCbor).effect before = (.ok (), after))
      (kept : after.bench.store = before.bench.store)
      (unsent : after.bench.wallet = before.bench.wallet)
      (unwatched : after.bench.ledger = before.bench.ledger) :
    Dispatched toFiles t before after (.file path) (.exported path)
  | submitted {txId : TxId} {mode : WaitMode} {dispatch : DispatchOutcome}
      (signed : (ScriptedWallet.signAndSubmit t).effect before.bench.wallet =
        (.ok txId, after.bench.wallet))
      (once : after.bench.wallet.submitted = before.bench.wallet.submitted ++ [t])
      (followed : ScriptedLedger.FollowedTo txId before.bench.ledger after.bench.ledger mode
        dispatch)
      (kept : after.bench.store = before.bench.store)
      (unwritten : after.bench.sink = before.bench.sink ∧ after.machine = before.machine) :
    Dispatched toFiles t before after (.submit mode) dispatch

theorem World.Dispatched.kept {toFiles : Bool} {t : StatusTransaction} {before after : World}
    {target : DispatchTarget} {dispatch : DispatchOutcome}
    (dispatched : Dispatched toFiles t before after target dispatch) :
    after.bench.store = before.bench.store := by
  cases dispatched with
  | exported path written kept => exact kept
  | submitted signed once followed kept => exact kept

namespace World

open KeyRenewal.Action (effect_bind_eq_ok effect_of_mapError_ok effect_of_attempt_ok
  state_of_effect_log ok_of_effect_pure ok_of_effect_ofExcept)

variable {toFiles : Bool} {w w' : World}

end World

end KeyRenewal
