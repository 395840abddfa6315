import KeyRenewal.Batch
import KeyRenewal.Proofs.Effects
import KeyRenewal.Proofs.RoundOrder
import KeyRenewal.Scripted.Bench

/-!
# Scripted collaborators at a station

What each scripted collaborator does to the bench of a station, and what an engine over them sees
when it takes its snapshot. The rest of the state is never looked at.
-/

namespace KeyRenewal

variable {σ τ : Type}

theorem Ledger.watch_focus (lens : Lens σ τ) (ledger : Ledger τ) (txId : TxId) (turns : Nat)
    (round : Round) :
    (ledger.focus lens).watch txId turns round = (ledger.watch txId turns round).focus lens := by
  induction turns generalizing round with
  | zero =>
    funext st
    simp [Ledger.watch, Action.focus, Action.block]
  | succ turns ih =>
    rw [Ledger.watch, Ledger.watch, Action.focus_bind, Action.focus_mapError]
    congr 1
    funext status
    by_cases confirmed : status.isConfirmed
    · simp [confirmed, Action.focus_bind, Action.focus_log, Action.focus_pure]
    by_cases rejected : status.isRejected
    · simp [confirmed, rejected, Action.focus_bind, Action.focus_log, Action.focus_fail]
    simp only [confirmed, rejected, Action.focus_bind, Action.focus_log, Action.focus_mapError,
      ← ih, Bool.false_eq_true, if_false]
    rfl

theorem Ledger.awaitConfirmation_focus (lens : Lens σ τ) (ledger : Ledger τ) (txId : TxId)
    (start : Round) :
    (ledger.focus lens).awaitConfirmation txId start =
      (ledger.awaitConfirmation txId start).focus lens := by
  funext st
  let turns := ledger.patience (lens.get st) + 1
  have watched := congrFun (ledger.watch_focus lens txId turns start) st
  show (⟨_, _, [] ++ _⟩ : Run σ RenewalError Round) = ⟨_, lens.set st _, [] ++ _⟩
  exact watched

namespace ScriptedLedger

/-- What becomes of a ledger that is queried and waited for: it moves on, and its settings stay. -/
structure Progress (before after : ScriptedLedger) : Prop where
  round : before.round ≤ after.round
  version : after.version = before.version
  failWaits : after.failWaits = before.failWaits
  hangWaits : after.hangWaits = before.hangWaits
  failRoundQueries : after.failRoundQueries = before.failRoundQueries

theorem Progress.refl (l : ScriptedLedger) : Progress l l :=
  ⟨Round.le_refl _, rfl, rfl, rfl, rfl⟩

theorem Progress.trans {l m n : ScriptedLedger} (lm : Progress l m) (mn : Progress m n) :
    Progress l n where
  round := Round.le_trans lm.round mn.round
  version := mn.version.trans lm.version
  failWaits := mn.failWaits.trans lm.failWaits
  hangWaits := mn.hangWaits.trans lm.hangWaits
  failRoundQueries := mn.failRoundQueries.trans lm.failRoundQueries

theorem pendingTransaction_progress (txId : TxId) (l : ScriptedLedger) :
    Progress l ((pendingTransaction txId).effect l).2 := by
  obtain ⟨round, version, statuses, queried, waited, queryFailures, _, _, _⟩ := l
  cases queryFailures with
  | zero => cases statuses <;> exact ⟨Round.le_refl _, rfl, rfl, rfl, rfl⟩
  | succ failures => exact ⟨Round.le_refl _, rfl, rfl, rfl, rfl⟩

theorem waitForRound_progress (round : Round) (l : ScriptedLedger) :
    Progress l ((waitForRound round).effect l).2 := by
  simp only [waitForRound, Action.effect_bind, Action.effect_modify, Action.effect_get,
    Outcome.chain_ok]
  by_cases hangs : l.hangWaits
  · rw [if_pos hangs]
    exact ⟨Round.le_refl _, rfl, rfl, rfl, rfl⟩
  rw [if_neg hangs]
  by_cases fails : l.failWaits
  · rw [if_pos fails]
    exact ⟨Round.le_refl _, rfl, rfl, rfl, rfl⟩
  rw [if_neg fails]
  exact ⟨Round.le_max_left l.round round, rfl, rfl, rfl, rfl⟩

/-- How watching a transaction may end. -/
inductive Verdict (txId : TxId) : Outcome RenewalError Round → Prop
  | confirmed (round : Round) : Verdict txId (.ok round)
  | rejected (reason : String) : Verdict txId (.error (.poolRejected txId reason))
  | unanswered (source : ServiceError) : Verdict txId (.error (.queryFailed source))
  | blocked : Verdict txId .blocked

theorem watch_verdict (txId : TxId) (turns : Nat) (round : Round) (l : ScriptedLedger) :
    Verdict txId ((ledger.watch txId turns round).effect l).1 ∧
      Progress l ((ledger.watch txId turns round).effect l).2 := by
  induction turns generalizing round l with
  | zero => exact ⟨.blocked, .refl l⟩
  | succ turns ih =>
    have queried : Progress l ((ledger.pendingTransaction txId).effect l).2 :=
      pendingTransaction_progress txId l
    rw [Ledger.watch, Action.effect_bind, Action.effect_mapError]
    generalize (ledger.pendingTransaction txId).effect l = first at queried ⊢
    obtain ⟨status | e | _, l₁⟩ := first
    · rw [Outcome.mapError_ok, Outcome.chain_ok]
      by_cases confirmed : status.isConfirmed
      · rw [if_pos confirmed]
        exact ⟨.confirmed _, queried⟩
      rw [if_neg confirmed]
      by_cases rejected : status.isRejected
      · rw [if_pos rejected]
        exact ⟨.rejected _, queried⟩
      rw [if_neg rejected]
      have waited : Progress l₁ ((ledger.waitForRound round.next).effect l₁).2 :=
        waitForRound_progress round.next l₁
      simp only [Action.effect_bind, Action.effect_log, Action.effect_mapError, Outcome.chain_ok]
      generalize (ledger.waitForRound round.next).effect l₁ = second at waited ⊢
      obtain ⟨seen | e | _, l₂⟩ := second
      · obtain ⟨verdict, later⟩ := ih (max seen.lastRound round.next) l₂
        exact ⟨verdict, (queried.trans waited).trans later⟩
      · exact ⟨.unanswered e, queried.trans waited⟩
      · exact ⟨.blocked, queried.trans waited⟩
    · exact ⟨.unanswered e, queried⟩
    · exact ⟨.blocked, queried⟩

theorem awaitConfirmation_verdict (txId : TxId) (start : Round) (l : ScriptedLedger) :
    Verdict txId ((ledger.awaitConfirmation txId start).effect l).1 ∧
      Progress l ((ledger.awaitConfirmation txId start).effect l).2 :=
  watch_verdict txId _ start l

end ScriptedLedger

namespace MemoryStore

theorem effect_generate {request : GenerationRequest} (managed : request.outputDir = none)
    (m : MemoryStore) :
    (generate request).effect m =
      let handle := handleFor request.address request.firstValid request.lastValid
      let asked := { m with requests := m.requests ++ [request] }
      if m.failGenerationFor.contains request.address then
        (.error (.request "key generation failed"), asked)
      else if m.credentials.contains handle then
        (.error (.rejected s!"key file already exists: {handle}"), asked)
      else
        (.ok ⟨credentialFor request, handle⟩,
          { asked with credentials := m.credentials.insert handle (credentialFor request) }) := by
  simp only [generate, managed, Action.effect_bind, Action.effect_modify, Action.effect_get,
    Action.effect_ite, Outcome.chain_ok]
  rfl

theorem effect_delete (handle : KeyHandle) (m : MemoryStore) :
    (delete handle).effect m =
      if m.failDeletes then (.error (.request "delete failed"), m)
      else if m.credentials.contains handle then
        (.ok (), { m with
          credentials := m.credentials.erase handle
          deleted := m.deleted ++ [handle] })
      else (.error (.notFound handle.text), m) := by
  simp only [delete, Action.effect_bind, Action.effect_get, Action.effect_ite, Outcome.chain_ok]
  rfl

end MemoryStore

namespace ScriptedWallet

theorem effect_signAndSubmit (transaction : StatusTransaction) (w : ScriptedWallet) :
    (signAndSubmit transaction).effect w =
      if w.refuses.contains transaction.address then
        (.error (.rejected s!"wallet refused to sign for {transaction.address}"), w)
      else (.ok (txIdFor transaction), { w with submitted := w.submitted ++ [transaction] }) := by
  simp only [signAndSubmit, Action.effect_bind, Action.effect_get, Action.effect_ite,
    Outcome.chain_ok]
  rfl

theorem effect_multisigInfo (address : Address) (w : ScriptedWallet) :
    (multisigInfo address).effect w =
      if w.failLookups then (.error (.request "wallet unavailable"), w)
      else (.ok (w.multisig.find? address), w) := by
  simp only [multisigInfo, Action.effect_bind, Action.effect_get, Action.effect_ite,
    Outcome.chain_ok]
  rfl

end ScriptedWallet

theorem MemorySink.effect_write (path : Path) (bytes : List UInt8) (m : MemorySink) :
    (write path bytes).effect m =
      if m.failWrites then (.error (.io ⟨.permissionDenied, some "read-only sink"⟩), m)
      else (.ok (), { m with artifacts := m.artifacts.insert path bytes }) := by
  simp only [write, Action.effect_bind, Action.effect_get, Action.effect_ite, Outcome.chain_ok]
  rfl

theorem ScriptedLedger.effect_observe {α : Type} (look : ScriptedLedger → α) (l : ScriptedLedger) :
    (observe look).effect l =
      if l.failRoundQueries then (.error (.request "node unreachable"), l)
      else (.ok (look l), l) := by
  simp only [observe, Action.effect_bind, Action.effect_get, Action.effect_ite, Outcome.chain_ok]
  rfl

namespace Station

variable (s : Station σ)

/-- The collaborators of a bench, with the keys and the exports in memory. -/
def collaborators : Collaborators σ :=
  ⟨s.ledger, s.memoryStore, s.signer, s.memorySink, s.isDirectory⟩

/-- An engine over the bench. -/
def engine (protocols : ProtocolRegistry) (config : EngineConfig) : Engine σ :=
  ⟨s.collaborators, protocols, config⟩

variable {s} in
/-- A call of a collaborator changes its part of the bench. -/
theorem effect_of_part {st : σ} {ε α : Type} {lens : Lens Bench τ} {a : Action τ ε α}
    {o : Outcome ε α} {after : τ} (ends : a.effect (lens.get (s.bench.get st)) = (o, after)) :
    (a.focus (s.bench.trans lens)).effect st =
      (o, s.bench.set st (lens.set (s.bench.get st) after)) := by
  rw [Action.effect_focus, show (s.bench.trans lens).get st = lens.get (s.bench.get st) from rfl,
    ends]
  rfl

variable {s} in
/-- A call that changes nothing leaves the state as it is. -/
theorem effect_of_look {st : σ} {ε α : Type} {lens : Lens Bench τ} {a : Action τ ε α}
    {o : Outcome ε α}
    (ends : a.effect (lens.get (s.bench.get st)) = (o, lens.get (s.bench.get st))) :
    (a.focus (s.bench.trans lens)).effect st = (o, st) := by
  rw [effect_of_part ends, lens.set_get, s.bench.set_get]

/-- Whatever is put together from the parts of a station, with keys and exports in memory, is an
engine over its bench. -/
theorem assemble_parts (protocols : Option ProtocolRegistry) (config : EngineConfig) :
    (s.parts none false protocols config).assemble =
      (match protocols with
        | some registry => Except.ok registry
        | none => config.registry).map (s.engine · config) := by
  cases protocols with
  | some registry => rfl
  | none =>
    show ((config.registry >>= fun registry => Except.ok (s.engine registry config)) :
      Except ConfigError (Engine σ)) = _
    cases config.registry <;> rfl

end Station

/-- A bench on a machine without files. -/
def World.ofBench (bench : Bench) : World :=
  ⟨bench, { files := default, keys := ⟨fun _ => default, 0⟩ }⟩

/-- The rules of the test version, with a lifetime of a thousand rounds. -/
def ProtocolRegistry.testRules : ProtocolRegistry :=
  empty.add ⟨ScriptedLedger.testVersion.text, 1000⟩

/-- A bench at round 100 whose wallet refuses one account. -/
def Bench.refusing : Bench :=
  { Bench.startingAt ⟨100⟩ ScriptedLedger.testVersion with
    wallet := { ScriptedWallet.empty with refuses := [⟨"A"⟩] } }

end KeyRenewal
