import KeyRenewal.Proofs.Failures
import KeyRenewal.Proofs.Keeping
import KeyRenewal.Proofs.Lifetimes
import KeyRenewal.Proofs.Resubmission
import KeyRenewal.Proofs.Selection
import KeyRenewal.Proofs.Success

/-!
# Status changes

Over whatever collaborators and however it ends, a status change hands over at most one transaction,
the one that was asked for, and fails in its own ways only. Of the store it wants a listing and
nothing else, so that no key is made and none is deleted, not even if the registration fails.
-/

namespace KeyRenewal

variable {σ ρ ε ε' α β : Type}

namespace Action

/-- The action adds at most so many entries to the record. -/
def Notes (n : Nat) (a : Action (σ × List ρ) ε α) : Prop :=
  ∀ s, (a.effect s).2.2.length ≤ s.2.length + n

namespace Notes

variable {m n : Nat}

theorem pure (value : α) : Notes 0 (Pure.pure value : Action (σ × List ρ) ε α) := fun _ => le_rfl

theorem log (notice : Logging.Notice) : Notes 0 (Action.log notice : Action (σ × List ρ) ε Unit) :=
  fun _ => le_rfl

theorem focus (a : Action σ ε α) : Notes 0 (a.focus .unrecorded : Action (σ × List ρ) ε α) :=
  fun _ => le_rfl

theorem noted (entry : ρ) (a : Action σ ε α) : Notes 1 (do note entry; a.focus .unrecorded) := by
  intro s
  have noted : (Action.effect (do note entry; a.focus .unrecorded) s).2.2 = s.2 ++ [entry] :=
    record_of_noted rfl
  rw [noted, List.length_append, List.length_singleton]

theorem mapError {a : Action (σ × List ρ) ε α} (notes : Notes n a) (f : ε → ε') :
    Notes n (a.mapError f) := by
  intro s
  rw [effect_mapError]
  exact notes s

theorem bind {a : Action (σ × List ρ) ε α} {next : α → Action (σ × List ρ) ε β}
    (first : Notes m a) (second : ∀ value, Notes n (next value)) : Notes (m + n) (a >>= next) := by
  intro s
  have before := first s
  rw [effect_bind]
  generalize a.effect s = left at before ⊢
  obtain ⟨value | e | _, s'⟩ := left
  · have after := second value s'
    dsimp only [Outcome.chain_ok] at before ⊢
    omega
  · dsimp only [Outcome.chain_error] at before ⊢
    omega
  · dsimp only [Outcome.chain_blocked] at before ⊢
    omega

end Notes

end Action

open KeyRenewal.Action (RecordedAs FailsWith Notes Keeps effect_bind_eq_ok ok_of_effect_pure
  ok_of_effect_ofExcept)

namespace StatusChangeRequest

/-- The transaction is the one a request asks for, on a snapshot and with the credential that is
chosen. A round or a length of zero counts as not given. -/
structure Asks (request : StatusChangeRequest) (config : EngineConfig) (snapshot : RoundSnapshot)
    (chosen : Option Credential) (t : StatusTransaction) : Prop where
  sender : t.address = request.address
  firstValid : t.firstValid =
    (request.firstValid.filter (!·.isZero)).getD snapshot.currentRound
  lastValid : t.lastValid.number.toNat = min
    (t.firstValid.number.toNat +
      ((request.validRounds.filter (· ≠ 0)).getD snapshot.parameters.maxTxnLife).toNat)
    (UInt64.size - 1)
  fee : t.fee = request.fee.getD config.defaultFee
  registration : t.registration = chosen.map Credential.registration
  offline : t.registration = none ↔ request.intent = .offline

/-- How a status change may fail, other than for want of a credential. A registration that fails
names no key that would have been deleted for it. -/
inductive Fails (request : StatusChangeRequest) : RenewalError → Prop
  | queryFailed (source : ServiceError) : Fails request (.queryFailed source)
  | unknownProtocol (version : ConsensusVersion) : Fails request (.unknownProtocol version)
  | zeroLifetime (version : ConsensusVersion) :
    Fails request (.config (.zeroLifetimeInForce version))
  | registrationFailed (source : ServiceError) :
    Fails request (.registrationFailed request.address none source)
  | poolRejected (txId : TxId) (reason : String) : Fails request (.poolRejected txId reason)
  | exportFailed {path : Path} (asked : request.exportPath = some path) (source : ServiceError) :
    Fails request (.exportFailed path source)

/-- What is handed over for a request is a transaction with a property, to be signed if nothing is
to be exported, and else to be written to the path that is given. -/
inductive HandsOver (request : StatusChangeRequest) (holds : StatusTransaction → Prop) :
    Handover → Prop
  | signed {t : StatusTransaction} (unexported : request.exportPath = none) (has : holds t) :
    HandsOver request holds (.signed t)
  | written {path : Path} {t : StatusTransaction} (exported : request.exportPath = some path)
    (sender : Option MultisigInfo) (has : holds t) :
    HandsOver request holds (.written path (Envelope.unsigned t sender).toCbor)

/-- Only the choice of a credential fails for want of one. -/
theorem Fails.ne_noCredential {request : StatusChangeRequest} {error : RenewalError}
    (fails : request.Fails error) (address : Address) : error ≠ .noCredential address := by
  rintro rfl
  cases fails

theorem length_eq (request : StatusChangeRequest) (snapshot : RoundSnapshot) :
    request.length snapshot =
      (request.validRounds.filter (· ≠ 0)).getD snapshot.parameters.maxTxnLife := by
  unfold length
  cases request.validRounds with
  | none => rfl
  | some rounds => by_cases zero : rounds = 0 <;> simp [Option.filter, zero]

end StatusChangeRequest

namespace Engine

/-- The credential that is chosen for an intent: none to go offline, the one that is given, or the
latest of the account that is listed. -/
inductive Chooses (e : Engine σ) (address : Address) (st : σ) :
    StatusIntent → Option Credential → Prop
  | offline : Chooses e address st .offline none
  | given (credential : Credential) :
    Chooses e address st (.online (some credential)) (some credential)
  | latest {keys : Keyring} {st' : σ} {g : GeneratedCredential}
    (listed : e.listCredentials.effect st = (.ok keys, st')) (latest : keys.IsLatest address g) :
    Chooses e address st (.online none) (some g.credential)

/-- The transaction is asked for on the snapshot that is taken and with the credential that is then
chosen. -/
def Requests (e : Engine σ) (request : StatusChangeRequest) (st : σ) (t : StatusTransaction) :
    Prop :=
  ∃ snapshot taken chosen, e.snapshot.effect st = (.ok snapshot, taken) ∧
    e.Chooses request.address taken request.intent chosen ∧
    request.Asks e.config snapshot chosen t

/-- The account is to go online with an installed credential, and all goes well up to where it turns
out to own none. -/
def FindsNone (e : Engine σ) (request : StatusChangeRequest) (st : σ) : Prop :=
  request.intent = .online none ∧ ∃ snapshot taken keys listed,
    e.snapshot.effect st = (.ok snapshot, taken) ∧
    e.listCredentials.effect taken = (.ok keys, listed) ∧
    ∀ entry ∈ keys.toList, entry.2.address ≠ request.address

end Engine

theorem Keyring.find?_latest_eq_none_iff {keys : Keyring} {address : Address} :
    keys.latest.find? address = none ↔ ∀ entry ∈ keys.toList, entry.2.address ≠ address := by
  rw [find?_latest, Option.map_eq_none_iff, List.argmax_eq_none, List.filter_eq_nil_iff]
  simp

namespace Engine

/-- What a status change does before it dispatches anything. -/
def prepare (e : Engine σ) (request : StatusChangeRequest) :
    Action σ RenewalError StatusTransaction := do
  let snapshot ← e.snapshot
  let credential ← e.chooseCredential request.address request.intent
  Action.ofExcept (buildTransaction request.address credential (request.firstRound snapshot)
    (request.length snapshot) (e.config.feeOr request.fee))

variable (e : Engine σ) (request : StatusChangeRequest) (st : σ)

variable {e request st}

theorem lifetime_of_snapshot {snapshot : RoundSnapshot} {taken : σ}
    (ends : e.snapshot.effect st = (.ok snapshot, taken)) :
    snapshot.parameters.maxTxnLife ≠ 0 := by
  obtain ⟨round, s₁, -, suggesting⟩ := effect_bind_eq_ok ends
  obtain ⟨suggested, s₂, -, looking⟩ := effect_bind_eq_ok suggesting
  obtain ⟨parameters, s₃, -, checking⟩ := effect_bind_eq_ok looking
  by_cases zero : parameters.maxTxnLife = 0
  · rw [if_pos zero] at checking
    cases checking
  · rw [if_neg zero] at checking
    obtain ⟨_, s₄, -, answered⟩ := effect_bind_eq_ok checking
    obtain ⟨rfl, -⟩ := ok_of_effect_pure answered
    exact zero

/-- A transaction over any rounds at all is built. -/
theorem buildTransaction_eq {rounds : UInt64} (some : rounds ≠ 0) (address : Address)
    (chosen : Option Credential) (first : Round) (fee : UInt64) :
    buildTransaction address chosen first rounds fee = .ok {
      address, fee
      firstValid := first
      lastValid := first.advance rounds
      registration := chosen.map Credential.registration } := by
  unfold buildTransaction StatusTransaction.build?
  rw [if_neg some]

theorem SnapshotFails.fails {error : RenewalError} (fails : e.SnapshotFails error) :
    request.Fails error := by
  cases fails with
  | queryFailed source => exact .queryFailed source
  | unknownProtocol => exact .unknownProtocol _
  | zeroLifetime => exact .zeroLifetime _

/-- Up to the transaction, a status change fails for want of a credential only if none is found. -/
theorem prepare_fails :
    FailsWith (fun error => error = .noCredential request.address ∧ e.FindsNone request st ∨
      request.Fails error) (e.prepare request) st := by
  refine FailsWith.bind ((e.snapshot_fails st).mono fun _ fails => Or.inr fails.fails)
    fun snapshot taken looked => ?_
  refine FailsWith.bind ?_ fun chosen s₁ chose => .ofExcept fun error refused => ?_
  · cases intent : request.intent with
    | offline => exact .pure _
    | online given =>
      cases given with
      | some credential => exact .pure _
      | none =>
        refine FailsWith.bind ?_ fun keys listed listing => ?_
        · have listing : FailsWith request.Fails e.listCredentials taken :=
            .mapError .queryFailed _
          exact listing.mono fun _ => Or.inr
        cases found : keys.latest.find? request.address with
        | some latest => exact .pure _
        | none =>
          exact .fail (Or.inl ⟨rfl, intent, snapshot, taken, keys, listed, looked, listing,
            Keyring.find?_latest_eq_none_iff.mp found⟩)
  · rw [buildTransaction_eq (request.length_ne_zero (lifetime_of_snapshot looked))] at refused
    cases refused

theorem prepare_of_findsNone (without : e.FindsNone request st) :
    ∃ st', (e.prepare request).effect st = (.error (.noCredential request.address), st') := by
  obtain ⟨intent, snapshot, taken, keys, listed, looked, listing, others⟩ := without
  refine ⟨listed, ?_⟩
  simp only [prepare, chooseCredential, intent, Action.effect_bind, looked, listing,
    Outcome.chain_ok, Keyring.find?_latest_eq_none_iff.mpr others, Action.effect_fail,
    Outcome.chain_error]

end Engine

namespace Collaborators

variable (c : Collaborators σ) {request : StatusChangeRequest} {t : StatusTransaction} {st : σ}

end Collaborators

/-- How a status change ends, and what it has handed over by then. -/
structure Engine.StatusChange (e : Engine σ) (request : StatusChangeRequest) (st : σ)
    (outcome : Outcome RenewalError DispatchOutcome) (handed : List Handover) : Prop where
  once : handed.length ≤ 1
  asked : ∀ handover ∈ handed, request.HandsOver (e.Requests request st) handover
  answered : ∀ dispatch, outcome = .ok dispatch → handed ≠ []
  noCredential : ∀ address, outcome = .error (.noCredential address) ↔
    address = request.address ∧ e.FindsNone request st
  idle : e.FindsNone request st → handed = []
  failed : ∀ error, outcome = .error error →
    error = .noCredential request.address ∨ request.Fails error

namespace Engine

variable {e : Engine σ} {request : StatusChangeRequest} {st st' : σ}

theorem FindsNone.outcome (without : e.FindsNone request st)
    {outcome : Outcome RenewalError StatusTransaction}
    (ends : (e.prepare request).effect st = (outcome, st')) :
    outcome = .error (.noCredential request.address) := by
  obtain ⟨st'', found⟩ := prepare_of_findsNone without
  cases ends.symm.trans found
  rfl

namespace StatusChange

/-- Where it fails before there is a transaction, nothing is handed over. -/
theorem of_refused {error : RenewalError}
    (refused : (e.prepare request).effect st = (.error error, st')) :
    e.StatusChange request st (.error error) [] where
  once := Nat.zero_le 1
  asked _ there := absurd there List.not_mem_nil
  answered _ ended := nomatch ended
  noCredential address := by
    constructor
    · rintro ⟨⟩
      rcases prepare_fails _ _ refused with ⟨same, without⟩ | fails
      · cases same
        exact ⟨rfl, without⟩
      · exact absurd rfl (fails.ne_noCredential address)
    · rintro ⟨rfl, without⟩
      cases without.outcome refused
      rfl
  idle _ := rfl
  failed error' ended := by
    cases ended
    exact (prepare_fails _ _ refused).imp_left And.left

end StatusChange

variable (e request st)

end Engine

/-- The same collaborators with a store that can be listed, but hangs on anything else. -/
def Collaborators.listingOnly (c : Collaborators σ) : Collaborators σ :=
  { c with store := { c.store with
      generate := fun _ => Action.block
      delete := fun _ => Action.block } }

/-- The same engine with a store that can only be listed. -/
def Engine.listingOnly (e : Engine σ) : Engine σ :=
  { e with collaborators := e.collaborators.listingOnly }

namespace Station

variable (s : Station σ)

/-- The action leaves the keys and the wallet of a bench alone. -/
def Spares (a : Action σ ε α) : Prop :=
  ∀ st, (s.bench.get (a.effect st).2).store = (s.bench.get st).store ∧
    (s.bench.get (a.effect st).2).wallet = (s.bench.get st).wallet

/-- The keys are those of a bench, and so is the wallet. Of the ledger and the sink no more is known
than that they leave both alone. -/
structure Hosts (c : Collaborators σ) : Prop where
  store : c.store = s.memoryStore
  signer : c.signer = s.signer
  currentRound : s.Spares c.ledger.currentRound
  suggestedParams : s.Spares c.ledger.suggestedParams
  status : s.Spares c.ledger.status
  pendingTransaction : ∀ txId, s.Spares (c.ledger.pendingTransaction txId)
  waitForRound : ∀ round, s.Spares (c.ledger.waitForRound round)
  write : ∀ path bytes, s.Spares (c.sink.write path bytes)

/-- Since a state, the store has not changed at all, and whatever the wallet has accepted is in the
record, in the same order. -/
structure Accounted (st : σ) (now : σ × List Handover) : Prop where
  store : (s.bench.get now.1).store = (s.bench.get st).store
  accepted : ∃ sent,
    (s.bench.get now.1).wallet.submitted = (s.bench.get st).wallet.submitted ++ sent ∧
    (sent.map Handover.signed).Sublist now.2

variable {s} {st : σ}

theorem Accounted.start (st : σ) : s.Accounted st (st, []) :=
  ⟨rfl, [], (List.append_nil _).symm, .refl _⟩

theorem Accounted.noted {now : σ × List Handover} (accounted : s.Accounted st now)
    (entry : Handover) : s.Accounted st (now.1, now.2 ++ [entry]) := by
  obtain ⟨sent, appended, recorded⟩ := accounted.accepted
  exact ⟨accounted.store, sent, appended, recorded.trans (List.sublist_append_left _ _)⟩

theorem Spares.keeps {a : Action σ ε α} (spares : s.Spares a) :
    (a.focus .unrecorded).Keeps (s.Accounted st) := by
  intro now accounted
  obtain ⟨store, wallet⟩ := spares now.1
  obtain ⟨sent, appended, recorded⟩ := accounted.accepted
  exact ⟨store.trans accounted.store, sent, by rw [← appended]; exact congrArg _ wallet, recorded⟩

/-- What looks at the bench at most leaves the keys and the wallet alone. -/
theorem Spares.of_look {a : Action σ ε α} (looks : ∀ st, (a.effect st).2 = st) : s.Spares a := by
  intro st
  rw [looks]
  exact ⟨rfl, rfl⟩

theorem note_keeps (entry : Handover) :
    (Action.note entry : Action (σ × List Handover) ε Unit).Keeps (s.Accounted st) :=
  fun _ accounted => accounted.noted entry

/-- A transaction is noted before the wallet sees it. -/
theorem signed_keeps (t : StatusTransaction) :
    (do Action.note (.signed t); (s.signer.signAndSubmit t).focus .unrecorded :
      Action (σ × List Handover) ServiceError TxId).Keeps (s.Accounted st) := by
  intro now accounted
  have signing := s.effect_signAndSubmit now.1 t
  change (s.signer.signAndSubmit t).effect now.1 = _ at signing
  simp only [Action.effect_bind, Action.note, Action.effect_modify, Outcome.chain_ok,
    Action.effect_focus, Lens.unrecorded, signing]
  by_cases refused : (s.bench.get now.1).wallet.refuses.contains t.address
  · rw [if_pos refused]
    exact accounted.noted (.signed t)
  · rw [if_neg refused]
    obtain ⟨sent, appended, recorded⟩ := accounted.accepted
    refine ⟨?_, sent ++ [t], ?_, ?_⟩
    · simpa only [s.bench.get_set] using accounted.store
    · simp only [s.bench.get_set, appended, List.append_assoc]
    · rw [List.map_append]
      exact recorded.append (.refl _)

/-- Made to list only, the collaborators of a bench account for all they are handed. -/
theorem Hosts.keep {c : Collaborators σ} (hosts : s.Hosts c) :
    c.recorded.listingOnly.Keep (s.Accounted st) fun _ => False where
  currentRound := hosts.currentRound.keeps
  suggestedParams := hosts.suggestedParams.keeps
  status := hosts.status.keeps
  pendingTransaction txId := (hosts.pendingTransaction txId).keeps
  waitForRound round := (hosts.waitForRound round).keeps
  list := by
    have listed : s.Spares c.store.list := by
      rw [hosts.store]
      exact .of_look fun st => congrArg Prod.snd (effect_of_look rfl)
    exact listed.keeps
  generate _ := False.elim
  delete _ _ accounted := accounted
  signAndSubmit t := by
    have signed : Keeps (s.Accounted st) _ := signed_keeps t
    rw [← hosts.signer] at signed
    exact signed
  multisigInfo address := by
    have looked : s.Spares (c.signer.multisigInfo address) := by
      rw [hosts.signer]
      refine .of_look fun st => ?_
      have answered := s.effect_multisigInfo st address
      change (s.signer.multisigInfo address).effect st = _ at answered
      rw [answered]
      split <;> rfl
    exact looked.keeps
  write path bytes := (note_keeps _).bind fun _ => (hosts.write path bytes).keeps

end Station

end KeyRenewal
