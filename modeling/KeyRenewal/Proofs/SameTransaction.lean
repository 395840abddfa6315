import KeyRenewal.Proofs.Records
import KeyRenewal.Proofs.Runs

/-!
# Exporting what would be submitted

A request names a path to export to or none, and everything up to the dispatch is the same either
way: both kinds of request come down to one transaction, built on one bench. The transaction the
wallet signs is then the one that the exported envelope holds.
-/

namespace KeyRenewal

variable {σ : Type}

/-- An envelope in which a transaction waits for its signatures: its own, or those of the
participants of a multisig sender. -/
structure Envelope.Awaits (e : Envelope) (t : StatusTransaction) (sender : Option MultisigInfo) :
    Prop where
  transaction : e.transaction = t
  unsigned : e.isSigned = false
  plain : e.multisig = none ↔ sender = none
  template : ∀ info, sender = some info → ∃ template, e.multisig = some template ∧
    template.version = info.version ∧ template.threshold = info.threshold ∧
    template.subsignatures.map Subsignature.key = info.publicKeys ∧
    ∀ slot ∈ template.subsignatures, slot.signature = []

theorem Envelope.unsigned_awaits (t : StatusTransaction) (sender : Option MultisigInfo) :
    (unsigned t sender).Awaits t sender where
  transaction := rfl
  unsigned := isSigned_unsigned t sender
  plain := by simp [unsigned]
  template := by
    rintro info rfl
    refine ⟨info.blank, rfl, rfl, rfl, ?_, ?_⟩
    · simp [MultisigInfo.blank, Function.comp_def]
    · simp [MultisigInfo.blank]

/-- Nothing in an unsigned envelope is longer than what it is made from. -/
theorem Envelope.unsigned_fits {t : StatusTransaction} (fits : t.Fits)
    {sender : Option MultisigInfo}
    (few : ∀ info, sender = some info → info.publicKeys.length < UInt64.size) :
    (unsigned t sender).Fits where
  transaction := fits
  signature := show 0 < UInt64.size by decide
  multisig := by
    intro template given
    obtain ⟨info, known, rfl⟩ := Option.map_eq_some_iff.mp given
    constructor
    · simpa [MultisigInfo.blank] using few info known
    · simp [MultisigInfo.blank, UInt64.size]

/-- A bench on which an account's transactions go through either way: the wallet signs for it and
answers about it, and the sink takes what is written. The lengths are those of what is kept in
memory, and can be written in an envelope. -/
structure Bench.Serves (b : Bench) (address : Address) : Prop where
  signs : b.wallet.refuses.contains address = false
  answers : b.wallet.failLookups = false
  writes : b.sink.failWrites = false
  name : address.text.utf8ByteSize < UInt64.size
  participants : ∀ info, b.wallet.multisig.find? address = some info →
    info.publicKeys.length < UInt64.size

/-- How a run that submits and a run that exports to a path end, both from one state. -/
inductive Station.SameTransaction (s : Station σ) (st : σ) (address : Address) (path : Path)
    {α : Type} : Outcome RenewalError α × σ → Outcome RenewalError α × σ → Prop
  /-- Both fail alike before anything is dispatched. -/
  | refused (e : RenewalError) (b : Bench) (wallet : b.wallet = (s.bench.get st).wallet)
      (sink : b.sink = (s.bench.get st).sink) :
    SameTransaction s st address path (.error e, s.bench.set st b) (.error e, s.bench.set st b)
  /-- One hands the wallet what the other writes, and the stores are left alike. -/
  | carried (t : StatusTransaction) (submitted exported : Bench) (outcome : Outcome RenewalError α)
      (value : α) (sender : t.address = address)
      (signed : submitted.wallet.submitted = (s.bench.get st).wallet.submitted ++ [t])
      (unsent : exported.wallet.submitted = (s.bench.get st).wallet.submitted)
      (written : ∃ bytes envelope, exported.sink.artifacts.find? path = some bytes ∧
        Envelope.ofCbor? bytes = some envelope ∧
        envelope.Awaits t ((s.bench.get st).wallet.multisig.find? address))
      (store : submitted.store = exported.store) :
    SameTransaction s st address path (outcome, s.bench.set st submitted)
      (.ok value, s.bench.set st exported)

namespace Station

variable {s : Station σ} {st : σ} {address : Address} {path : Path} {α : Type}

/-- Failing alike without having done anything. -/
theorem SameTransaction.untouched (e : RenewalError) :
    s.SameTransaction st address path (.error e, st) (.error e, (st : σ)) (α := α) := by
  have same : s.SameTransaction st address path (α := α)
      (.error e, s.bench.set st (s.bench.get st)) (.error e, s.bench.set st (s.bench.get st)) :=
    .refused e _ rfl rfl
  rwa [s.bench.set_get] at same

/-- On whatever bench a transaction has been built, submitting it and writing it go together. -/
theorem SameTransaction.dispatched {t : StatusTransaction} {b : Bench}
    (wallet : b.wallet = (s.bench.get st).wallet)
    (serves : (s.bench.get st).Serves t.address) (outcome : Outcome RenewalError α) (value : α)
    (ledger : ScriptedLedger) :
    s.SameTransaction st t.address path
      (outcome, s.bench.set st { b with
        wallet := { b.wallet with submitted := b.wallet.submitted ++ [t] }, ledger })
      (.ok value, s.bench.set st { b with sink := { b.sink with
        artifacts := b.sink.artifacts.insert path
          (Envelope.unsigned t (b.wallet.multisig.find? t.address)).toCbor } }) := by
  have fits : (Envelope.unsigned t (b.wallet.multisig.find? t.address)).Fits :=
    Envelope.unsigned_fits serves.name (wallet ▸ serves.participants)
  have read := Envelope.ofCbor?_toCbor fits []
  rw [List.append_nil] at read
  refine .carried t _ _ outcome value rfl ?_ ?_
    ⟨_, _, OrderedMap.find?_insert_self _ _ _, read, ?_⟩ rfl
  · rw [← wallet]
  · rw [← wallet]
  · rw [← wallet]
    exact Envelope.unsigned_awaits t _

/-- A plan is carried out alike either way up to the registration. -/
theorem result_same (p : RenewalPlan) (mode : WaitMode) {b : Bench} (here : s.bench.get st = b)
    (serves : b.Serves p.address) :
    s.SameTransaction st p.address path
      ((p.result (.submit mode) b).1, s.bench.set st (p.result (.submit mode) b).2)
      ((p.result (.file path) b).1, s.bench.set st (p.result (.file path) b).2) := by
  subst here
  unfold RenewalPlan.result
  by_cases failing : (s.bench.get st).store.failGenerationFor.contains p.address
  · simp only [if_pos failing]
    exact .refused _ _ rfl rfl
  by_cases taken : (s.bench.get st).store.credentials.contains p.handle
  · simp only [if_neg failing, if_pos taken]
    exact .refused _ _ rfl rfl
  simp only [if_neg failing, if_neg taken, RenewalPlan.registered, serves.signs, serves.answers,
    serves.writes, Bool.false_eq_true, if_false]
  exact .dispatched (t := p.transaction) (b := p.made (s.bench.get st)) rfl serves _ _ _

variable (s st) (protocols : ProtocolRegistry) (config : EngineConfig)

theorem runSingleRenewal_same (request : RenewalRequest) (path : Path)
    (serves : (s.bench.get st).Serves request.address) :
    s.SameTransaction st request.address path
      (((s.engine protocols config).runSingleRenewal
        { request with exportPath := none }).effect st)
      (((s.engine protocols config).runSingleRenewal
        { request with exportPath := some path }).effect st) := by
  rw [runSingleRenewal_effect, runSingleRenewal_effect]
  dsimp only
  cases (s.bench.get st).ledger.checkedSnapshot protocols request.lastValid with
  | error e => exact .untouched e
  | ok snapshot =>
    cases (s.bench.get st).store.credentials.coverage? request.address request.lastValid with
    | some existing => exact .untouched _
    | none => exact result_same (request.plan config snapshot) _ rfl serves

end Station

/-- The credential an intent registers, given the installed ones. -/
def StatusChangeRequest.credential (request : StatusChangeRequest) (installed : Keyring) :
    Except RenewalError (Option Credential) :=
  match request.intent with
  | .offline => .ok none
  | .online (some credential) => .ok (some credential)
  | .online none =>
    match installed.latest.find? request.address with
    | some latest => .ok (some latest.credential)
    | none => .error (.noCredential request.address)

/-- The transaction a status change comes down to. -/
def StatusChangeRequest.transaction (request : StatusChangeRequest) (config : EngineConfig)
    (snapshot : RoundSnapshot) (installed : Keyring) : Except RenewalError StatusTransaction :=
  match request.credential installed with
  | .error e => .error e
  | .ok credential =>
    Engine.buildTransaction request.address credential (request.firstRound snapshot)
      (request.length snapshot) (config.feeOr request.fee)

/-- The transaction is sent by the account of the request and registers what is chosen. -/
theorem StatusChangeRequest.transaction_ok {request : StatusChangeRequest}
    {config : EngineConfig} {snapshot : RoundSnapshot} {installed : Keyring}
    {t : StatusTransaction} (built : request.transaction config snapshot installed = .ok t) :
    t.address = request.address ∧ ∃ credential, request.credential installed = .ok credential ∧
      t.registration = credential.map Credential.registration := by
  unfold transaction Engine.buildTransaction StatusTransaction.build? at built
  cases chosen : request.credential installed with
  | error e => simp [chosen] at built
  | ok credential =>
    by_cases zero : request.length snapshot = 0
    · simp [chosen, zero] at built
    · simp only [chosen, if_neg zero] at built
      cases built
      exact ⟨rfl, credential, rfl, rfl⟩

namespace Station

variable (s : Station σ) (st : σ) (protocols : ProtocolRegistry) (config : EngineConfig)

theorem effect_chooseCredential (request : StatusChangeRequest) :
    ((s.engine protocols config).chooseCredential request.address request.intent).effect st =
      (.ofExcept (request.credential (s.bench.get st).store.credentials), st) := by
  unfold StatusChangeRequest.credential
  match request.intent with
  | .offline => rfl
  | .online (some credential) => rfl
  | .online none =>
    simp only [Engine.chooseCredential, Action.effect_bind, effect_listCredentials,
      Outcome.chain_ok]
    cases (s.bench.get st).store.credentials.latest.find? request.address <;> rfl

/-- A status change is refused without having done anything, or dispatches its transaction. -/
theorem changeOnlineStatus_effect (request : StatusChangeRequest) :
    ((s.engine protocols config).changeOnlineStatus request).effect st =
      match (s.bench.get st).ledger.snapshot protocols with
      | .error e => (.error e, st)
      | .ok snapshot =>
        match request.transaction config snapshot (s.bench.get st).store.credentials with
        | .error e => (.error e, st)
        | .ok t =>
          (s.collaborators.dispatch t
            (.choose request.exportPath (config.waitModeOr request.waitMode))).effect st := by
  simp only [Engine.changeOnlineStatus, Action.effect_bind, effect_snapshot]
  cases (s.bench.get st).ledger.snapshot protocols with
  | error e => rfl
  | ok snapshot =>
    simp only [Outcome.ofExcept_ok, Outcome.chain_ok, effect_chooseCredential,
      StatusChangeRequest.transaction]
    cases request.credential (s.bench.get st).store.credentials with
    | error e => rfl
    | ok credential =>
      simp only [Outcome.ofExcept_ok, Outcome.chain_ok, Action.effect_ofExcept]
      change Outcome.chain _ (Outcome.ofExcept (Engine.buildTransaction request.address credential
        (request.firstRound snapshot) (request.length snapshot) (config.feeOr request.fee)), st) =
        _
      cases Engine.buildTransaction request.address credential (request.firstRound snapshot)
        (request.length snapshot) (config.feeOr request.fee) <;> rfl

theorem changeOnlineStatus_same (request : StatusChangeRequest) (path : Path)
    (serves : (s.bench.get st).Serves request.address) :
    s.SameTransaction st request.address path
      (((s.engine protocols config).changeOnlineStatus
        { request with exportPath := none }).effect st)
      (((s.engine protocols config).changeOnlineStatus
        { request with exportPath := some path }).effect st) := by
  rw [changeOnlineStatus_effect, changeOnlineStatus_effect]
  cases (s.bench.get st).ledger.snapshot protocols with
  | error e => exact .untouched e
  | ok snapshot =>
    have same : ∀ exportPath, { request with exportPath : StatusChangeRequest }.transaction config
        snapshot = request.transaction config snapshot := fun _ => rfl
    simp only [same]
    cases built : request.transaction config snapshot (s.bench.get st).store.credentials with
    | error e => exact .untouched e
    | ok t =>
      obtain ⟨sender, -⟩ := StatusChangeRequest.transaction_ok built
      rw [← sender] at serves ⊢
      have submitted := (s.effect_submit st t (config.waitModeOr request.waitMode)).trans
        (if_neg (Bool.not_eq_true _ ▸ serves.signs))
      have exported := (s.effect_writeUnsigned st t path).trans
        ((if_neg (Bool.not_eq_true _ ▸ serves.answers)).trans
          (if_neg (Bool.not_eq_true _ ▸ serves.writes)))
      simp only [DispatchTarget.choose, Collaborators.dispatch, submitted, exported]
      exact .dispatched rfl serves _ _ _

end Station

/-- Whatever is asked for, the transaction that would be submitted is the one that is exported: as
long as the wallet and the sink serve the sender, a request fails alike either way, or it hands the
wallet one transaction and the sink an unsigned envelope of the same one. -/
theorem exported_as_submitted (s : Station σ) (st : σ) (protocols : ProtocolRegistry)
    (config : EngineConfig) (path : Path) :
    (∀ request : RenewalRequest, (s.bench.get st).Serves request.address →
      s.SameTransaction st request.address path
        (((s.engine protocols config).runSingleRenewal
          { request with exportPath := none }).effect st)
        (((s.engine protocols config).runSingleRenewal
          { request with exportPath := some path }).effect st)) ∧
    ∀ request : StatusChangeRequest, (s.bench.get st).Serves request.address →
      s.SameTransaction st request.address path
        (((s.engine protocols config).changeOnlineStatus
          { request with exportPath := none }).effect st)
        (((s.engine protocols config).changeOnlineStatus
          { request with exportPath := some path }).effect st) :=
  ⟨fun request serves => s.runSingleRenewal_same st protocols config request path serves,
    fun request serves => s.changeOnlineStatus_same st protocols config request path serves⟩

/-- A bench at round 100 whose wallet knows an account of two participants. -/
def Bench.sharing : Bench :=
  { Bench.startingAt ⟨100⟩ ScriptedLedger.testVersion with
    wallet := { ScriptedWallet.empty with
      multisig := OrderedMap.empty.insert ⟨"M"⟩ ⟨1, 2, [.filled 7, .filled 9]⟩ } }

theorem exported_as_submitted_for_two :
    let st := World.ofBench Bench.sharing
    let e := World.station.engine .testRules {}
    let renewal : RenewalRequest := ⟨⟨"M"⟩, ⟨5000⟩, none, none, none, none⟩
    let leaving : StatusChangeRequest := ⟨⟨"M"⟩, .offline, none, none, none, none, none⟩
    (World.station.bench.get st).Serves ⟨"M"⟩ ∧
    World.station.SameTransaction st ⟨"M"⟩ ⟨"out"⟩ ((e.runSingleRenewal renewal).effect st)
      ((e.runSingleRenewal { renewal with exportPath := some ⟨"out"⟩ }).effect st) ∧
    World.station.SameTransaction st ⟨"M"⟩ ⟨"out"⟩ ((e.changeOnlineStatus leaving).effect st)
      ((e.changeOnlineStatus { leaving with exportPath := some ⟨"out"⟩ }).effect st) := by
  intro st e renewal leaving
  have serves : (World.station.bench.get st).Serves ⟨"M"⟩ :=
    ⟨by decide, by decide, by decide, by decide, by rintro _ ⟨⟩; decide⟩
  obtain ⟨renewals, changes⟩ :=
    exported_as_submitted World.station st .testRules {} ⟨"out"⟩
  exact ⟨serves, renewals renewal serves, changes leaving serves⟩

end KeyRenewal
