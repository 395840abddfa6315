import KeyRenewal.Proofs.Conflicts
import KeyRenewal.Proofs.SameTransaction

/-!
# Senders and their keys

Once a credential is chosen, the engine does not look at whom it belongs to, and a registration does
not say. Whatever the engine has generated or picked itself belongs to the sender all the same, and
it stays installed for good. A credential that the caller hands in is registered as it is, whoever
owns it.
-/

namespace KeyRenewal

variable {σ : Type}

/-- Every call of an engine, and every change of the settings between two calls. -/
inductive EngineCall
  | operation (operation : Operation)
  | generationInto (protocols : ProtocolRegistry) (config : EngineConfig) (address : Address)
    (firstValid lastValid : Round) (keyDilution : Option UInt64) (directory : Path)
  | statusChange (protocols : ProtocolRegistry) (config : EngineConfig)
    (request : StatusChangeRequest)

namespace EngineCall

/-- The state a call leaves, however it ends. -/
def perform (s : Station σ) (st : σ) : EngineCall → σ
  | .operation o => (o.perform s st).1
  | .generationInto protocols config address firstValid lastValid keyDilution directory =>
    (((s.engine protocols config).addCredential address firstValid lastValid keyDilution
      (.directory directory)).run st).state
  | .statusChange protocols config request =>
    (((s.engine protocols config).changeOnlineStatus request).run st).state

def performAll (s : Station σ) (calls : List EngineCall) (st : σ) : σ := calls.foldl (perform s) st

/-- The credential the caller hands in, with the account it is to be registered for. -/
def handedIn : EngineCall → Option (Address × Credential)
  | .statusChange _ _ request =>
    match request.intent with
    | .online (some credential) => some (request.address, credential)
    | _ => none
  | _ => none

end EngineCall

/-- Whatever the transaction registers is the registration of a key of its sender. -/
def Keyring.Backs (keys : Keyring) (t : StatusTransaction) : Prop :=
  ∀ registration, t.registration = some registration →
    ∃ e ∈ keys.toList, e.2.address = t.address ∧ e.2.registration = registration

/-- What a call may register: the credential that is handed in, for the account it is handed in for,
and otherwise a key of the sender. -/
def EngineCall.Entitled (call : EngineCall) (keys : Keyring) (t : StatusTransaction) : Prop :=
  match call.handedIn with
  | some (address, credential) =>
    t.address = address ∧ t.registration = some credential.registration
  | none => keys.Backs t

/-- All that leaves a bench is of one kind: the transactions that the wallet has accepted meanwhile,
and the one that the sink has taken, if it has taken any. -/
structure Bench.Departed (holds : StatusTransaction → Prop) (before after : Bench) : Prop where
  accepted : ∃ sent, after.wallet.submitted = before.wallet.submitted ++ sent ∧ ∀ t ∈ sent, holds t
  written : after.sink.artifacts = before.sink.artifacts ∨
    ∃ path t sender, holds t ∧ after.sink.artifacts =
      before.sink.artifacts.insert path (Envelope.unsigned t sender).toCbor

theorem Bench.Departed.idle {holds : StatusTransaction → Prop} {before after : Bench}
    (wallet : after.wallet.submitted = before.wallet.submitted)
    (sink : after.sink.artifacts = before.sink.artifacts) : before.Departed holds after :=
  ⟨⟨[], wallet.trans (List.append_nil _).symm, fun _ none => absurd none List.not_mem_nil⟩,
    Or.inl sink⟩

theorem Course.submitted {p : RenewalPlan} {b b' : Bench} {target : DispatchTarget}
    {outcome : Outcome RenewalError Renewal} (course : Course p b target outcome b') :
    b.wallet.submitted <+: b'.wallet.submitted := by
  cases course with
  | sent => exact List.prefix_append _ _
  | notMade | rolledBack | leftBehind | unwritten | written => exact List.prefix_refl _

theorem Operation.perform_submitted (s : Station σ) (st : σ) (operation : Operation) :
    (s.bench.get st).wallet.submitted <+:
      (s.bench.get (operation.perform s st).1).wallet.submitted := by
  cases operation with
  | renewal protocols config request =>
    rcases s.runSingleRenewal_cases st protocols config request with
      ⟨e, -, refused⟩ | ⟨snapshot, -, -, -, carried⟩
    · simp only [perform, (Action.run_of_effect refused).2, List.prefix_refl]
    · simp only [perform, (Action.run_of_effect carried).2, s.bench.get_set]
      exact (RenewalPlan.result_course _ _ _).submitted
  | batch protocols config request =>
    rcases s.runBatchRenewal_cases protocols config request st with
      ⟨e, refused⟩ | ⟨snapshot, rows, b', -, -, made, carried⟩
    · simp only [perform, (Action.run_of_effect refused).2, List.prefix_refl]
    · obtain ⟨_, _, _, _, -, -, -, -, tally⟩ := made.tally
      simp only [perform, (Action.run_of_effect carried).2, s.bench.get_set]
      exact ⟨_, tally.submitted.symm⟩
  | generation protocols config address firstValid lastValid keyDilution =>
    obtain ⟨b', state, how⟩ := s.addCredential_cases st protocols config address firstValid
      lastValid keyDilution
    simp only [perform, state, s.bench.get_set]
    rcases how with rfl | rfl | ⟨-, rfl⟩ <;> exact List.prefix_refl _
  | rigging rig =>
    simp only [perform, s.bench.get_set]
    exact List.prefix_refl _

/-- What the wallet has accepted counts as gone out. -/
theorem Operation.mem_perform (s : Station σ) (st : σ) (operation : Operation) {r : Emission}
    (accepted : r ∈ (s.bench.get st).acceptedSince (s.bench.get (operation.perform s st).1)) :
    r ∈ (operation.perform s st).2 := by
  cases operation with
  | renewal protocols config request => exact List.mem_append_left _ accepted
  | batch | generation => exact accepted
  | rigging rig =>
    rw [Bench.acceptedSince_eq_nil (by simp only [perform, s.bench.get_set]; rfl)] at accepted
    exact accepted

theorem Operation.perform_departed (s : Station σ) (st : σ) (operation : Operation) :
    (s.bench.get st).Departed (s.bench.get (operation.perform s st).1).store.credentials.Backs
      (s.bench.get (operation.perform s st).1) := by
  have contribution := operation.perform_contribution s st
  obtain ⟨sent, appended⟩ := operation.perform_submitted s st
  refine ⟨⟨sent, appended.symm, ?_⟩, ?_⟩
  · intro t there registration registers
    refine contribution.standing ⟨t.address, registration⟩ (operation.mem_perform s st ?_)
    unfold Bench.acceptedSince
    rw [← appended, List.drop_left]
    exact List.mem_filterMap.mpr ⟨t, there, by rw [registers]; rfl⟩
  · refine contribution.sink.imp_right ?_
    rintro ⟨path, t, sender, registration, registers, emitted, taken⟩
    refine ⟨path, t, sender, ?_, taken⟩
    intro registration' registers'
    cases registers.symm.trans registers'
    exact contribution.standing _ emitted

/-- Whatever is dispatched, nothing else leaves the bench, and the keys stay. -/
theorem Station.dispatch_departed (s : Station σ) (st : σ) {holds : StatusTransaction → Prop}
    {t : StatusTransaction} (right : holds t) (target : DispatchTarget) :
    let after := s.bench.get ((s.collaborators.dispatch t target).effect st).2
    after.store = (s.bench.get st).store ∧ (s.bench.get st).Departed holds after := by
  have idle : (s.bench.get st).Departed holds (s.bench.get st) := .idle rfl rfl
  cases target with
  | submit mode =>
    rw [Collaborators.dispatch, s.effect_submit]
    split
    · exact ⟨rfl, idle⟩
    · simp only [s.bench.get_set, true_and]
      refine ⟨⟨[t], rfl, ?_⟩, Or.inl rfl⟩
      rintro t' there
      exact List.mem_singleton.mp there ▸ right
  | file path =>
    rw [Collaborators.dispatch, s.effect_writeUnsigned]
    split
    · exact ⟨rfl, idle⟩
    split
    · exact ⟨rfl, idle⟩
    · simp only [s.bench.get_set, true_and]
      exact ⟨idle.accepted, Or.inr ⟨path, t, _, right, rfl⟩⟩

/-- Where no credential is handed in, what is picked is the account's own. -/
theorem StatusChangeRequest.entitled {request : StatusChangeRequest} {config : EngineConfig}
    {snapshot : RoundSnapshot} {installed : Keyring} {t : StatusTransaction}
    (built : request.transaction config snapshot installed = .ok t) (protocols : ProtocolRegistry) :
    (EngineCall.statusChange protocols config request).Entitled installed t := by
  obtain ⟨sender, credential, chosen, registered⟩ := transaction_ok built
  unfold StatusChangeRequest.credential at chosen
  simp only [EngineCall.Entitled, EngineCall.handedIn]
  match intent : request.intent with
  | .offline =>
    simp only [intent] at chosen ⊢
    cases chosen
    intro registration registers
    cases registered.symm.trans registers
  | .online (some handed) =>
    simp only [intent] at chosen ⊢
    cases chosen
    exact ⟨sender, registered⟩
  | .online none =>
    simp only [intent] at chosen ⊢
    cases found : installed.latest.find? request.address with
    | none => simp [found] at chosen
    | some latest =>
      simp only [found] at chosen
      cases chosen
      have listed := OrderedMap.mem_of_find? found
      intro registration registers
      cases registered.symm.trans registers
      exact ⟨_, (Keyring.latest_latestOf installed).installed _ listed,
        ((Keyring.latest_latestOf installed).named _ listed).trans sender.symm, rfl⟩

/-- A status change leaves the store as it is and sends out what it may. -/
theorem Station.changeOnlineStatus_departed (s : Station σ) (st : σ) (protocols : ProtocolRegistry)
    (config : EngineConfig) (request : StatusChangeRequest) :
    let before := s.bench.get st
    let after := s.bench.get
      (((s.engine protocols config).changeOnlineStatus request).run st).state
    let call := EngineCall.statusChange protocols config request
    after.store = before.store ∧
      before.Departed (call.Entitled before.store.credentials) after := by
  intro before after call
  have effect := s.changeOnlineStatus_effect st protocols config request
  rw [show after = s.bench.get
    (((s.engine protocols config).changeOnlineStatus request).effect st).2 from rfl, effect]
  cases (s.bench.get st).ledger.snapshot protocols with
  | error e => exact ⟨rfl, .idle rfl rfl⟩
  | ok snapshot =>
    cases built : request.transaction config snapshot (s.bench.get st).store.credentials with
    | error e =>
      simp only [built]
      exact ⟨rfl, .idle rfl rfl⟩
    | ok t =>
      simp only [built]
      exact s.dispatch_departed st (StatusChangeRequest.entitled built protocols) _

theorem MemoryStore.generate_into (request : GenerationRequest) {directory : Path}
    (into : request.outputDir = some directory) (m : MemoryStore) :
    ∃ outcome, (generate request).effect m =
      (outcome, { m with requests := m.requests ++ [request] }) := by
  simp only [generate, into, Action.effect_bind, Action.effect_modify, Action.effect_get,
    Action.effect_ite, Outcome.chain_ok]
  split
  · exact ⟨_, rfl⟩
  · exact ⟨_, rfl⟩

/-- A key that goes into a directory is not installed, and nothing is sent. -/
theorem Station.addCredential_into (s : Station σ) (st : σ) (protocols : ProtocolRegistry)
    (config : EngineConfig) (address : Address) (firstValid lastValid : Round)
    (keyDilution : Option UInt64) (directory : Path) :
    ∃ requests, (((s.engine protocols config).addCredential address firstValid lastValid keyDilution
      (.directory directory)).run st).state = s.bench.set st { s.bench.get st with
        store := { (s.bench.get st).store with requests := requests } } := by
  have untouched : st = s.bench.set st { s.bench.get st with
      store := { (s.bench.get st).store with requests := (s.bench.get st).store.requests } } :=
    (s.bench.set_get st).symm
  let dilution := resolveDilution ((s.engine protocols config).config.dilutionOr keyDilution)
    firstValid lastValid
  let request : GenerationRequest := ⟨address, firstValid, lastValid, dilution, some directory⟩
  have calls : (s.engine protocols config).collaborators.store.generate request =
    (MemoryStore.generate request).focus (s.bench.trans Bench.storeLens) := rfl
  show ∃ requests, (((s.engine protocols config).addCredential address firstValid lastValid
    keyDilution (.directory directory)).effect st).2 = _
  simp only [Engine.addCredential, Collaborators.generate, Destination.outputDir]
  split
  · exact ⟨_, untouched⟩
  simp only [Action.effect_bind, Action.effect_get, Action.effect_ite, Outcome.chain_ok]
  split
  · obtain ⟨outcome, asked⟩ := MemoryStore.generate_into request rfl (s.bench.get st).store
    simp only [Action.effect_pure, Outcome.chain_ok, Action.effect_mapError]
    rw [calls, Station.effect_of_part asked]
    cases outcome <;> exact ⟨_, rfl⟩
  · exact ⟨_, untouched⟩

theorem Keyring.Backs.mono {keys keys' : Keyring} {t : StatusTransaction} (backs : keys.Backs t)
    (kept : ∀ e ∈ keys.toList, e ∈ keys'.toList) : keys'.Backs t := by
  intro registration registers
  obtain ⟨e, installed, same⟩ := backs registration registers
  exact ⟨e, kept e installed, same⟩

theorem EngineCall.Entitled.mono {call : EngineCall} {keys keys' : Keyring} {t : StatusTransaction}
    (entitled : call.Entitled keys t) (kept : ∀ e ∈ keys.toList, e ∈ keys'.toList) :
    call.Entitled keys' t := by
  unfold Entitled at *
  split
  · rename_i handed
    simpa only [handed] using entitled
  · rename_i none
    exact Keyring.Backs.mono (by simpa only [none] using entitled) kept

theorem Bench.Departed.mono {holds holds' : StatusTransaction → Prop} {before after : Bench}
    (departed : before.Departed holds after) (implied : ∀ t, holds t → holds' t) :
    before.Departed holds' after := by
  obtain ⟨⟨sent, appended, all⟩, written⟩ := departed
  refine ⟨⟨sent, appended, fun t there => implied t (all t there)⟩, written.imp_right ?_⟩
  rintro ⟨path, t, sender, right, taken⟩
  exact ⟨path, t, sender, implied t right, taken⟩

/-- No call loses a key, and what leaves the bench in it is what it may register. -/
theorem EngineCall.perform_departed (s : Station σ) (st : σ) (call : EngineCall) :
    let before := s.bench.get st
    let after := s.bench.get (call.perform s st)
    (∀ e ∈ before.store.credentials.toList, e ∈ after.store.credentials.toList) ∧
      before.Departed (call.Entitled after.store.credentials) after := by
  intro before after
  cases call with
  | operation o => exact ⟨(o.perform_contribution s st).kept, o.perform_departed s st⟩
  | generationInto protocols config address firstValid lastValid keyDilution directory =>
    obtain ⟨requests, state⟩ := s.addCredential_into st protocols config address firstValid
      lastValid keyDilution directory
    simp only [after, perform, state, s.bench.get_set]
    exact ⟨fun _ installed => installed, .idle rfl rfl⟩
  | statusChange protocols config request =>
    obtain ⟨store, departed⟩ := s.changeOnlineStatus_departed st protocols config request
    refine ⟨fun e installed => ?_, ?_⟩
    · simp only [after, perform, store]
      exact installed
    · simp only [after, perform, store]
      exact departed

/-- No sequence of calls loses a key. -/
theorem EngineCall.performAll_kept (s : Station σ) (calls : List EngineCall) (st : σ) :
    ∀ e ∈ (s.bench.get st).store.credentials.toList,
      e ∈ (s.bench.get (performAll s calls st)).store.credentials.toList := by
  induction calls generalizing st with
  | nil => exact fun _ installed => installed
  | cons call rest ih =>
    intro e installed
    exact ih (call.perform s st) e ((call.perform_departed s st).1 e installed)

/-- Whatever has been called before and is called later, what the wallet accepts and the sink takes
in a call registers a key of its sender that is still installed in the end. Only a credential that
is handed in is registered as it is. -/
theorem senders_own_keys (s : Station σ) (st : σ) (earlier later : List EngineCall)
    (call : EngineCall) :
    let before := EngineCall.performAll s earlier st
    let after := call.perform s before
    let final := EngineCall.performAll s later after
    (s.bench.get before).Departed (call.Entitled (s.bench.get final).store.credentials)
      (s.bench.get after) := by
  intro before after final
  have departed := (call.perform_departed s before).2
  refine departed.mono fun t entitled => entitled.mono ?_
  exact EngineCall.performAll_kept s later after

/-- Handed a credential of another account, the engine registers it. The sender has no key. -/
theorem foreign_key_registered :
    let foreign := Credential.until ⟨"B"⟩ ⟨6000⟩
    let before := World.ofBench (.startingAt ⟨100⟩ ScriptedLedger.testVersion)
    let after := (EngineCall.statusChange .testRules {} ⟨⟨"A"⟩, .online (some foreign), none, none,
      none, some .fireAndForget, none⟩).perform World.station before
    after.bench.wallet.submitted = [⟨⟨"A"⟩, ⟨100⟩, ⟨1100⟩, 0, some foreign.registration⟩] ∧
    foreign.address = ⟨"B"⟩ ∧
    ¬ before.bench.Departed after.bench.store.credentials.Backs after.bench := by
  intro foreign before after
  have facts : after.bench.wallet.submitted =
        [⟨⟨"A"⟩, ⟨100⟩, ⟨1100⟩, 0, some foreign.registration⟩] ∧
      before.bench.wallet.submitted = [] ∧ after.bench.store.credentials.toList = [] := by
    decide +kernel
  obtain ⟨accepted, nothing, keyless⟩ := facts
  refine ⟨accepted, rfl, fun departed => ?_⟩
  obtain ⟨sent, appended, backed⟩ := departed.accepted
  rw [accepted, nothing, List.nil_append] at appended
  obtain ⟨e, installed, -⟩ := backed _ (appended ▸ List.mem_cons_self) foreign.registration rfl
  rw [keyless] at installed
  cases installed

end KeyRenewal
