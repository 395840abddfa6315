import KeyRenewal.Batch
import KeyRenewal.Proofs.Endings

/-!
# Runs that settle

An action settles if it comes to an end wherever a property of the state holds, whether well or with
a failure of a known kind, and the property holds afterwards. What is put together from actions that
settle does so as well. Once a renewal has begun on collaborators that settle, it is answered, and
never with a failure that a run is refused with before it begins.
-/

namespace KeyRenewal

variable {σ τ ε ε' α β : Type}

/-- An end in a state with the property; if it is a failure, then of a known kind. -/
inductive Settled (inv : σ → Prop) (fails : ε → Prop) : Outcome ε α × σ → Prop
  | ok {value : α} {st : σ} (holds : inv st) : Settled inv fails (.ok value, st)
  | error {e : ε} {st : σ} (known : fails e) (holds : inv st) : Settled inv fails (.error e, st)

/-- Started in a state with the property, the action comes to such an end. -/
def Action.Settles (inv : σ → Prop) (fails : ε → Prop) (a : Action σ ε α) : Prop :=
  ∀ st, inv st → Settled inv fails (a.effect st)

namespace Action.Settles

variable {inv : σ → Prop} {fails : ε → Prop} {fails' : ε' → Prop}

theorem pure (value : α) : (Pure.pure value : Action σ ε α).Settles inv fails := fun _ => .ok

theorem fail {e : ε} (known : fails e) : (Action.fail e : Action σ ε α).Settles inv fails :=
  fun _ => .error known

theorem log (notice : Logging.Notice) : (Action.log notice : Action σ ε Unit).Settles inv fails :=
  fun _ => .ok

theorem get : (Action.get : Action σ ε σ).Settles inv fails := fun _ => .ok

theorem modify {f : σ → σ} (keeps : ∀ st, inv st → inv (f st)) :
    (Action.modify f : Action σ ε Unit).Settles inv fails := fun st holds => .ok (keeps st holds)

theorem ofExcept {x : Except ε α} (known : ∀ e, x = .error e → fails e) :
    (Action.ofExcept x : Action σ ε α).Settles inv fails := by
  cases x with
  | ok value => exact pure value
  | error e => exact fail (known e rfl)

variable {a : Action σ ε α}

theorem bind {next : α → Action σ ε β} (first : a.Settles inv fails)
    (second : ∀ value, (next value).Settles inv fails) : (a >>= next).Settles inv fails := by
  intro st holds
  have middle := first st holds
  rw [effect_bind]
  generalize a.effect st = left at middle ⊢
  cases middle with
  | ok holds => exact second _ _ holds
  | error known holds => exact .error known holds

theorem mapError (settles : a.Settles inv fails) {f : ε → ε'}
    (known : ∀ e, fails e → fails' (f e)) : (a.mapError f).Settles inv fails' := by
  intro st holds
  have last := settles st holds
  rw [effect_mapError]
  generalize a.effect st = left at last ⊢
  cases last with
  | ok holds => exact .ok holds
  | error fails holds => exact .error (known _ fails) holds

/-- Whatever comes of the first action, there is a way to go on. -/
theorem bind_attempt {next : Except ε α → Action σ ε' β} (first : a.Settles inv fails)
    (good : ∀ value, (next (.ok value)).Settles inv fails')
    (bad : ∀ e, fails e → (next (.error e)).Settles inv fails') :
    (a.attempt >>= next).Settles inv fails' := by
  intro st holds
  have middle := first st holds
  rw [effect_bind, effect_attempt]
  generalize a.effect st = left at middle ⊢
  cases middle with
  | ok holds => exact good _ _ holds
  | error known holds => exact bad _ known _ holds

theorem ite {c : Prop} [Decidable c] {b : Action σ ε α} (yes : c → a.Settles inv fails)
    (no : ¬ c → b.Settles inv fails) : (if c then a else b).Settles inv fails := by
  by_cases h : c
  · rw [if_pos h]
    exact yes h
  · rw [if_neg h]
    exact no h

/-- An action on a part of the state settles as it does there. -/
theorem focus {lens : Lens σ τ} {part : τ → Prop} {b : Action τ ε α}
    (settles : b.Settles part fails) (into : ∀ st, inv st → part (lens.get st))
    (back : ∀ st t, inv st → part t → inv (lens.set st t)) : (b.focus lens).Settles inv fails := by
  intro st holds
  have last := settles (lens.get st) (into st holds)
  rw [effect_focus]
  generalize b.effect (lens.get st) = left at last ⊢
  cases last with
  | ok done => exact .ok (back st _ holds done)
  | error known done => exact .error known (back st _ holds done)

end Action.Settles

/-- A run is refused with such a failure before it has begun to renew anything. -/
def RenewalError.isRefusal : RenewalError → Bool
  | windowTooShort .. | existingCredential .. | unknownProtocol _ | config _ => true
  | _ => false

/-- The collaborators settle where a property of the state holds, and looking at how far the ledger
is changes nothing. -/
structure Collaborators.Settle (c : Collaborators σ) (inv : σ → Prop) : Prop where
  currentRound : ∀ st, c.ledger.currentRound.Settles (· = st) fun _ => True
  suggestedParams : ∀ st, c.ledger.suggestedParams.Settles (· = st) fun _ => True
  status : c.ledger.status.Settles inv fun _ => True
  awaitConfirmation : ∀ txId start,
    (c.ledger.awaitConfirmation txId start).Settles inv (·.isRefusal = false)
  generate : ∀ request, (c.store.generate request).Settles inv fun _ => True
  delete : ∀ handle, (c.store.delete handle).Settles inv fun _ => True
  signAndSubmit : ∀ t, (c.signer.signAndSubmit t).Settles inv fun _ => True
  multisigInfo : ∀ address, (c.signer.multisigInfo address).Settles inv fun _ => True
  write : ∀ path bytes, (c.sink.write path bytes).Settles inv fun _ => True

open KeyRenewal.Action (Settles)

section operations

variable {inv : σ → Prop}

namespace Collaborators

variable {c : Collaborators σ}

theorem Settle.dispatch (settle : c.Settle inv) (t : StatusTransaction) (target : DispatchTarget) :
    (c.dispatch t target).Settles inv (·.isRefusal = false) := by
  cases target with
  | submit mode =>
    refine ((settle.signAndSubmit t).mapError (by intros; rfl)).bind fun txId => ?_
    refine (Settles.log _).bind fun _ => ?_
    cases mode with
    | fireAndForget => exact (Settles.log _).bind fun _ => .pure _
    | waitForConfirmation =>
      refine (settle.status.mapError (by intros; rfl)).bind fun start => ?_
      exact (settle.awaitConfirmation txId _).bind fun _ => .pure _
  | file path =>
    refine ((settle.multisigInfo t.address).mapError (by intros; rfl)).bind fun sender => ?_
    refine ((settle.write path _).mapError (by intros; rfl)).bind fun _ => ?_
    exact (Settles.log _).bind fun _ => .pure _

theorem Settle.generated (settle : c.Settle inv) (address : Address) (firstValid lastValid : Round)
    (keyDilution : UInt64) :
    (c.generate address firstValid lastValid keyDilution .managed).Settles inv
      (·.isRefusal = false) := by
  refine .ite (fun _ => .fail rfl) fun _ => ?_
  refine (Settles.pure _).bind fun outputDir => ?_
  exact ((settle.generate _).mapError (by intros; rfl)).bind fun _ =>
    (Settles.log _).bind fun _ => .pure _

end Collaborators

namespace Engine

variable {e : Engine σ}

/-- Taking a snapshot changes nothing, and its failures are not about credentials. -/
theorem snapshot_settles (settle : e.collaborators.Settle inv) (st : σ) :
    e.snapshot.Settles (· = st) fun error => ∀ requested existing,
      error ≠ .existingCredential requested existing := by
  refine ((settle.currentRound st).mapError (by simp)).bind fun round => ?_
  refine ((settle.suggestedParams st).mapError (by simp)).bind fun suggested => ?_
  refine (Settles.ofExcept fun error unknown => ?_).bind fun parameters => ?_
  · unfold ProtocolRegistry.lookup at unknown
    split at unknown <;> cases unknown
    simp
  · exact .ite (fun _ => .fail (by simp)) fun _ => (Settles.log _).bind fun _ => .pure _

theorem giveUp_settles (settle : e.collaborators.Settle inv) (attempt : RenewalAttempt)
    {error : RenewalError} (known : error.isRefusal = false) :
    (e.giveUp attempt error : Action σ _ α).Settles inv (·.isRefusal = false) := by
  intro st holds
  cases error with
  | registrationFailed address rolledBack source =>
    have rolled : (attempt.rollBack e.collaborators.store : Action σ RenewalError _).Settles inv
        (·.isRefusal = false) := by
      unfold RenewalAttempt.rollBack
      cases attempt.generated with
      | none => exact .pure _
      | some generated =>
        exact (settle.delete _).bind_attempt (fun _ => (Settles.log _).bind fun _ => .pure _)
          fun _ _ => (Settles.log _).bind fun _ => .pure _
    have undone := rolled st holds
    simp only [giveUp, RenewalAttempt.fail, Action.effect_bind]
    generalize (attempt.rollBack e.collaborators.store).effect st = left at undone ⊢
    cases undone with
    | ok holds => exact .error rfl holds
    | error known holds => exact .error known holds
  | _ => exact .error known holds

theorem renewAccount_settles (settle : e.collaborators.Settle inv) (address : Address)
    (snapshot : RoundSnapshot) (lastValid : Round) (fee keyDilution : UInt64)
    (target : DispatchTarget) :
    (e.renewAccount address snapshot lastValid fee keyDilution target).Settles inv
      (·.isRefusal = false) := by
  refine (settle.generated _ _ _ _).bind_attempt (fun generated => ?_)
    fun error known => giveUp_settles settle _ known
  have register : (e.register snapshot fee target generated address).Settles inv
      (·.isRefusal = false) := by
    refine (Settles.ofExcept fun error unbuilt => ?_).bind fun t => settle.dispatch t target
    unfold buildTransaction at unbuilt
    split at unbuilt <;> cases unbuilt
    rfl
  exact register.bind_attempt (fun dispatch => .pure _)
    fun error known => giveUp_settles settle _ known

end Engine

end operations

/-- Looking at something about the ledger changes nothing. -/
theorem ScriptedLedger.observe_settles {inv : ScriptedLedger → Prop} (look : ScriptedLedger → α) :
    (observe look).Settles inv fun _ => True :=
  Settles.get.bind fun _ => .ite (fun _ => .fail trivial) fun _ => .pure _

/-- Where waits do not hang, a watch is answered by the pool or by a failure of a call. -/
theorem ScriptedLedger.awaitConfirmation_settles (txId : TxId) (start : Round) :
    (ledger.awaitConfirmation txId start).Settles (·.hangWaits = false) (·.isRefusal = false) := by
  intro l moves
  obtain ⟨verdict, progress⟩ := awaitConfirmation_verdict txId start l
  have ends : ((ledger.awaitConfirmation txId start).effect l).1 ≠ .blocked :=
    watch_ends moves txId (Nat.lt_succ_self _) start
  generalize (ledger.awaitConfirmation txId start).effect l = left at verdict progress ends ⊢
  obtain ⟨outcome, after⟩ := left
  have still : after.hangWaits = false := progress.hangWaits.trans moves
  cases verdict with
  | confirmed round => exact .ok still
  | rejected reason => exact .error rfl still
  | unanswered source => exact .error rfl still
  | blocked => exact absurd rfl ends

/-- The action comes to an end, whatever it finds. -/
abbrev Action.Ends (a : Action σ ε α) : Prop := a.Settles (fun _ => True) fun _ => True

namespace MemoryStore

theorem generate_ends (request : GenerationRequest) : (generate request).Ends := by
  refine (Settles.modify fun _ _ => trivial).bind fun _ => Settles.get.bind fun s => ?_
  refine .ite (fun _ => .fail trivial) fun _ => ?_
  split
  · exact .pure _
  · refine .ite (fun _ => .fail trivial) fun _ => ?_
    exact (Settles.modify fun _ _ => trivial).bind fun _ => .pure _

theorem delete_ends (handle : KeyHandle) : (delete handle).Ends := by
  refine Settles.get.bind fun s => .ite (fun _ => .fail trivial) fun _ => ?_
  exact .ite (fun _ => .modify fun _ _ => trivial) fun _ => .fail trivial

end MemoryStore

theorem Machine.inspect_settles {inv : Machine → Prop} (look : FileTree → Except IoKind α) :
    (inspect look).Settles inv fun _ => True := by
  refine Settles.get.bind fun m => ?_
  have looked : (Action.ofExcept (look m.files) : Action Machine IoKind α).Settles inv
      fun _ => True := .ofExcept fun _ _ => trivial
  exact looked.mapError fun _ _ => trivial

theorem Machine.drawPair_ends : drawPair.Ends :=
  Settles.get.bind fun _ => (Settles.modify fun _ _ => trivial).bind fun _ => .pure _

theorem Machine.openFile_ends (edit : FileTree → Except IoKind (Place × FileTree)) :
    (openFile edit).Ends :=
  Settles.get.bind fun _ => (Settles.ofExcept fun _ _ => trivial).bind fun _ =>
    (Settles.modify fun _ _ => trivial).bind fun _ => .pure _

theorem Machine.fill_ends (place : Place) (bytes : List UInt8) : (fill place bytes).Ends := by
  refine Settles.get.bind fun m => ?_
  split
  · exact .modify fun _ _ => trivial
  · exact (Settles.modify fun _ _ => trivial).bind fun _ => .fail trivial

theorem Machine.remove_ends (path : Path) : (remove path).Ends := by
  refine Settles.get.bind fun m => (Settles.ofExcept fun _ _ => trivial).bind fun files => ?_
  split
  · exact .modify fun _ _ => trivial
  · exact (Settles.modify fun _ _ => trivial).bind fun _ => .fail trivial

namespace KeyFolder

/-- Listing the keys of a folder changes nothing. -/
theorem list_settles (folder : KeyFolder) (m : Machine) :
    folder.list.Settles (· = m) fun _ => True := by
  have collected : ∀ paths keys, (collect keys paths).Settles (· = m) fun _ => True := by
    intro paths
    induction paths with
    | nil => exact fun keys => .pure _
    | cons path rest ih =>
      intro keys
      have read : (readKey path).Settles (· = m) fun _ => True := by
        refine (Machine.inspect_settles _).bind fun answer => ?_
        split
        split
        · exact .pure _
        · exact .fail trivial
      exact read.bind_attempt (fun credential => ih _) fun e _ => (Settles.log _).bind fun _ => ih _
  exact (Machine.inspect_settles _).bind fun names => collected _ _

theorem writeNew_ends (path : Path) (bytes : List UInt8) : (writeNew path bytes).Ends := by
  refine Settles.bind ((Machine.openFile_ends _).mapError fun _ _ => trivial) fun place => ?_
  refine (Machine.fill_ends _ _).bind_attempt (fun _ => .pure _) fun kind _ => ?_
  exact (Machine.remove_ends path).bind_attempt (fun _ => .fail trivial) fun _ _ => .fail trivial

theorem generate_ends (folder : KeyFolder) (request : GenerationRequest) :
    (folder.generate request).Ends := by
  refine (Settles.ofExcept fun _ _ => trivial).bind fun _ => ?_
  refine Machine.drawPair_ends.bind fun vote => Machine.drawPair_ends.bind fun selection => ?_
  exact (writeNew_ends _ _).bind fun _ => .pure _

theorem delete_ends (handle : KeyHandle) : (delete handle).Ends :=
  (Machine.remove_ends handle).mapError fun _ _ => trivial

end KeyFolder

theorem ScriptedWallet.signAndSubmit_ends (t : StatusTransaction) : (signAndSubmit t).Ends :=
  Settles.get.bind fun _ => .ite (fun _ => .fail trivial) fun _ =>
    (Settles.log _).bind fun _ => (Settles.modify fun _ _ => trivial).bind fun _ => .pure _

theorem ScriptedWallet.multisigInfo_ends (address : Address) : (multisigInfo address).Ends :=
  Settles.get.bind fun _ => .ite (fun _ => .fail trivial) fun _ => .pure _

theorem MemorySink.write_ends (path : Path) (bytes : List UInt8) : (write path bytes).Ends :=
  Settles.get.bind fun _ => .ite (fun _ => .fail trivial) fun _ => .modify fun _ _ => trivial

theorem Machine.fileSink_ends (path : Path) (bytes : List UInt8) :
    (fileSink.write path bytes).Ends :=
  Settles.mapError ((openFile_ends _).bind fun _ => fill_ends _ _) fun _ _ => trivial

namespace World

/-- Waiting for a round does not hang. -/
def Moves (w : World) : Prop := w.bench.ledger.hangWaits = false

theorem focus_looks {lens : Lens World τ} {a : Action τ ε α} {fails : ε → Prop} (w : World)
    (looks : a.Settles (· = lens.get w) fails) : (a.focus lens).Settles (· = w) fails := by
  refine looks.focus ?_ ?_
  · rintro _ rfl
    rfl
  · rintro _ _ rfl rfl
    exact lens.set_get _

/-- What is done beside the ledger has no effect on how it waits. -/
theorem focus_ends {lens : Lens World τ} {a : Action τ ε α} (ends : a.Ends)
    (apart : ∀ w part, (lens.set w part).bench.ledger = w.bench.ledger) :
    (a.focus lens).Settles Moves fun _ => True := by
  refine ends.focus (fun _ _ => trivial) fun w part moves _ => ?_
  unfold Moves
  rw [apart]
  exact moves

theorem focus_ledger {a : Action ScriptedLedger ε α} {fails : ε → Prop}
    (settles : a.Settles (·.hangWaits = false) fails) :
    (a.focus (station.bench.trans Bench.ledgerLens)).Settles Moves fails :=
  settles.focus (fun _ moves => moves) fun _ _ _ moves => moves

/-- The keys of an engine are in a folder or in memory. -/
def keysIn : Option KeyFolder → CredentialStore World
  | some folder => station.folderStore folder
  | none => station.memoryStore

theorem keysIn_ends (folder : Option KeyFolder) :
    (∀ request, ((keysIn folder).generate request).Settles Moves fun _ => True) ∧
      ∀ handle, ((keysIn folder).delete handle).Settles Moves fun _ => True := by
  cases folder with
  | some folder =>
    exact ⟨fun request => focus_ends (folder.generate_ends request) fun _ _ => rfl,
      fun handle => focus_ends (KeyFolder.delete_ends handle) fun _ _ => rfl⟩
  | none =>
    exact ⟨fun request => focus_ends (MemoryStore.generate_ends request) fun _ _ => rfl,
      fun handle => focus_ends (MemoryStore.delete_ends handle) fun _ _ => rfl⟩

/-- Listing credentials changes nothing. -/
theorem keysIn_list (folder : Option KeyFolder) (w : World) :
    (keysIn folder).list.Settles (· = w) fun _ => True := by
  cases folder with
  | some folder => exact focus_looks w (folder.list_settles _)
  | none =>
    have listed : MemoryStore.list.Settles (· = w.bench.store) fun _ => True :=
      Settles.get.bind fun _ => .pure _
    exact focus_looks w listed

/-- The exports of an engine are in files or in memory. -/
def exportsTo (toFiles : Bool) : ArtifactSink World :=
  if toFiles then station.fileSink else station.memorySink

theorem exportsTo_ends (toFiles : Bool) (path : Path) (bytes : List UInt8) :
    ((exportsTo toFiles).write path bytes).Settles Moves fun _ => True := by
  cases toFiles with
  | true => exact focus_ends (Machine.fileSink_ends path bytes) fun _ _ => rfl
  | false => exact focus_ends (MemorySink.write_ends path bytes) fun _ _ => rfl

/-- The collaborators of an engine over a bench and a machine. -/
def collaborators (folder : Option KeyFolder) (toFiles : Bool) : Collaborators World :=
  ⟨station.ledger, keysIn folder, station.signer, exportsTo toFiles, station.isDirectory⟩

theorem collaborators_settle (folder : Option KeyFolder) (toFiles : Bool) :
    (collaborators folder toFiles).Settle Moves where
  currentRound w := focus_looks w (ScriptedLedger.observe_settles _)
  suggestedParams w := focus_looks w (ScriptedLedger.observe_settles _)
  status := focus_ledger (ScriptedLedger.observe_settles _)
  awaitConfirmation txId start := by
    have focused := Ledger.awaitConfirmation_focus (station.bench.trans Bench.ledgerLens)
      ScriptedLedger.ledger txId start
    exact focused ▸ focus_ledger (ScriptedLedger.awaitConfirmation_settles txId start)
  generate := (keysIn_ends folder).1
  delete := (keysIn_ends folder).2
  signAndSubmit t := focus_ends (ScriptedWallet.signAndSubmit_ends t) fun _ _ => rfl
  multisigInfo address := focus_ends (ScriptedWallet.multisigInfo_ends address) fun _ _ => rfl
  write := exportsTo_ends toFiles

theorem listCredentials_settles (folder : Option KeyFolder) (toFiles : Bool)
    (registry : ProtocolRegistry) (config : EngineConfig) (w : World) :
    (Engine.mk (collaborators folder toFiles) registry config).listCredentials.Settles (· = w)
      fun _ => True :=
  (keysIn_list folder w).mapError fun _ _ => trivial

variable {folder : Option KeyFolder} {toFiles : Bool} {protocols : Option ProtocolRegistry}
  {config : EngineConfig}

/-- Only the registry can be missing from the parts of a world. -/
theorem assemble_parts :
    (station.parts folder toFiles protocols config).assemble =
      (match protocols with
        | some registry => Except.ok registry
        | none => config.registry).map (⟨collaborators folder toFiles, ·, config⟩) := by
  cases protocols with
  | some registry => cases folder <;> rfl
  | none =>
    unfold EngineParts.assemble
    simp only [Station.parts]
    cases config.registry <;> cases folder <;> rfl

theorem engine_of_assemble {e : Engine World}
    (built : (station.parts folder toFiles protocols config).assemble = .ok e) :
    ∃ registry, e = ⟨collaborators folder toFiles, registry, config⟩ := by
  rw [assemble_parts] at built
  generalize (match protocols with
    | some registry => Except.ok registry
    | none => config.registry) = known at built
  cases known with
  | error error => cases built
  | ok registry =>
    cases built
    exact ⟨registry, rfl⟩

end World

end KeyRenewal
