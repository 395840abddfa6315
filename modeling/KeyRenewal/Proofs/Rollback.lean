import KeyRenewal.Proofs.Recording

/-!
# The discipline of rolling back

An attempt may be used in any order: keys made for it, registrations dispatched, failures recorded,
each any number of times, over any store. After any such history, what the next use does to the
store depends only on whether a key is pending, that is made last, with no dispatch and no failed
registration since. Only a failed registration deletes anything, and only the pending key.
-/

namespace KeyRenewal

variable {σ ε : Type}

/-- The same store, with a record of the deletions asked of it. -/
def CredentialStore.recorded (store : CredentialStore σ) :
    CredentialStore (σ × List KeyHandle) where
  list := store.list.focus .unrecorded
  generate request := (store.generate request).focus .unrecorded
  delete handle := do
    Action.note handle
    (store.delete handle).focus .unrecorded

/-- A use of an attempt. -/
inductive AttemptCall
  | generated (g : GeneratedCredential)
  | dispatched (d : DispatchOutcome)
  | failed (e : RenewalError)

namespace AttemptCall

def handle? : AttemptCall → Option KeyHandle
  | generated g => some g.handle
  | _ => none

/-- Whether a key made before the call may still be rolled back after it. -/
def keepsPending : AttemptCall → Bool
  | generated _ | dispatched _ | failed (.registrationFailed ..) => false
  | failed _ => true

theorem keepsPending_failed {error : RenewalError}
    (other : ∀ address reported source, error ≠ .registrationFailed address reported source) :
    (failed error).keepsPending = true := by
  cases error with
  | registrationFailed address reported source => exact absurd rfl (other address reported source)
  | _ => rfl

end AttemptCall

namespace RenewalAttempt

/-- Use the attempt; answers with the failure to report, if one was recorded. -/
def call (store : CredentialStore σ) (a : RenewalAttempt) :
    AttemptCall → Action σ ε (RenewalAttempt × Option RenewalError)
  | .generated g => pure (a.credentialGenerated g, none)
  | .dispatched d => pure (a.dispatched d, none)
  | .failed e => do
    let (a, e) ← a.fail store e
    return (a, some e)

def callAll (store : CredentialStore σ) (a : RenewalAttempt) :
    List AttemptCall → Action σ ε RenewalAttempt
  | [] => pure a
  | first :: rest => do
    let (a, _) ← a.call store first
    a.callAll store rest

/-- The key under the handle was the last one made, and nothing since has settled it. -/
def Pending (calls : List AttemptCall) (handle : KeyHandle) : Prop :=
  ∃ before g after, calls = before ++ .generated g :: after ∧ g.handle = handle ∧
    ∀ call ∈ after, call.keepsPending = true

theorem pending_append_singleton {calls : List AttemptCall} {call : AttemptCall}
    {handle : KeyHandle} :
    Pending (calls ++ [call]) handle ↔
      call.handle? = some handle ∨ call.keepsPending = true ∧ Pending calls handle := by
  constructor
  · rintro ⟨before, g, after, split, rfl, kept⟩
    rcases List.eq_nil_or_concat after with rfl | ⟨after, last, rfl⟩
    · obtain ⟨-, last⟩ := List.append_inj' split rfl
      cases last
      exact Or.inl rfl
    · rw [List.concat_eq_append] at split kept
      rw [← List.cons_append, ← List.append_assoc] at split
      obtain ⟨earlier, same⟩ := List.append_inj' split rfl
      cases same
      refine Or.inr ⟨kept call (by simp), before, g, after, earlier, rfl, ?_⟩
      exact fun other there => kept other (List.mem_append_left _ there)
  · rintro (made | ⟨keeps, before, g, after, rfl, rfl, kept⟩)
    · cases call with
      | generated g => exact ⟨calls, g, [], rfl, Option.some.inj made, by simp⟩
      | dispatched d => cases made
      | failed e => cases made
    · refine ⟨before, g, after ++ [call], by simp, rfl, ?_⟩
      intro other there
      rcases List.mem_append.mp there with earlier | last
      · exact kept other earlier
      · rw [List.mem_singleton.mp last]
        exact keeps

/-- What one more call does after the calls before it: how the attempt tracked, what the store was
asked, what is reported and what is logged. -/
inductive Conduct (store : CredentialStore σ) (calls : List AttemptCall) (a : RenewalAttempt)
    (st : σ) (deleted : List KeyHandle) :
    AttemptCall → Run (σ × List KeyHandle) ε (RenewalAttempt × Option RenewalError) → Prop
  | generated (g : GeneratedCredential) :
    Conduct store calls a st deleted (.generated g)
      ⟨.ok (a.credentialGenerated g, none), (st, deleted), []⟩
  | dispatched (d : DispatchOutcome) :
    Conduct store calls a st deleted (.dispatched d) ⟨.ok (a.dispatched d, none), (st, deleted), []⟩
  /-- The pending key is deleted. -/
  | rolledBack {handle : KeyHandle} (pending : Pending calls handle) {st' : σ}
    {log : List Logging.Entry} (goes : (store.delete handle).run st = ⟨.ok (), st', log⟩)
    {notice : Logging.Notice} (warns : notice.severity = .warn)
    (names : ("handle", .shown handle) ∈ notice.fields)
    (address : Address) (reported : Option KeyHandle) (source : ServiceError) :
    Conduct store calls a st deleted (.failed (.registrationFailed address reported source))
      ⟨.ok ({ a with
          phase := .failed (RenewalError.registrationFailed address (some handle) source).message
            a.phase.display true
          generated := none }, some (.registrationFailed address (some handle) source)),
        (st', deleted ++ [handle]), log ++ [⟨notice, []⟩]⟩
  /-- The pending key could not be deleted. -/
  | leftBehind {handle : KeyHandle} (pending : Pending calls handle) {e : ServiceError} {st' : σ}
    {log : List Logging.Entry} (goes : (store.delete handle).run st = ⟨.error e, st', log⟩)
    {notice : Logging.Notice} (complains : notice.severity = .error)
    (names : ("handle", .shown handle) ∈ notice.fields)
    (address : Address) (reported : Option KeyHandle) (source : ServiceError) :
    Conduct store calls a st deleted (.failed (.registrationFailed address reported source))
      ⟨.ok ({ a with
          phase := .failed (RenewalError.registrationFailed address none source).message
            a.phase.display false
          generated := none }, some (.registrationFailed address none source)),
        (st', deleted ++ [handle]), log ++ [⟨notice, []⟩]⟩
  /-- The deletion of the pending key never ends. -/
  | stuck {handle : KeyHandle} (pending : Pending calls handle) {st' : σ}
    {log : List Logging.Entry} (goes : (store.delete handle).run st = ⟨.blocked, st', log⟩)
    (address : Address) (reported : Option KeyHandle) (source : ServiceError) :
    Conduct store calls a st deleted (.failed (.registrationFailed address reported source))
      ⟨.blocked, (st', deleted ++ [handle]), log⟩
  | nothingPending (settled : ∀ handle, ¬ Pending calls handle) (address : Address)
    (reported : Option KeyHandle) (source : ServiceError) :
    Conduct store calls a st deleted (.failed (.registrationFailed address reported source))
      ⟨.ok ({ a with
          phase := .failed (RenewalError.registrationFailed address none source).message
            a.phase.display false
          generated := none }, some (.registrationFailed address none source)), (st, deleted), []⟩
  | otherFailure {error : RenewalError}
    (other : ∀ address reported source, error ≠ .registrationFailed address reported source) :
    Conduct store calls a st deleted (.failed error)
      ⟨.ok ({ a with phase := .failed error.message a.phase.display false }, some error),
        (st, deleted), []⟩

/-- How an attempt tracked after its calls: it remembers the pending key, and every deletion so far
was of another key that was made for it. -/
structure Tracks (calls : List AttemptCall) (a : RenewalAttempt) (deleted : List KeyHandle) :
    Prop where
  pending : ∀ handle, Pending calls handle ↔ a.generated.map (·.handle) = some handle
  deleted : (deleted ++ (a.generated.map (·.handle)).toList).Sublist
    (calls.filterMap AttemptCall.handle?)

theorem Tracks.start (address : Address) : Tracks [] (.start address) [] where
  pending handle := by
    constructor
    · rintro ⟨before, g, after, empty, -⟩
      simp at empty
    · rintro ⟨⟩
  deleted := List.nil_sublist _

/-- Without a remembered key there is nothing to roll back. -/
theorem rollBack_run_of_none {store : CredentialStore σ} {a : RenewalAttempt}
    (held : a.generated = none) (st : σ) :
    (a.rollBack store : Action _ ε _).run st = ⟨.ok none, st, []⟩ := by
  unfold rollBack
  rw [held]
  rfl

/-- Rolling back asks the recorded store once for the deletion of the remembered key. -/
theorem rollBack_run_of_some (store : CredentialStore σ) {a : RenewalAttempt}
    {g : GeneratedCredential} (held : a.generated = some g) (st : σ) (deleted : List KeyHandle) :
    (a.rollBack store.recorded : Action _ ε _).run (st, deleted) =
      let deletion := (store.delete g.handle).run st
      let after := (deletion.state, deleted ++ [g.handle])
      match deletion.outcome with
      | .ok () => ⟨.ok (some g.handle), after,
          deletion.log ++ [⟨.keyDeleted a.address g.handle, []⟩]⟩
      | .error e => ⟨.ok none, after,
          deletion.log ++ [⟨.keyLeftBehind a.address g.handle e, []⟩]⟩
      | .blocked => ⟨.blocked, after, deletion.log⟩ := by
  have asked : (store.recorded.delete g.handle).run (st, deleted) =
      let deletion := (store.delete g.handle).run st
      ⟨deletion.outcome, (deletion.state, deleted ++ [g.handle]), deletion.log⟩ := rfl
  simp only [rollBack, held]
  show Action.bind (Action.attempt _) _ (st, deleted) = _
  unfold Action.bind Action.attempt
  unfold Action.run at asked ⊢
  rw [asked]
  rcases store.delete g.handle st with ⟨_ | e | _, st', log⟩
  · rfl
  · rfl
  · rfl

/-- What an attempt does with a failed registration, given what became of rolling it back. -/
theorem call_registrationFailed_run {store : CredentialStore σ} {a : RenewalAttempt} {st st' : σ}
    {rolledBack : Option KeyHandle} {log : List Logging.Entry}
    (rolls : (a.rollBack store : Action _ ε _).run st = ⟨.ok rolledBack, st', log⟩)
    (address : Address) (reported : Option KeyHandle) (source : ServiceError) :
    (a.call store (.failed (.registrationFailed address reported source)) : Action _ ε _).run st =
      ⟨.ok ({ a with
          phase := .failed (RenewalError.registrationFailed address rolledBack source).message
            a.phase.display rolledBack.isSome
          generated := none }, some (.registrationFailed address rolledBack source)),
        st', log⟩ := by
  simp only [call, fail, Action.run_bind, Action.run_pure, rolls, List.append_nil]

theorem call_registrationFailed_blocked {store : CredentialStore σ} {a : RenewalAttempt}
    {st st' : σ} {log : List Logging.Entry}
    (rolls : (a.rollBack store : Action _ ε _).run st = ⟨.blocked, st', log⟩)
    (address : Address) (reported : Option KeyHandle) (source : ServiceError) :
    (a.call store (.failed (.registrationFailed address reported source)) : Action _ ε _).run st =
      ⟨.blocked, st', log⟩ := by
  simp only [call, fail, Action.run_bind, rolls]

/-- An attempt that knows of its calls keeps to the discipline with the next one. -/
theorem call_conduct (store : CredentialStore σ) {calls : List AttemptCall} {a : RenewalAttempt}
    {deleted : List KeyHandle} (tracks : Tracks calls a deleted) (st : σ) (call : AttemptCall) :
    Conduct store calls a st deleted call
      ((a.call store.recorded call : Action _ ε _).run (st, deleted)) := by
  cases call with
  | generated g => exact .generated g
  | dispatched d => exact .dispatched d
  | failed error =>
    cases error with
    | registrationFailed address reported source =>
      cases held : a.generated with
      | none =>
        have settled : ∀ handle, ¬ Pending calls handle := by
          intro handle pending
          have remembered := (tracks.pending handle).mp pending
          rw [held] at remembered
          cases remembered
        rw [call_registrationFailed_run (rollBack_run_of_none held (st, deleted))]
        exact .nothingPending settled address reported source
      | some g =>
        have pending : Pending calls g.handle := (tracks.pending _).mpr (by rw [held]; rfl)
        have rolls := rollBack_run_of_some (ε := ε) store held st deleted
        -- the store may delete the key, refuse to, or never come back
        rcases goes : (store.delete g.handle).run st with ⟨_ | e | _, st', log⟩
        · rw [goes] at rolls
          rw [call_registrationFailed_run rolls]
          exact .rolledBack pending goes rfl (by simp [Logging.Notice.fields]) address reported
            source
        · rw [goes] at rolls
          rw [call_registrationFailed_run rolls]
          exact .leftBehind pending goes rfl (by simp [Logging.Notice.fields]) address reported
            source
        · rw [goes] at rolls
          rw [call_registrationFailed_blocked rolls]
          exact .stuck pending goes address reported source
    | _ => exact .otherFailure (by rintro _ _ _ ⟨⟩)

namespace Tracks

variable {calls : List AttemptCall} {a a' : RenewalAttempt} {deleted : List KeyHandle}

theorem deleted_sublist (tracks : Tracks calls a deleted) (call : AttemptCall) :
    deleted.Sublist ((calls ++ [call]).filterMap AttemptCall.handle?) := by
  rw [List.filterMap_append]
  exact ((List.sublist_append_left _ _).trans tracks.deleted).trans (List.sublist_append_left _ _)

theorem rolledBack_sublist (tracks : Tracks calls a deleted) {handle : KeyHandle}
    (pending : Pending calls handle) (call : AttemptCall) :
    (deleted ++ [handle]).Sublist ((calls ++ [call]).filterMap AttemptCall.handle?) := by
  have made := tracks.deleted
  rw [(tracks.pending handle).mp pending] at made
  rw [List.filterMap_append]
  exact made.trans (List.sublist_append_left _ _)

theorem of_generated (tracks : Tracks calls a deleted) (g : GeneratedCredential) :
    Tracks (calls ++ [.generated g]) (a.credentialGenerated g) deleted where
  pending handle := by
    rw [pending_append_singleton]
    simp [AttemptCall.handle?, AttemptCall.keepsPending, credentialGenerated]
  deleted := by
    rw [List.filterMap_append]
    exact ((List.sublist_append_left _ _).trans tracks.deleted).append (List.Sublist.refl _)

/-- After a call that settles what was pending, nothing is. -/
theorem of_settled {call : AttemptCall} (settles : call.keepsPending = false)
    (makesNone : call.handle? = none) (forgotten : a.generated = none)
    (made : deleted.Sublist ((calls ++ [call]).filterMap AttemptCall.handle?)) :
    Tracks (calls ++ [call]) a deleted where
  pending handle := by
    rw [pending_append_singleton, settles, makesNone, forgotten]
    simp
  deleted := by
    rw [forgotten]
    simpa using made

/-- A call that settles nothing leaves the pending key pending. -/
theorem of_kept (tracks : Tracks calls a deleted) {call : AttemptCall}
    (keeps : call.keepsPending = true) (makesNone : call.handle? = none)
    (remembers : a'.generated = a.generated) : Tracks (calls ++ [call]) a' deleted where
  pending handle := by
    rw [pending_append_singleton, keeps, makesNone, remembers, ← tracks.pending]
    simp
  deleted := by
    rw [remembers]
    simpa [makesNone] using tracks.deleted

end Tracks

/-- Conduct keeps an attempt knowing of its calls; even where it ends there, it has asked for no
deletion of a key that was not made. -/
theorem Conduct.tracks {store : CredentialStore σ} {calls : List AttemptCall} {a : RenewalAttempt}
    {st : σ} {deleted : List KeyHandle} {call : AttemptCall}
    {run : Run (σ × List KeyHandle) ε (RenewalAttempt × Option RenewalError)}
    (conduct : Conduct store calls a st deleted call run) (tracks : Tracks calls a deleted) :
    run.state.2.Sublist ((calls ++ [call]).filterMap AttemptCall.handle?) ∧
      ∀ a' reported, run.outcome = .ok (a', reported) →
        Tracks (calls ++ [call]) a' run.state.2 := by
  cases conduct with
  | generated g =>
    refine ⟨tracks.deleted_sublist _, ?_⟩
    rintro _ _ ⟨⟩
    exact tracks.of_generated g
  | dispatched d =>
    refine ⟨tracks.deleted_sublist _, ?_⟩
    rintro _ _ ⟨⟩
    exact Tracks.of_settled rfl rfl rfl (tracks.deleted_sublist _)
  | rolledBack pending | leftBehind pending =>
    refine ⟨tracks.rolledBack_sublist pending _, ?_⟩
    rintro _ _ ⟨⟩
    exact Tracks.of_settled rfl rfl rfl (tracks.rolledBack_sublist pending _)
  | stuck pending => exact ⟨tracks.rolledBack_sublist pending _, by rintro _ _ ⟨⟩⟩
  | nothingPending settled =>
    refine ⟨tracks.deleted_sublist _, ?_⟩
    rintro _ _ ⟨⟩
    exact Tracks.of_settled rfl rfl rfl (tracks.deleted_sublist _)
  | otherFailure other =>
    refine ⟨tracks.deleted_sublist _, ?_⟩
    rintro _ _ ⟨⟩
    exact tracks.of_kept (AttemptCall.keepsPending_failed other) rfl rfl

/-- Whatever the calls and however they end, the keys whose deletion was asked for are among those
made, in order and each no more often than it was made. -/
theorem callAll_tracks (store : CredentialStore σ) {calls : List AttemptCall} {a : RenewalAttempt}
    {deleted : List KeyHandle} (tracks : Tracks calls a deleted) (rest : List AttemptCall)
    (st : σ) :
    let run := (a.callAll store.recorded rest : Action _ ε _).run (st, deleted)
    run.state.2.Sublist ((calls ++ rest).filterMap AttemptCall.handle?) ∧
      ∀ a', run.outcome = .ok a' → Tracks (calls ++ rest) a' run.state.2 := by
  induction rest generalizing calls a deleted st with
  | nil =>
    rw [List.append_nil]
    refine ⟨(List.sublist_append_left _ _).trans tracks.deleted, ?_⟩
    rintro _ ⟨⟩
    exact tracks
  | cons call rest ih =>
    obtain ⟨made, tracked⟩ := (call_conduct (ε := ε) store tracks st call).tracks tracks
    rw [List.append_cons]
    simp only [callAll, Action.run_bind]
    generalize (a.call store.recorded call : Action _ ε _).run (st, deleted) = first
      at made tracked ⊢
    obtain ⟨⟨a', reported⟩ | e | _, ⟨st', deleted'⟩, log⟩ := first
    -- a call that does not return ends the history; its deletion was asked for all the same
    · exact ih (tracked a' reported rfl) st'
    · refine ⟨?_, by rintro _ ⟨⟩⟩
      rw [List.filterMap_append]
      exact made.trans (List.sublist_append_left _ _)
    · refine ⟨?_, by rintro _ ⟨⟩⟩
      rw [List.filterMap_append]
      exact made.trans (List.sublist_append_left _ _)

end RenewalAttempt

/-- After any calls on an attempt over any store, the next one keeps to the discipline of rolling
back, and deletions never outnumber the keys made. -/
theorem rollback_disciplined (store : CredentialStore σ) (address : Address)
    (calls : List AttemptCall) (st : σ) :
    let run :=
      ((RenewalAttempt.start address).callAll store.recorded calls : Action _ ε _).run (st, [])
    run.state.2.Sublist (calls.filterMap AttemptCall.handle?) ∧
    ∀ a, run.outcome = .ok a → ∀ call,
      RenewalAttempt.Conduct store calls a run.state.1 run.state.2 call
        ((a.call store.recorded call : Action _ ε _).run run.state) := by
  intro run
  obtain ⟨made, tracked⟩ := RenewalAttempt.callAll_tracks (ε := ε) store
    (RenewalAttempt.Tracks.start address) calls st
  exact ⟨made, fun a ended call => RenewalAttempt.call_conduct store (tracked a ended) _ call⟩

/-- A key that was made is deleted when its registration fails, and not again when it fails
again. -/
theorem rollback_disciplined_of_refused :
    let key : GeneratedCredential := ⟨default, ⟨"memory/A.1.9.partkey"⟩⟩
    let refusal : RenewalError := .registrationFailed ⟨"A"⟩ none (.rejected "wallet locked")
    let calls := [AttemptCall.generated key, .failed refusal]
    let run := ((RenewalAttempt.start ⟨"A"⟩).callAll MemoryStore.store.recorded calls :
      Action _ RenewalError _).run
        ({ MemoryStore.empty with credentials := .ofList [(key.handle, key.credential)] }, [])
    run.state.2 = [key.handle] ∧
    ∃ a, run.outcome = .ok a ∧
      RenewalAttempt.Conduct MemoryStore.store calls a run.state.1 run.state.2 (.failed refusal)
        ((a.call MemoryStore.store.recorded (.failed refusal) : Action _ RenewalError _).run
          run.state) :=
  ⟨by decide +kernel, _, rfl, (rollback_disciplined MemoryStore.store ⟨"A"⟩ _ _).2 _ rfl _⟩

end KeyRenewal
