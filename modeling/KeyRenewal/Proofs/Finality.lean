import KeyRenewal.Proofs.Rollback

/-!
# What is final about a terminal phase

An attempt in a terminal phase may still be used. Until another key is made for it, such uses leave
the store alone, unless a key is pending: a failure other than one of registration is terminal for
the phase, but it keeps the key pending. Then a failed registration still has the key deleted, if it
is the first of the later uses that settles anything.
-/

namespace KeyRenewal

variable {σ ε : Type}

/-- Of the calls, the first one to settle a pending key is a failed registration. -/
def AttemptCall.SettledByFailure (calls : List AttemptCall) : Prop :=
  ∃ address reported source,
    calls.find? (!·.keepsPending) = some (.failed (.registrationFailed address reported source))

namespace RenewalAttempt

open AttemptCall (SettledByFailure)

variable (store : CredentialStore σ) {a a' : RenewalAttempt} {call : AttemptCall}
  {later : List AttemptCall}

/-- Without a remembered key, a call that makes none leaves the store alone. -/
theorem call_run_of_none (held : a.generated = none) (fresh : call.handle? = none) (st : σ) :
    ∃ a' reported, (a.call store call : Action _ ε _).run st = ⟨.ok (a', reported), st, []⟩ ∧
      a'.generated = none := by
  cases call with
  | generated g => cases fresh
  | dispatched d => exact ⟨_, _, rfl, rfl⟩
  | failed error =>
    cases error with
    | registrationFailed address reported source =>
      have rolls : (a.rollBack store : Action _ ε _).run st = _ := rollBack_run_of_none held st
      exact ⟨_, _, call_registrationFailed_run rolls address reported source, rfl⟩
    | _ => exact ⟨_, _, rfl, held⟩

theorem callAll_run_of_none (held : a.generated = none)
    (fresh : ∀ call ∈ later, call.handle? = none) (st : σ) :
    ∃ a', (a.callAll store later : Action _ ε _).run st = ⟨.ok a', st, []⟩ := by
  induction later generalizing a with
  | nil => exact ⟨a, rfl⟩
  | cons call rest ih =>
    obtain ⟨first, others⟩ := List.forall_mem_cons.mp fresh
    obtain ⟨a', reported, used, held'⟩ := call_run_of_none (ε := ε) store held first st
    obtain ⟨last, finished⟩ := ih held' others
    exact ⟨last, by simp only [callAll, Action.run_bind, used, finished, List.append_nil]⟩

/-- A failed registration asks once for the deletion of the remembered key; if that is answered at
all, the key is forgotten. -/
theorem call_registrationFailed_asks {g : GeneratedCredential}
    (held : a.generated = some g) (address : Address) (reported : Option KeyHandle)
    (source : ServiceError) (s : σ × List KeyHandle) :
    let run :=
      (a.call store.recorded (.failed (.registrationFailed address reported source)) :
        Action _ ε _).run s
    run.state = (((store.delete g.handle).run s.1).state, s.2 ++ [g.handle]) ∧
      ∀ a' reported', run.outcome = .ok (a', reported') → a'.generated = none := by
  intro run
  obtain ⟨st, deleted⟩ := s
  have rolls := rollBack_run_of_some (ε := ε) store held st deleted
  rcases goes : (store.delete g.handle).run st with ⟨_ | e | _, st', log⟩
  · rw [goes] at rolls
    rw [show run = _ from call_registrationFailed_run rolls address reported source]
    exact ⟨rfl, by rintro _ _ ⟨⟩; rfl⟩
  · rw [goes] at rolls
    rw [show run = _ from call_registrationFailed_run rolls address reported source]
    exact ⟨rfl, by rintro _ _ ⟨⟩; rfl⟩
  · rw [goes] at rolls
    rw [show run = _ from call_registrationFailed_blocked rolls address reported source]
    exact ⟨rfl, by rintro _ _ ⟨⟩⟩

/-- While a key is remembered, later calls that make none do nothing to the store but delete it, and
that only if the first of them to settle it is a failed registration. -/
theorem callAll_state_of_some {g : GeneratedCredential}
    (held : a.generated = some g) (fresh : ∀ call ∈ later, call.handle? = none)
    (s : σ × List KeyHandle) :
    let final := ((a.callAll store.recorded later : Action _ ε _).run s).state
    (SettledByFailure later →
      final = (((store.delete g.handle).run s.1).state, s.2 ++ [g.handle])) ∧
    (¬ SettledByFailure later → final = s) := by
  induction later generalizing a with
  | nil => exact ⟨by rintro ⟨_, _, _, ⟨⟩⟩, fun _ => rfl⟩
  | cons call rest ih =>
    obtain ⟨first, others⟩ := List.forall_mem_cons.mp fresh
    cases call with
    | generated g => cases first
    | dispatched d =>
      refine ⟨by rintro ⟨_, _, _, ⟨⟩⟩, fun _ => ?_⟩
      have forgotten : (a.dispatched d).generated = none := rfl
      obtain ⟨last, finished⟩ := callAll_run_of_none (ε := ε) store.recorded forgotten others s
      simp only [callAll, call, Action.run_bind, Action.run_pure, finished]
    | failed error =>
      cases error with
      | registrationFailed address reported source =>
        refine ⟨fun _ => ?_, fun kept => absurd ⟨address, reported, source, rfl⟩ kept⟩
        obtain ⟨asked, forgets⟩ :=
          call_registrationFailed_asks (ε := ε) store held address reported source s
        -- what comes of the deletion does not matter: no later call asks for another one
        simp only [callAll, Action.run_bind]
        generalize (a.call store.recorded (.failed (.registrationFailed address reported source)) :
          Action _ ε _).run s = used at asked forgets ⊢
        obtain ⟨⟨a', reported'⟩ | e | _, s', log⟩ := used
        · obtain ⟨last, finished⟩ := callAll_run_of_none (ε := ε) store.recorded
            (forgets a' reported' rfl) others s'
          simp only [finished]
          exact asked
        · exact asked
        · exact asked
      -- any other failure changes the phase alone
      | _ => exact ih held others

variable {store}

/-- Where a key is remembered, the phase is the one of its generation or a failure that rolled
nothing back. -/
def PhaseFits (a : RenewalAttempt) : Prop :=
  ∀ g, a.generated = some g → a.phase = .credentialGenerated g.handle ∨
    ∃ reason atPhase, a.phase = .failed reason atPhase false

theorem call_phaseFits {st st' : σ} {reported : Option RenewalError}
    (ends : (a.call store call : Action _ ε _).effect st = (.ok (a', reported), st')) :
    a'.PhaseFits := by
  intro g held
  cases call with
  | generated g' =>
    cases ends
    cases held
    exact Or.inl rfl
  | dispatched d =>
    cases ends
    cases held
  | failed error =>
    obtain ⟨⟨a'', surfaced⟩, st'', failed, answered⟩ := Action.effect_bind_eq_ok ends
    cases answered
    cases error with
    | registrationFailed address _ source =>
      obtain ⟨rolledBack, st₁, -, recorded⟩ := Action.effect_bind_eq_ok failed
      cases recorded
      cases held
    | _ =>
      cases failed
      exact Or.inr ⟨_, _, rfl⟩

theorem PhaseFits.after_calls (fits : a.PhaseFits) {calls : List AttemptCall} {st st' : σ}
    (ends : (a.callAll store calls : Action _ ε _).effect st = (.ok a', st')) : a'.PhaseFits := by
  induction calls generalizing a st with
  | nil =>
    cases ends
    exact fits
  | cons call rest ih =>
    obtain ⟨⟨a₁, reported⟩, st₁, used, others⟩ := Action.effect_bind_eq_ok ends
    exact ih (call_phaseFits used) others

end RenewalAttempt

open RenewalAttempt (Pending)
open AttemptCall (SettledByFailure)

/-- Once an attempt over any store has come to a terminal phase, uses of it that make no other key
leave the store alone, unless a key is pending. That is so only after a failure that did not roll
back; then the key is deleted if the first of the uses to settle it is a failed registration. -/
theorem terminal_final_unless_pending (store : CredentialStore σ) (address : Address)
    (calls later : List AttemptCall) (fresh : ∀ call ∈ later, call.handle? = none) (st : σ) :
    let run :=
      ((RenewalAttempt.start address).callAll store.recorded calls : Action _ ε _).run (st, [])
    ∀ a, run.outcome = .ok a → a.phase.isTerminal →
      let final := ((a.callAll store.recorded later : Action _ ε _).run run.state).state
      ((∀ handle, ¬ Pending calls handle) → final = run.state) ∧
      ∀ handle, Pending calls handle →
        (∃ reason atPhase, a.phase = .failed reason atPhase false) ∧
        (¬ SettledByFailure later → final = run.state) ∧
        (SettledByFailure later → final =
          (((store.delete handle).run run.state.1).state, run.state.2 ++ [handle])) := by
  intro run a ended terminal final
  obtain ⟨-, tracked⟩ := RenewalAttempt.callAll_tracks (ε := ε) store
    (RenewalAttempt.Tracks.start address) calls st
  have remembers := (tracked a ended).pending
  constructor
  · intro settled
    cases held : a.generated with
    | none =>
      obtain ⟨last, finished⟩ := RenewalAttempt.callAll_run_of_none (ε := ε) store.recorded held
        fresh run.state
      simp only [final, finished]
    | some g => exact absurd ((remembers g.handle).mpr (by rw [held]; rfl)) (settled g.handle)
  · intro handle pending
    obtain ⟨g, held, rfl⟩ := Option.map_eq_some_iff.mp ((remembers handle).mp pending)
    have start : (RenewalAttempt.start address).PhaseFits := by rintro _ ⟨⟩
    have ends : ((RenewalAttempt.start address).callAll store.recorded calls :
      Action _ ε _).effect (st, []) = (.ok a, run.state) := Prod.ext ended rfl
    obtain ⟨deletes, keeps⟩ :=
      RenewalAttempt.callAll_state_of_some (ε := ε) store held fresh run.state
    refine ⟨?_, keeps, deletes⟩
    rcases start.after_calls ends g held with generating | failed
    · rw [generating] at terminal
      cases terminal
    · exact failed

/-- A store with one key, under the handle of its credential. -/
def MemoryStore.holding (key : GeneratedCredential) : MemoryStore :=
  { empty with credentials := .ofList [(key.handle, key.credential)] }

/-- A key whose registration was submitted stays, whatever fails afterwards. -/
theorem terminal_final_of_submitted :
    let key : GeneratedCredential := ⟨default, ⟨"memory/A.1.9.partkey"⟩⟩
    let calls := [AttemptCall.generated key, .dispatched (.submitted ⟨"T"⟩)]
    let later := [AttemptCall.failed (.registrationFailed ⟨"A"⟩ none (.rejected "wallet locked"))]
    let run := ((RenewalAttempt.start ⟨"A"⟩).callAll MemoryStore.store.recorded calls :
      Action _ RenewalError _).run (.holding key, [])
    (∀ call ∈ later, call.handle? = none) ∧
    ∃ a, run.outcome = .ok a ∧ a.phase.isTerminal ∧
      ((a.callAll MemoryStore.store.recorded later : Action _ RenewalError _).run run.state).state =
        (.holding key, []) := by
  intro key calls later run
  have fresh : ∀ call ∈ later, call.handle? = none := by simp [later, AttemptCall.handle?]
  have settled : ∀ handle, ¬ Pending calls handle := by
    intro handle pending
    change Pending ([.generated key] ++ [.dispatched (.submitted ⟨"T"⟩)]) handle at pending
    rcases RenewalAttempt.pending_append_singleton.mp pending with made | ⟨kept, -⟩
    · cases made
    · cases kept
  refine ⟨fresh, _, rfl, rfl, ?_⟩
  exact (terminal_final_unless_pending MemoryStore.store ⟨"A"⟩ calls later fresh _ _ rfl rfl).1
    settled

/-- A key whose registration the pool rejected is kept, and the phase is terminal; a registration
that fails afterwards has the key deleted. -/
theorem rejected_key_deleted_later :
    let key : GeneratedCredential := ⟨default, ⟨"memory/A.1.9.partkey"⟩⟩
    let run := ((RenewalAttempt.start ⟨"A"⟩).callAll MemoryStore.store.recorded
      [.generated key, .failed (.poolRejected ⟨"T"⟩ "overspend")] : Action _ RenewalError _).run
        (.holding key, [])
    ∃ a, run.outcome = .ok a ∧ a.phase.isTerminal ∧ run.state = (.holding key, []) ∧
      let final := ((a.callAll MemoryStore.store.recorded
        [.failed (.registrationFailed ⟨"A"⟩ none (.rejected "wallet locked"))] :
          Action _ RenewalError _).run run.state).state
      final.2 = [key.handle] ∧ final.1.deleted = [key.handle] ∧
        final.1.credentials.toList = [] := by
  intro key run
  exact ⟨_, rfl, rfl, rfl, by decide +kernel⟩

end KeyRenewal
