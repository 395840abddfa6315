import KeyRenewal.Proofs.Answered
import KeyRenewal.Proofs.Handovers

/-!
# Safe windows

The window check keeps its promise up to the last representable round: although rounds stop there
instead of wrapping, no transaction window that passes the check has been cut short. Every
transaction a renewal or a batch hands over, accepted or not, is valid from the round of the one
snapshot for exactly one lifetime, and ends before the credential it registers.
-/

namespace KeyRenewal

variable {σ : Type}

theorem checkWindow_ok_iff (current requested : Round) (life : UInt64) :
    checkWindow current requested life = .ok () ↔
      current.number.toNat + life.toNat < requested.number.toNat := by
  have bounded := requested.number_lt
  have advanced := Round.toNat_advance current life
  constructor
  · intro passed
    have window := Round.lt_iff.mp (checkWindow_ok passed)
    omega
  · intro window
    unfold checkWindow
    rw [if_neg]
    rw [Round.not_le, Round.lt_iff]
    omega

/-- A go-online transaction that is valid for one whole lifetime from the snapshot on, and whose
credential is valid from the snapshot to the horizon and outlives it. -/
structure SafeWindow (snapshot : RoundSnapshot) (horizon : Round) (t : StatusTransaction) :
    Prop where
  first : t.firstValid = snapshot.currentRound
  last : t.lastValid.number.toNat =
    snapshot.currentRound.number.toNat + snapshot.parameters.maxTxnLife.toNat
  nonempty : t.firstValid < t.lastValid
  registers : ∃ registration, t.registration = some registration ∧
    registration.voteFirst = snapshot.currentRound ∧ registration.voteLast = horizon ∧
    t.lastValid < registration.voteLast

theorem RenewalPlan.Valid.safeWindow {p : RenewalPlan} (valid : p.Valid) :
    SafeWindow p.snapshot p.horizon p.transaction := by
  have window := Round.lt_iff.mp valid.window
  have bounded := p.horizon.number_lt
  have advanced := Round.toNat_advance p.snapshot.currentRound p.snapshot.parameters.maxTxnLife
  have lifetime : 0 < p.snapshot.parameters.maxTxnLife.toNat :=
    Nat.pos_of_ne_zero fun none => valid.lifetime (UInt64.toNat_inj.mp none)
  have last : p.transaction.lastValid.number.toNat =
      p.snapshot.currentRound.number.toNat + p.snapshot.parameters.maxTxnLife.toNat :=
    advanced.trans (by omega)
  refine ⟨rfl, last, ?_, _, rfl, rfl, rfl, valid.window⟩
  rw [Round.lt_iff, last]
  exact Nat.lt_add_of_pos_right lifetime

open KeyRenewal.Action (RecordedAs)

namespace Station

/-- What the runs from a state may hand over: transactions that are safe on the snapshot taken
there. -/
def SafeHandover (s : Station σ) (st : σ) (protocols : ProtocolRegistry) (horizon : Round)
    (handover : Handover) : Prop :=
  ∃ snapshot, (s.bench.get st).ledger.snapshot protocols = .ok snapshot ∧
    handover.Carries (SafeWindow snapshot horizon)

variable (s : Station σ) (protocols : ProtocolRegistry) (config : EngineConfig)

variable {s protocols} in
/-- Plans that share a horizon have safe transactions. -/
theorem Planned.safe {st : σ} {plan : RoundSnapshot → Address → RenewalPlan} {horizon : Round}
    {handover : Handover} (planned : s.Planned st protocols plan handover)
    (terms : ∀ snapshot address, (plan snapshot address).snapshot = snapshot ∧
      (plan snapshot address).horizon = horizon) :
    s.SafeHandover st protocols horizon handover := by
  obtain ⟨snapshot, taken, carries⟩ := planned
  refine ⟨snapshot, taken, carries.mono ?_⟩
  rintro t ⟨address, valid, rfl⟩
  obtain ⟨sameSnapshot, sameHorizon⟩ := terms snapshot address
  have safe := valid.safeWindow
  rwa [sameSnapshot, sameHorizon] at safe

theorem runSingleRenewal_recorded (request : RenewalRequest) (st : σ) :
    RecordedAs (s.SafeHandover st protocols request.lastValid)
      ((s.engine protocols config).recorded.runSingleRenewal request)
      ((s.engine protocols config).runSingleRenewal request) st := by
  have handed := s.runSingleRenewal_handsOver (fun _ => false) protocols config st request
  rw [engineDroppedIn_never] at handed
  exact handed.mono fun _ planned => planned.safe fun _ _ => ⟨rfl, rfl⟩

theorem runBatchRenewal_recorded (request : BatchRequest) (st : σ) :
    RecordedAs (s.SafeHandover st protocols request.lastValid)
      ((s.engine protocols config).recorded.runBatchRenewal request)
      ((s.engine protocols config).runBatchRenewal request) st := by
  have handed := s.runBatchRenewal_handsOver (fun _ => false) protocols config st request
  rw [engineDroppedIn_never] at handed
  exact handed.mono fun _ planned => planned.safe fun _ _ => ⟨rfl, rfl⟩

end Station

/-- A run and the same run recorded: all that is handed over is safe on one snapshot, and each
renewal that is answered for was handed over. -/
structure SafelyHandedOver {α : Type} (taken : Outcome RenewalError RoundSnapshot) (horizon : Round)
    (renewals : α → List Renewal) (plain : Run σ RenewalError α)
    (recorded : Run (σ × List Handover) RenewalError α) : Prop where
  outcome : recorded.outcome = plain.outcome
  state : recorded.state.1 = plain.state
  handovers : recorded.state.2 = [] ∨ ∃ snapshot, taken = .ok snapshot ∧
    ∀ handover ∈ recorded.state.2, handover.Carries (SafeWindow snapshot horizon)
  answered : ∀ answer, plain.outcome = .ok answer →
    ∀ renewal ∈ renewals answer, HandedOver recorded.state.2 renewal

theorem Action.RecordedAs.safelyHandedOver {α : Type} {s : Station σ} {st : σ}
    {protocols : ProtocolRegistry} {config : EngineConfig} {horizon : Round}
    {renewals : α → List Renewal} {recorded : Action (σ × List Handover) RenewalError α}
    {plain : Action σ RenewalError α}
    (same : RecordedAs (s.SafeHandover st protocols horizon) recorded plain st)
    (handed : ∀ answer s', recorded.effect (st, []) = (.ok answer, s') →
      ∀ renewal ∈ renewals answer, HandedOver s'.2 renewal) :
    SafelyHandedOver ((s.engine protocols config).snapshot.run st).outcome horizon renewals
      (plain.run st) (recorded.run (st, [])) := by
  obtain ⟨added, ends, safe⟩ := same []
  obtain ⟨outcome, state⟩ := Action.run_of_effect ends
  refine ⟨outcome, congrArg Prod.fst state, ?_, ?_⟩
  · have looked : ((s.engine protocols config).snapshot.run st).outcome =
        .ofExcept ((s.bench.get st).ledger.snapshot protocols) :=
      congrArg Prod.fst (s.effect_snapshot st protocols config)
    rw [state, looked, List.nil_append]
    cases added with
    | nil => exact Or.inl rfl
    | cons first rest =>
      -- every entry has a snapshot of its own so far; they are all the one that was taken
      obtain ⟨snapshot, taken, -⟩ := safe first List.mem_cons_self
      refine Or.inr ⟨snapshot, by rw [taken]; rfl, ?_⟩
      intro handover there
      obtain ⟨snapshot', taken', carries⟩ := safe handover there
      cases taken.symm.trans taken'
      exact carries
  · intro answer ended
    exact handed answer _ (Prod.ext (outcome.trans ended) rfl)

/-- Windows are safe at every round: the check is exact, and whatever a renewal or a batch hands to
the wallet or the sink, whether or not it is taken, keeps to the window of its one snapshot. -/
theorem windows_safe (s : Station σ) (protocols : ProtocolRegistry) (config : EngineConfig)
    (st : σ) :
    let engine := s.engine protocols config
    let taken := (engine.snapshot.run st).outcome
    (∀ (current requested : Round) (life : UInt64), checkWindow current requested life = .ok () ↔
      current.number.toNat + life.toNat < requested.number.toNat) ∧
    (∀ request, SafelyHandedOver taken request.lastValid ([·])
      ((engine.runSingleRenewal request).run st)
      ((engine.recorded.runSingleRenewal request).run (st, []))) ∧
    ∀ request, SafelyHandedOver taken request.lastValid BatchReport.renewals
      ((engine.runBatchRenewal request).run st)
      ((engine.recorded.runBatchRenewal request).run (st, [])) := by
  intro engine taken
  refine ⟨checkWindow_ok_iff, fun request => ?_, fun request => ?_⟩
  · refine (s.runSingleRenewal_recorded protocols config request st).safelyHandedOver ?_
    intro answer s' ends renewal same
    cases List.mem_singleton.mp same
    exact Engine.runSingleRenewal_handed ends
  · refine (s.runBatchRenewal_recorded protocols config request st).safelyHandedOver ?_
    exact fun answer s' ends => Engine.runBatchRenewal_handed ends

/-- A window that ends right before the last round is not cut short; the wallet refuses the
transaction, and it is recorded all the same. -/
example :
    let bench := { Bench.refusing with ledger := { Bench.refusing.ledger with
      round := ⟨0xFFFFFFFFFFFFFC16⟩ } }
    (((World.station.engine .testRules {}).recorded.runSingleRenewal
      ⟨⟨"A"⟩, .last, none, none, none, none⟩).run (.ofBench bench, [])).state.2.map (fun
        | .signed t => (t.firstValid, t.lastValid)
        | .written .. => (.zero, .zero)) = [(⟨0xFFFFFFFFFFFFFC16⟩, ⟨0xFFFFFFFFFFFFFFFE⟩)] := by
  decide +kernel

end KeyRenewal
