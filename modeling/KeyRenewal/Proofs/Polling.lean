import KeyRenewal.Proofs.Recording

/-!
# Watching a transaction

While a transaction is watched the ledger is asked in turn about the pool and for the next round.
Its answers are arbitrary here. The exchanges are written down beside the state, and what they look
like is an invariant of the turns: one turn is a step of `Watch`, and a course of `Watch` has every
property that `Watched` lists. A watch with more turns only goes on where a shorter one was cut off.
-/

namespace KeyRenewal

open Logging (Entry Notice)

variable {σ ρ ε α : Type}

/-- A call made while a transaction is watched, and how it ended. -/
inductive Exchange
  | queried (txId : TxId) (answer : Outcome ServiceError PendingStatus)
  | waited (target : Round) (answer : Outcome ServiceError NodeStatus)
deriving DecidableEq

namespace Exchange

def isQuery : Exchange → Bool
  | queried .. => true
  | waited .. => false

/-- The round waited for. -/
def target? : Exchange → Option Round
  | queried .. => none
  | waited target _ => some target

end Exchange

/-- The rounds waited for, in order. -/
def targets (calls : List Exchange) : List Round := calls.filterMap Exchange.target?

@[simp]
theorem targets_nil : targets [] = [] := rfl

@[simp]
theorem targets_queried (txId : TxId) (answer : Outcome ServiceError PendingStatus)
    (calls : List Exchange) : targets (.queried txId answer :: calls) = targets calls := rfl

@[simp]
theorem targets_waited (target : Round) (answer : Outcome ServiceError NodeStatus)
    (calls : List Exchange) : targets (.waited target answer :: calls) = target :: targets calls :=
  rfl

/-- Run an action beside a record and write down how it ended. What it logs itself is left out. -/
def Action.answering (entry : Outcome ε α → ρ) (a : Action σ ε α) :
    Action (σ × List ρ) ε α := fun s =>
  let r := a s.1
  ⟨r.outcome, (r.state, s.2 ++ [entry r.outcome]), []⟩

@[simp]
theorem Action.run_answering (entry : Outcome ε α → ρ) (a : Action σ ε α) (s : σ × List ρ) :
    (a.answering entry).run s =
      ⟨(a.run s.1).outcome, ((a.run s.1).state, s.2 ++ [entry (a.run s.1).outcome]), []⟩ := rfl

/-- The same ledger, with a record of what it is asked while it is watched and what it answers. All
that is logged beside such a ledger comes from who watches it. -/
def Ledger.transcribed (l : Ledger σ) : Ledger (σ × List Exchange) :=
  { l.focus .unrecorded with
    pendingTransaction := fun txId => (l.pendingTransaction txId).answering (.queried txId)
    waitForRound := fun round => (l.waitForRound round).answering (.waited round) }

/-- A ledger that logs nothing itself while it is watched. -/
structure Ledger.Silent (l : Ledger σ) : Prop where
  query : ∀ txId s, ((l.pendingTransaction txId).run s).log = []
  wait : ∀ round s, ((l.waitForRound round).run s).log = []

/-- A full log is what the watcher logs together with what the ledger adds. -/
structure Ledger.AddsTo (l : Ledger σ) (own full : List Entry) : Prop where
  kept : own.Sublist full
  silent : l.Silent → full = own

namespace Ledger.AddsTo

variable {l : Ledger σ} {own own' full full' : List Entry}

theorem refl (own : List Entry) : l.AddsTo own own := ⟨.refl own, fun _ => rfl⟩

theorem append (first : l.AddsTo own full) (second : l.AddsTo own' full') :
    l.AddsTo (own ++ own') (full ++ full') :=
  ⟨first.kept.append second.kept, fun quiet => by rw [first.silent quiet, second.silent quiet]⟩

theorem query (l : Ledger σ) (txId : TxId) (s : σ) :
    l.AddsTo [] ((l.pendingTransaction txId).run s).log :=
  ⟨List.nil_sublist _, fun quiet => quiet.query txId s⟩

theorem wait (l : Ledger σ) (round : Round) (s : σ) :
    l.AddsTo [] ((l.waitForRound round).run s).log :=
  ⟨List.nil_sublist _, fun quiet => quiet.wait round s⟩

end Ledger.AddsTo

/-- The same ledger, looked at for as many waits as given. -/
def Ledger.withPatience (l : Ledger σ) (patience : Nat) : Ledger σ :=
  { l with patience := fun _ => patience }

namespace PendingStatus

/-- Neither confirmed nor rejected. -/
def Undecided (status : PendingStatus) : Prop :=
  status.confirmedRound = .zero ∧ status.poolError = ""

variable {status : PendingStatus}

theorem isConfirmed_iff : status.isConfirmed = true ↔ status.confirmedRound ≠ .zero := by
  rcases status with ⟨⟨number⟩, _⟩
  simp [isConfirmed, Round.isZero, Round.zero]

theorem isRejected_iff : status.isRejected = true ↔ status.poolError ≠ "" := by
  simp [isRejected]

end PendingStatus

/-- How a watch ends with its last exchange, and what is logged then. -/
inductive Ending (txId : TxId) : Exchange → Outcome RenewalError Round → List Entry → Prop
  | confirmed (status : PendingStatus) (decided : status.confirmedRound ≠ .zero) :
    Ending txId (.queried txId (.ok status)) (.ok status.confirmedRound)
      [⟨.confirmed txId status.confirmedRound, []⟩]
  | rejected (status : PendingStatus) (unconfirmed : status.confirmedRound = .zero)
      (decided : status.poolError ≠ "") :
    Ending txId (.queried txId (.ok status)) (.error (.poolRejected txId status.poolError))
      [⟨.poolRejected txId status.poolError, []⟩]
  | queryFailed (e : ServiceError) :
    Ending txId (.queried txId (.error e)) (.error (.queryFailed e)) []
  | queryHangs : Ending txId (.queried txId .blocked) .blocked []
  | waitFailed (target : Round) (e : ServiceError) :
    Ending txId (.waited target (.error e)) (.error (.queryFailed e)) []
  | waitHangs (target : Round) : Ending txId (.waited target .blocked) .blocked []

/-- The courses that watching a transaction can take from a round on, with a number of turns left:
the exchanges in order, how it ends, and what is logged. -/
inductive Watch (txId : TxId) :
    Nat → Round → List Exchange → Outcome RenewalError Round → List Entry → Prop
  | cutOff (round : Round) : Watch txId 0 round [] .blocked []
  | atQuery {turns : Nat} {round : Round} {answer : Outcome ServiceError PendingStatus}
      {outcome : Outcome RenewalError Round} {log : List Entry}
      (ending : Ending txId (.queried txId answer) outcome log) :
    Watch txId (turns + 1) round [.queried txId answer] outcome log
  | atWait {turns : Nat} {round : Round} {status : PendingStatus}
      {answer : Outcome ServiceError NodeStatus} {outcome : Outcome RenewalError Round}
      {log : List Entry} (pending : status.Undecided)
      (ending : Ending txId (.waited round.next answer) outcome log) :
    Watch txId (turns + 1) round [.queried txId (.ok status), .waited round.next answer] outcome
      (⟨.stillPending txId round, []⟩ :: log)
  | again {turns : Nat} {round : Round} {status : PendingStatus} {seen : NodeStatus}
      {calls : List Exchange} {outcome : Outcome RenewalError Round} {log : List Entry}
      (pending : status.Undecided)
      (later : Watch txId turns (max seen.lastRound round.next) calls outcome log) :
    Watch txId (turns + 1) round
      (.queried txId (.ok status) :: .waited round.next (.ok seen) :: calls) outcome
      (⟨.stillPending txId round, []⟩ :: log)

/-- A watch is cut off when its last wait is answered and no turn is left. -/
def CutOff (calls : List Exchange) : Prop :=
  ∃ target seen, calls.getLast? = some (.waited target (.ok seen))

/-- Logged by a turn that comes to no decision. -/
def stillPending (entry : Entry) : Bool := entry.notice matches .stillPending ..

namespace Watch

variable {txId : TxId} {turns : Nat} {round : Round} {calls : List Exchange}
  {outcome : Outcome RenewalError Round} {log : List Entry}

/-- Queries stand at the even places, waits at the odd ones. -/
theorem alternates (watch : Watch txId turns round calls outcome log) {i : Nat}
    {exchange : Exchange} (there : calls[i]? = some exchange) :
    exchange.isQuery = true ↔ i % 2 = 0 := by
  induction watch generalizing i with
  | cutOff => simp at there
  | atQuery ending =>
    match i, there with
    | 0, there => cases there; simp [Exchange.isQuery]
  | atWait pending ending =>
    match i, there with
    | 0, there => cases there; simp [Exchange.isQuery]
    | 1, there => cases there; simp [Exchange.isQuery]
  | again pending later ih =>
    match i, there with
    | 0, there => cases there; simp [Exchange.isQuery]
    | 1, there => cases there; simp [Exchange.isQuery]
    | i + 2, there => simpa using ih there

theorem queried_same (watch : Watch txId turns round calls outcome log) {id : TxId}
    {answer : Outcome ServiceError PendingStatus} (there : .queried id answer ∈ calls) :
    id = txId := by
  induction watch with
  | cutOff => exact absurd there List.not_mem_nil
  | atQuery ending =>
    cases List.mem_singleton.mp there
    rfl
  | atWait pending ending =>
    rcases List.mem_cons.mp there with same | there
    · cases same
      rfl
    · exact absurd (List.mem_singleton.mp there) (by simp)
  | again pending later ih =>
    rcases List.mem_cons.mp there with same | there
    · cases same
      rfl
    · exact ih (List.mem_of_ne_of_mem (by simp) there)

/-- The first wait is for the round after the one watched from. -/
theorem first_target (watch : Watch txId turns round calls outcome log) {target : Round}
    {answer : Outcome ServiceError NodeStatus} (there : calls[1]? = some (.waited target answer)) :
    target = round.next := by
  cases watch with
  | cutOff | atQuery => simp at there
  | atWait pending ending =>
    cases there
    rfl
  | again pending later =>
    cases there
    rfl

/-- Each later wait is for the round after the later one of what the wait before it was for and
what it reported. -/
theorem next_target (watch : Watch txId turns round calls outcome log) {i : Nat}
    {target target' : Round} {answer answer' : Outcome ServiceError NodeStatus}
    (there : calls[i]? = some (.waited target answer))
    (after : calls[i + 2]? = some (.waited target' answer')) :
    ∃ seen, answer = .ok seen ∧ target' = (max target seen.lastRound).next := by
  induction watch generalizing i with
  | cutOff => simp at there
  | atQuery | atWait => simp at after
  | @again _ _ _ seen _ _ _ pending later ih =>
    match i, there with
    | 1, there =>
      cases there
      refine ⟨seen, rfl, ?_⟩
      rw [Round.max_comm]
      exact later.first_target after
    | i + 2, there => exact ih there after

/-- No wait is for a round before the first one. -/
theorem next_le_target (watch : Watch txId turns round calls outcome log) {target : Round}
    (there : target ∈ targets calls) : round.next ≤ target := by
  induction watch with
  | cutOff | atQuery => exact absurd there List.not_mem_nil
  | atWait pending ending => exact Round.le_of_eq (List.mem_singleton.mp there).symm
  | again pending later ih =>
    rcases List.mem_cons.mp there with rfl | there
    · exact Round.le_refl _
    · exact Round.le_trans (Round.le_trans (Round.le_max_right _ _) (Round.le_advance _ 1))
        (ih there)

/-- The rounds waited for grow strictly until they reach the last one. -/
theorem targets_grow (watch : Watch txId turns round calls outcome log) :
    (targets calls).Pairwise fun t t' => t < t' ∨ t = .last ∧ t' = .last := by
  induction watch with
  | cutOff | atQuery => exact .nil
  | atWait => exact List.pairwise_singleton _ _
  | again pending later ih =>
    refine List.pairwise_cons.mpr ⟨fun target there => ?_, ih⟩
    exact Round.lt_or_last_of_next_le
      (Round.le_trans (Round.next_mono (Round.le_max_right _ _)) (later.next_le_target there))

/-- Every status but one of the last exchange left the transaction pending. -/
theorem undecided (watch : Watch txId turns round calls outcome log) {id : TxId}
    {status : PendingStatus} (earlier : .queried id (.ok status) ∈ calls.dropLast) :
    status.Undecided := by
  induction watch with
  | cutOff | atQuery => exact absurd earlier List.not_mem_nil
  | atWait pending ending =>
    cases List.mem_singleton.mp earlier
    exact pending
  | @again _ _ _ _ calls _ _ pending later ih =>
    cases calls with
    | nil =>
      cases List.mem_singleton.mp earlier
      exact pending
    | cons call rest =>
      rcases List.mem_cons.mp earlier with same | earlier
      · cases same
        exact pending
      · exact ih (List.mem_of_ne_of_mem (by simp) earlier)

/-- A turn is logged as still pending exactly if it goes on to wait. -/
theorem logged (watch : Watch txId turns round calls outcome log) :
    log.countP stillPending = (targets calls).length := by
  induction watch with
  | cutOff => rfl
  | atQuery ending => cases ending <;> rfl
  | atWait pending ending => cases ending <;> rfl
  | again pending later ih =>
    rw [List.countP_cons_of_pos rfl, ih]
    rfl

/-- A watch with a turn left ends with its last exchange, or is cut off after as many waits. -/
theorem ending (watch : Watch txId turns round calls outcome log) (turn : turns ≠ 0) :
    ∃ last, calls.getLast? = some last ∧
      ((∃ shown, Ending txId last outcome shown) ∨
        outcome = .blocked ∧ (targets calls).length = turns ∧
          ∃ target seen, last = .waited target (.ok seen)) := by
  induction watch with
  | cutOff => exact absurd rfl turn
  | atQuery ending => exact ⟨_, rfl, .inl ⟨_, ending⟩⟩
  | atWait pending ending => exact ⟨_, rfl, .inl ⟨_, ending⟩⟩
  | @again turns _ _ _ _ _ _ pending later ih =>
    cases turns with
    | zero =>
      cases later
      exact ⟨_, rfl, .inr ⟨rfl, rfl, _, _, rfl⟩⟩
    | succ turns =>
      obtain ⟨last, isLast, ends⟩ := ih (Nat.succ_ne_zero _)
      refine ⟨last, by simp [List.getLast?_cons, isLast], ends.imp_right ?_⟩
      rintro ⟨blocked, waits, out⟩
      exact ⟨blocked, congrArg (· + 1) waits, out⟩

end Watch

namespace Ledger

variable (ledger : Ledger σ) (txId : TxId)

/-- One turn: either it ends the watch, however many turns are left, or it queries and waits and
leaves the rest to the turns left. Writing down the exchanges makes no other difference. -/
theorem watch_turn (round : Round) (st : σ) :
    (∃ calls outcome log st' fullLog, ledger.AddsTo log fullLog ∧ ∀ turns,
      Watch txId (turns + 1) round calls outcome log ∧
      (ledger.watch txId (turns + 1) round).run st = ⟨outcome, st', fullLog⟩ ∧
      ∀ record, (ledger.transcribed.watch txId (turns + 1) round).run (st, record) =
        ⟨outcome, (st', record ++ calls), log⟩) ∨
    ∃ status seen st' fullLog, status.Undecided ∧
      ledger.AddsTo [⟨.stillPending txId round, []⟩] fullLog ∧ ∀ turns,
      (let later := (ledger.watch txId turns (max seen.lastRound round.next)).run st'
       (ledger.watch txId (turns + 1) round).run st =
        ⟨later.outcome, later.state, fullLog ++ later.log⟩) ∧
      ∀ record,
        let later := (ledger.transcribed.watch txId turns (max seen.lastRound round.next)).run
          (st', record ++ [.queried txId (.ok status), .waited round.next (.ok seen)])
        (ledger.transcribed.watch txId (turns + 1) round).run (st, record) =
          ⟨later.outcome, later.state, ⟨.stillPending txId round, []⟩ :: later.log⟩ := by
  have asking := AddsTo.query ledger txId st
  rcases asked : (ledger.pendingTransaction txId).run st with ⟨status | e | _, st', log⟩ <;>
    rw [asked] at asking
  · by_cases confirmed : status.isConfirmed = true
    · refine .inl ⟨_, _, _, st', _, asking.append (.refl _), fun turns =>
        ⟨.atQuery (.confirmed status (status.isConfirmed_iff.mp confirmed)), ?_,
          fun record => ?_⟩⟩
      · simp [watch, Action.run_bind, asked, confirmed]
      · simp [watch, Action.run_bind, transcribed, asked, confirmed]
    have unconfirmed : status.confirmedRound = .zero :=
      Decidable.not_not.mp (mt status.isConfirmed_iff.mpr confirmed)
    by_cases rejected : status.isRejected = true
    · refine .inl ⟨_, _, _, st', _, asking.append (.refl _), fun turns =>
        ⟨.atQuery (.rejected status unconfirmed (status.isRejected_iff.mp rejected)), ?_,
          fun record => ?_⟩⟩
      · simp [watch, Action.run_bind, asked, confirmed, rejected]
      · simp [watch, Action.run_bind, transcribed, asked, confirmed, rejected]
    have pending : status.Undecided :=
      ⟨unconfirmed, Decidable.not_not.mp (mt status.isRejected_iff.mpr rejected)⟩
    have both := (asking.append (.refl [⟨.stillPending txId round, []⟩])).append
      (AddsTo.wait ledger round.next st')
    rcases waited : (ledger.waitForRound round.next).run st' with ⟨seen | e | _, st'', log'⟩ <;>
      rw [waited] at both
    · refine .inr ⟨status, seen, st'', _, pending, both, fun turns => ⟨?_, fun record => ?_⟩⟩
      · simp [watch, Action.run_bind, asked, confirmed, rejected, waited]
      · simp [watch, Action.run_bind, transcribed, asked, confirmed, rejected, waited]
    · refine .inl ⟨_, _, _, st'', _, both, fun turns =>
        ⟨.atWait pending (.waitFailed _ e), ?_, fun record => ?_⟩⟩
      · simp [watch, Action.run_bind, asked, confirmed, rejected, waited]
      · simp [watch, Action.run_bind, transcribed, asked, confirmed, rejected, waited]
    · refine .inl ⟨_, _, _, st'', _, both, fun turns =>
        ⟨.atWait pending (.waitHangs _), ?_, fun record => ?_⟩⟩
      · simp [watch, Action.run_bind, asked, confirmed, rejected, waited]
      · simp [watch, Action.run_bind, transcribed, asked, confirmed, rejected, waited]
  · refine .inl ⟨_, _, _, st', _, asking, fun turns =>
      ⟨.atQuery (.queryFailed e), ?_, fun record => ?_⟩⟩
    · simp [watch, Action.run_bind, asked]
    · simp [watch, Action.run_bind, transcribed, asked]
  · refine .inl ⟨_, _, _, st', _, asking, fun turns =>
      ⟨.atQuery .queryHangs, ?_, fun record => ?_⟩⟩
    · simp [watch, Action.run_bind, asked]
    · simp [watch, Action.run_bind, transcribed, asked]

/-- A watch takes one of the courses of `Watch`, and writing down its exchanges makes no other
difference to it. -/
theorem watch_course (turns : Nat) (round : Round) (st : σ) (record : List Exchange) :
    let plain := (ledger.watch txId turns round).run st
    let written := (ledger.transcribed.watch txId turns round).run (st, record)
    ∃ calls, written.outcome = plain.outcome ∧ written.state = (plain.state, record ++ calls) ∧
      ledger.AddsTo written.log plain.log ∧
      Watch txId turns round calls written.outcome written.log := by
  induction turns generalizing round st record with
  | zero => exact ⟨[], rfl, by rw [List.append_nil]; rfl, .refl _, .cutOff round⟩
  | succ turns ih =>
    rcases ledger.watch_turn txId round st with ⟨calls, outcome, log, st', fullLog, adds, ends⟩ |
      ⟨status, seen, st', fullLog, pending, adds, goesOn⟩
    · obtain ⟨course, plainly, noted⟩ := ends turns
      rw [plainly, noted record]
      exact ⟨calls, rfl, rfl, adds, course⟩
    · obtain ⟨plainly, noted⟩ := goesOn turns
      rw [plainly, noted record]
      obtain ⟨calls, same, left, addsLater, course⟩ := ih (max seen.lastRound round.next) st'
        (record ++ [.queried txId (.ok status), .waited round.next (.ok seen)])
      refine ⟨_, same, ?_, adds.append addsLater, .again pending course⟩
      rw [left, List.append_assoc]
      rfl

/-- With more turns a watch makes the same exchanges and only then others, if it was cut off. -/
theorem watch_longer (turns more : Nat) (round : Round) (s : σ × List Exchange) :
    let shorter := (ledger.transcribed.watch txId turns round).run s
    let longer := (ledger.transcribed.watch txId (turns + more) round).run s
    ∃ calls later, shorter.state.2 = s.2 ++ calls ∧ longer.state.2 = s.2 ++ calls ++ later ∧
      (longer = shorter ∨ calls = [] ∨ CutOff calls) := by
  induction turns generalizing round s with
  | zero =>
    obtain ⟨later, -, left, -⟩ := ledger.watch_course txId (0 + more) round s.1 s.2
    exact ⟨[], later, (List.append_nil _).symm, by rw [left, List.append_nil], .inr (.inl rfl)⟩
  | succ turns ih =>
    rw [Nat.add_right_comm]
    rcases ledger.watch_turn txId round s.1 with ⟨calls, outcome, log, st', fullLog, -, ends⟩ |
      ⟨status, seen, st', fullLog, -, -, goesOn⟩
    · rw [(ends turns).2.2 s.2, (ends (turns + more)).2.2 s.2]
      exact ⟨calls, [], rfl, (List.append_nil _).symm, .inl rfl⟩
    · rw [(goesOn turns).2 s.2, (goesOn (turns + more)).2 s.2]
      obtain ⟨calls, later, left, leftLater, same⟩ := ih (max seen.lastRound round.next)
        (st', s.2 ++ [.queried txId (.ok status), .waited round.next (.ok seen)])
      refine ⟨.queried txId (.ok status) :: .waited round.next (.ok seen) :: calls, later, ?_, ?_,
        ?_⟩
      · simp [left]
      · simp [leftLater]
      · rcases same with same | rfl | ⟨target, last, isLast⟩
        · exact .inl (by rw [same])
        · exact .inr (.inr ⟨_, _, rfl⟩)
        · exact .inr (.inr ⟨target, last, by simp [List.getLast?_cons, isLast]⟩)

/-- Watching does not depend on how patiently it is looked at. -/
theorem watch_withPatience (patience turns : Nat) (round : Round) :
    (ledger.withPatience patience).transcribed.watch txId turns round =
      ledger.transcribed.watch txId turns round := by
  induction turns generalizing round with
  | zero => rfl
  | succ turns ih =>
    unfold watch
    simp only [ih]
    rfl

theorem awaitConfirmation_run (start : Round) (st : σ) :
    (ledger.awaitConfirmation txId start).run st =
      (ledger.watch txId (ledger.patience st + 1) start).run st := rfl

end Ledger

/-- What can be relied on when a transaction is watched from a round on, however the ledger answers:
which calls are made, how it ends and what is logged. -/
structure Watched (txId : TxId) (start : Round) (patience : Nat) (calls : List Exchange)
    (outcome : Outcome RenewalError Round) (log : List Entry) : Prop where
  asks : calls ≠ []
  alternates : ∀ i exchange, calls[i]? = some exchange → (exchange.isQuery = true ↔ i % 2 = 0)
  asksSame : ∀ id answer, .queried id answer ∈ calls → id = txId
  firstTarget : ∀ target answer, calls[1]? = some (.waited target answer) → target = start.next
  nextTarget : ∀ i target answer target' answer', calls[i]? = some (.waited target answer) →
    calls[i + 2]? = some (.waited target' answer') →
      ∃ seen, answer = .ok seen ∧ target' = (max target seen.lastRound).next
  targetsGrow : (targets calls).Pairwise fun t t' => t < t' ∨ t = .last ∧ t' = .last
  confirmed : ∀ round, outcome = .ok round ↔ round ≠ .zero ∧
    ∃ status, calls.getLast? = some (.queried txId (.ok status)) ∧ status.confirmedRound = round
  rejected : ∀ id reason, outcome = .error (.poolRejected id reason) ↔
    id = txId ∧ reason ≠ "" ∧ ∃ status, calls.getLast? = some (.queried txId (.ok status)) ∧
      status.confirmedRound = .zero ∧ status.poolError = reason
  failed : ∀ e, outcome = .error (.queryFailed e) ↔
    calls.getLast? = some (.queried txId (.error e)) ∨
      ∃ target, calls.getLast? = some (.waited target (.error e))
  failures : ∀ error, outcome = .error error →
    (∃ reason, error = .poolRejected txId reason) ∨ ∃ e, error = .queryFailed e
  blocked : outcome = .blocked ↔ CutOff calls ∨ calls.getLast? = some (.queried txId .blocked) ∨
    ∃ target, calls.getLast? = some (.waited target .blocked)
  cutOff : CutOff calls → (targets calls).length = patience + 1
  undecided : ∀ id status, .queried id (.ok status) ∈ calls.dropLast → status.Undecided
  logged : log.countP stillPending = (targets calls).length

namespace Watch

variable {txId : TxId} {patience : Nat} {start : Round} {calls : List Exchange}
  {outcome : Outcome RenewalError Round} {log : List Entry}

/-- A watch confirms what its last status confirms, even beside an error of the pool. -/
theorem confirmed_iff (watch : Watch txId (patience + 1) start calls outcome log)
    (round : Round) :
    outcome = .ok round ↔ round ≠ .zero ∧
      ∃ status, calls.getLast? = some (.queried txId (.ok status)) ∧
        status.confirmedRound = round := by
  obtain ⟨last, isLast, ⟨_, ends⟩ | ⟨rfl, -, _, _, rfl⟩⟩ := watch.ending (Nat.succ_ne_zero _)
  · cases ends with
    | confirmed status decided =>
      constructor
      · rintro ⟨⟩
        exact ⟨decided, status, isLast, rfl⟩
      · rintro ⟨-, status', isLast', rfl⟩
        cases isLast.symm.trans isLast'
        rfl
    | rejected status unconfirmed decided =>
      refine ⟨nofun, ?_⟩
      rintro ⟨decided', status', isLast', rfl⟩
      cases isLast.symm.trans isLast'
      exact absurd unconfirmed decided'
    | _ => simp [isLast]
  · simp [isLast]

/-- A watch is rejected exactly if its last status is unconfirmed and carries the reason. -/
theorem rejected_iff (watch : Watch txId (patience + 1) start calls outcome log) (id : TxId)
    (reason : String) :
    outcome = .error (.poolRejected id reason) ↔ id = txId ∧ reason ≠ "" ∧
      ∃ status, calls.getLast? = some (.queried txId (.ok status)) ∧
        status.confirmedRound = .zero ∧ status.poolError = reason := by
  obtain ⟨last, isLast, ⟨_, ends⟩ | ⟨rfl, -, _, _, rfl⟩⟩ := watch.ending (Nat.succ_ne_zero _)
  · cases ends with
    | confirmed status decided =>
      refine ⟨nofun, ?_⟩
      rintro ⟨-, -, status', isLast', unconfirmed, -⟩
      cases isLast.symm.trans isLast'
      exact absurd unconfirmed decided
    | rejected status unconfirmed decided =>
      constructor
      · rintro ⟨⟩
        exact ⟨rfl, decided, status, isLast, unconfirmed, rfl⟩
      · rintro ⟨rfl, -, status', isLast', -, rfl⟩
        cases isLast.symm.trans isLast'
        rfl
    | _ => simp [isLast]
  · simp [isLast]

/-- A watch fails exactly if its last call failed. -/
theorem failed_iff (watch : Watch txId (patience + 1) start calls outcome log)
    (e : ServiceError) :
    outcome = .error (.queryFailed e) ↔ calls.getLast? = some (.queried txId (.error e)) ∨
      ∃ target, calls.getLast? = some (.waited target (.error e)) := by
  obtain ⟨last, isLast, ⟨_, ends⟩ | ⟨rfl, -, _, _, rfl⟩⟩ := watch.ending (Nat.succ_ne_zero _)
  · cases ends <;> simp [isLast]
  · simp [isLast]

/-- A watch has no other failures than these. -/
theorem failures (watch : Watch txId (patience + 1) start calls outcome log)
    (error : RenewalError) (fails : outcome = .error error) :
    (∃ reason, error = .poolRejected txId reason) ∨ ∃ e, error = .queryFailed e := by
  obtain ⟨last, isLast, ⟨_, ends⟩ | ⟨rfl, -⟩⟩ := watch.ending (Nat.succ_ne_zero _)
  · cases ends <;> cases fails
    · exact .inl ⟨_, rfl⟩
    · exact .inr ⟨_, rfl⟩
    · exact .inr ⟨_, rfl⟩
  · cases fails

/-- A watch comes to no end exactly if its last call does not, or if it is cut off. -/
theorem blocked_iff (watch : Watch txId (patience + 1) start calls outcome log) :
    outcome = .blocked ↔ CutOff calls ∨ calls.getLast? = some (.queried txId .blocked) ∨
      ∃ target, calls.getLast? = some (.waited target .blocked) := by
  obtain ⟨last, isLast, ⟨_, ends⟩ | ⟨rfl, -, _, _, rfl⟩⟩ := watch.ending (Nat.succ_ne_zero _)
  · cases ends <;> simp [CutOff, isLast]
  · simp [CutOff, isLast]

theorem waits_of_cutOff (watch : Watch txId (patience + 1) start calls outcome log)
    (cut : CutOff calls) : (targets calls).length = patience + 1 := by
  obtain ⟨target, seen, isTarget⟩ := cut
  obtain ⟨last, isLast, ⟨_, ends⟩ | ⟨-, waits, -⟩⟩ := watch.ending (Nat.succ_ne_zero _)
  · cases isLast.symm.trans isTarget
    cases ends
  · exact waits

theorem watched (watch : Watch txId (patience + 1) start calls outcome log) :
    Watched txId start patience calls outcome log where
  asks := by
    rintro rfl
    cases watch
  alternates _ _ := watch.alternates
  asksSame _ _ := watch.queried_same
  firstTarget _ _ := watch.first_target
  nextTarget _ _ _ _ _ := watch.next_target
  targetsGrow := watch.targets_grow
  confirmed := watch.confirmed_iff
  rejected := watch.rejected_iff
  failed := watch.failed_iff
  failures := watch.failures
  blocked := watch.blocked_iff
  cutOff := watch.waits_of_cutOff
  undecided _ _ := watch.undecided
  logged := watch.logged

end Watch

/-- Whatever a ledger answers, and however patiently it is looked at, a transaction is watched
safely. Writing down the exchanges leaves the watch as it is but for what the ledger itself logs,
and more patience only lets a watch that was cut off go on. -/
theorem watched_safely (ledger : Ledger σ) (txId : TxId) (start : Round) (st : σ) :
    let plain := (ledger.awaitConfirmation txId start).run st
    let written := (ledger.transcribed.awaitConfirmation txId start).run (st, [])
    (written.outcome = plain.outcome ∧ written.state.1 = plain.state ∧
      ledger.AddsTo written.log plain.log) ∧
    Watched txId start (ledger.patience st) written.state.2 written.outcome written.log ∧
    ∀ patience, ledger.patience st ≤ patience →
      let longer :=
        ((ledger.withPatience patience).transcribed.awaitConfirmation txId start).run (st, [])
      written.state.2 <+: longer.state.2 ∧ (longer = written ∨ CutOff written.state.2) := by
  intro plain written
  have plainly : plain = (ledger.watch txId (ledger.patience st + 1) start).run st :=
    ledger.awaitConfirmation_run txId start st
  have noted : written =
      (ledger.transcribed.watch txId (ledger.patience st + 1) start).run (st, []) :=
    ledger.transcribed.awaitConfirmation_run txId start (st, [])
  obtain ⟨calls, same, left, adds, course⟩ :=
    ledger.watch_course txId (ledger.patience st + 1) start st []
  rw [← noted, ← plainly] at same left adds
  rw [← noted] at course
  rw [left, List.nil_append]
  refine ⟨⟨same, rfl, adds⟩, course.watched, fun patience more => ?_⟩
  rw [Ledger.awaitConfirmation_run,
    show (ledger.withPatience patience).transcribed.patience (st, []) + 1 =
      ledger.patience st + 1 + (patience - ledger.patience st) from by
        show patience + 1 = _
        omega,
    ledger.watch_withPatience]
  obtain ⟨calls', later, mine, longer, same'⟩ := ledger.watch_longer txId (ledger.patience st + 1)
    (patience - ledger.patience st) start (st, [])
  rw [← noted] at mine same'
  obtain rfl : calls = calls' := (congrArg Prod.snd left).symm.trans mine
  exact ⟨⟨later, longer.symm⟩, same'.imp_right (Or.resolve_left · course.watched.asks)⟩

end KeyRenewal
