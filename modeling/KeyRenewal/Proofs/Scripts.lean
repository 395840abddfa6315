import KeyRenewal.Proofs.Polling
import KeyRenewal.Proofs.Endings

/-!
# Watching a scripted ledger

How a watch over a scripted ledger goes can be read off its queue. The statuses up to the first one
that decides are taken, each of those before it is followed by a wait, and the rounds waited for are
known in advance: the first depends on where the watch starts, all others on how far the ledger is
by then.
-/

namespace KeyRenewal

namespace Round

/-- The round `n` later, or the last one when there is no such round. -/
def later (r : Round) (n : Nat) : Round := ⟨.ofNat (min (r.number.toNat + n) (UInt64.size - 1))⟩

theorem toNat_later (r : Round) (n : Nat) :
    (r.later n).number.toNat = min (r.number.toNat + n) (UInt64.size - 1) := by
  unfold later
  rw [UInt64.toNat_ofNat', Nat.mod_eq_of_lt]
  simp only [UInt64.size]
  omega

theorem later_zero (r : Round) : r.later 0 = r := by
  have bounded := r.number_lt
  apply toNat_inj.mp
  rw [toNat_later]
  omega

theorem next_later (r : Round) (n : Nat) : r.next.later n = r.later (n + 1) := by
  apply toNat_inj.mp
  rw [toNat_later, toNat_later, toNat_next]
  omega

theorem later_one (r : Round) : r.later 1 = r.next := by
  rw [← next_later, later_zero]

theorem le_later (r : Round) (n : Nat) : r ≤ r.later n := by
  have bounded := r.number_lt
  rw [le_iff, toNat_later]
  omega

end Round

namespace PendingStatus

instance (status : PendingStatus) : Decidable status.Undecided :=
  inferInstanceAs (Decidable (_ ∧ _))

theorem isConfirmed_of_zero {status : PendingStatus} (unconfirmed : status.confirmedRound = .zero) :
    status.isConfirmed = false :=
  Bool.eq_false_iff.mpr (mt status.isConfirmed_iff.mp (not_not.mpr unconfirmed))

theorem isRejected_of_undecided {status : PendingStatus} (pending : status.Undecided) :
    status.isRejected = false :=
  Bool.eq_false_iff.mpr (mt status.isRejected_iff.mp (not_not.mpr pending.2))

/-- What a status that is not undecided says of the transaction. -/
def verdict (txId : TxId) (status : PendingStatus) : Except RenewalError Round :=
  if status.confirmedRound = .zero then .error (.poolRejected txId status.poolError)
  else .ok status.confirmedRound

end PendingStatus

namespace ScriptedLedger

/-- How many statuses stand before the first one that decides. -/
def pendings (l : ScriptedLedger) : Nat := (l.statuses.takeWhile (·.Undecided)).length

/-- The round a watch waits for in its turns, given where the ledger and the watch start. -/
def waitTarget (round start : Round) : Nat → Round
  | 0 => start.next
  | turn + 1 => (max round start.next).later (turn + 1)

/-- The rounds waited for in the first turns. -/
def waitTargets (round start : Round) (turns : Nat) : List Round :=
  (List.range turns).map (waitTarget round start)

/-- Where a ledger stands after waits: at the last round waited for, or where it was if that is
later or nothing was waited for. -/
def reached (round : Round) (targets : List Round) : Round :=
  match targets.getLast? with
  | none => round
  | some target => max round target

/-- The closed form of a watch: with so many statuses pending, what is asked and waited for, where
the ledger is left, and which status the answer is taken from. -/
structure Polled (txId : TxId) (start : Round) (before : ScriptedLedger)
    (outcome : Outcome RenewalError Round) (after : ScriptedLedger) : Prop where
  queried : after.queried = before.queried ++ List.replicate (before.pendings + 1) txId
  waited : after.waited = before.waited ++ waitTargets before.round start before.pendings
  round : after.round = reached before.round (waitTargets before.round start before.pendings)
  statuses : after.statuses = before.statuses.drop (before.pendings + 1)
  answered : outcome = .ofExcept
    ((before.statuses.getD before.pendings (.confirmed after.round.next)).verdict txId)
  settings : after = { before with
    round := after.round
    statuses := after.statuses
    queried := after.queried
    waited := after.waited }

/-- A ledger that answers every call of a watch: no query fails, and a wait, if there is any,
neither fails nor hangs. -/
structure Answers (l : ScriptedLedger) : Prop where
  queries : l.queryFailures = 0
  waits : l.pendings = 0 ∨ l.failWaits = false ∧ l.hangWaits = false

section turn

variable {l : ScriptedLedger} {k : Nat}

theorem pendings_le (l : ScriptedLedger) : l.pendings ≤ l.statuses.length :=
  (List.takeWhile_prefix _).length_le

/-- Where nothing is pending the next status decides. -/
theorem decided_of_pendings (none : l.pendings = 0) (round : Round) :
    ¬ (l.statuses.getD 0 (.confirmed round.next)).Undecided := by
  cases script : l.statuses with
  | nil =>
    rintro ⟨unconfirmed, -⟩
    exact round.number_next_ne_zero (congrArg Round.number unconfirmed)
  | cons status rest =>
    intro pending
    rw [List.getD_cons_zero] at pending
    simp [pendings, script, pending] at none

/-- Where something is pending it is the next status. -/
theorem pending_of_pendings (some : l.pendings = k + 1) :
    ∃ status rest, l.statuses = status :: rest ∧ status.Undecided ∧
      (rest.takeWhile (·.Undecided)).length = k := by
  cases script : l.statuses with
  | nil => simp [pendings, script] at some
  | cons status rest =>
    by_cases pending : status.Undecided
    · refine ⟨status, rest, rfl, pending, ?_⟩
      simpa [pendings, script, pending] using some
    · simp [pendings, script, pending] at some

theorem run_pendingTransaction (answers : l.queryFailures = 0) (txId : TxId) :
    (ledger.pendingTransaction txId).run l =
      ⟨.ok (l.statuses.getD 0 (.confirmed l.round.next)),
        { l with queried := l.queried ++ [txId], statuses := l.statuses.drop 1 }, []⟩ := by
  obtain ⟨_, _, statuses, _, _, _, _, _, _⟩ := l
  cases answers
  cases statuses <;> rfl

theorem run_waitForRound (served : l.failWaits = false) (moves : l.hangWaits = false)
    (round : Round) :
    (ledger.waitForRound round).run l =
      ⟨.ok ⟨max l.round round⟩,
        { l with waited := l.waited ++ [round], round := max l.round round }, []⟩ := by
  obtain ⟨_, _, _, _, _, _, _, _, _⟩ := l
  cases served
  cases moves
  rfl

end turn

/-- The first target aside, a watch waits as if it had started where the first wait has led. -/
theorem waitTarget_succ (round start : Round) (turn : Nat) :
    waitTarget round start (turn + 1) =
      waitTarget (max round start.next) (max round start.next) turn := by
  cases turn with
  | zero => exact Round.later_one _
  | succ turn =>
    rw [waitTarget, waitTarget, Round.max_eq_right (b := Round.next _) (Round.le_advance _ 1),
      Round.next_later]

theorem waitTargets_succ (round start : Round) (turns : Nat) :
    waitTargets round start (turns + 1) =
      start.next :: waitTargets (max round start.next) (max round start.next) turns := by
  unfold waitTargets
  rw [List.range_succ_eq_map, List.map_cons, List.map_map]
  exact congrArg (_ :: ·) (List.map_congr_left fun turn _ => waitTarget_succ round start turn)

theorem le_waitTarget (round : Round) (turn : Nat) : round ≤ waitTarget round round turn := by
  cases turn with
  | zero => exact Round.le_advance _ 1
  | succ turn => exact Round.le_trans (Round.le_max_left _ _) (Round.le_later _ _)

/-- Where the first wait has led the ledger, the others lead it from there. -/
theorem reached_waitTargets_succ (round start : Round) (turns : Nat) :
    reached round (waitTargets round start (turns + 1)) =
      reached (max round start.next)
        (waitTargets (max round start.next) (max round start.next) turns) := by
  unfold reached
  rw [waitTargets_succ, List.getLast?_cons]
  cases last : (waitTargets (max round start.next) (max round start.next) turns).getLast? with
  | none => rfl
  | some target =>
    obtain ⟨turn, -, rfl⟩ := List.mem_map.mp (List.mem_of_getLast? last)
    have ahead := le_waitTarget (max round start.next) turn
    have beyond := Round.le_trans (Round.le_max_left _ _) ahead
    simp only [Option.getD_some, Round.max_eq_right ahead, Round.max_eq_right beyond]

/-- A watch that finds a status that decides is over. -/
theorem Polled.decided {l : ScriptedLedger} (none : l.pendings = 0) (txId : TxId) (start : Round) :
    Polled txId start l
      (.ofExcept ((l.statuses.getD 0 (.confirmed l.round.next)).verdict txId))
      { l with queried := l.queried ++ [txId], statuses := l.statuses.drop 1 } where
  queried := by rw [none]; rfl
  waited := by rw [none]; exact (List.append_nil _).symm
  round := by rw [none]; rfl
  statuses := by rw [none]
  answered := by rw [none]
  settings := rfl

/-- A watch that finds its transaction pending waits once and goes on like one that starts there. -/
theorem Polled.again {l after : ScriptedLedger} {status : PendingStatus}
    {rest : List PendingStatus} {txId : TxId} {start : Round} {outcome : Outcome RenewalError Round}
    (script : l.statuses = status :: rest)
    (pending : l.pendings = (rest.takeWhile (·.Undecided)).length + 1)
    (later : Polled txId (max l.round start.next)
      { l with
        queried := l.queried ++ [txId]
        statuses := rest
        waited := l.waited ++ [start.next]
        round := max l.round start.next } outcome after) :
    Polled txId start l outcome after where
  queried := by
    rw [pending, later.queried, List.replicate_succ, List.append_assoc]
    rfl
  waited := by
    rw [pending, later.waited, waitTargets_succ, List.append_assoc]
    rfl
  round := by
    rw [pending, reached_waitTargets_succ]
    exact later.round
  statuses := by
    rw [pending, script]
    exact later.statuses
  answered := by
    rw [pending, script]
    exact later.answered
  settings := later.settings

/-- A turn that finds a status that decides ends the watch, however many turns are left. -/
theorem watch_decided {l : ScriptedLedger} (queries : l.queryFailures = 0) (txId : TxId)
    (start : Round) {status : PendingStatus}
    (next : l.statuses.getD 0 (.confirmed l.round.next) = status) (decides : ¬ status.Undecided) :
    ∃ log, ∀ turns, (ledger.watch txId (turns + 1) start).run l =
      ⟨.ofExcept (status.verdict txId),
        { l with queried := l.queried ++ [txId], statuses := l.statuses.drop 1 }, log⟩ := by
  have asked := run_pendingTransaction queries txId
  rw [next] at asked
  by_cases unconfirmed : status.confirmedRound = .zero
  · have rejected : status.poolError ≠ "" := fun clear => decides ⟨unconfirmed, clear⟩
    refine ⟨[⟨.poolRejected txId status.poolError, []⟩], fun turns => ?_⟩
    simp [Ledger.watch, Action.run_bind, asked, PendingStatus.isConfirmed_of_zero unconfirmed,
      status.isRejected_iff.mpr rejected, PendingStatus.verdict, unconfirmed]
  · refine ⟨[⟨.confirmed txId status.confirmedRound, []⟩], fun turns => ?_⟩
    simp [Ledger.watch, Action.run_bind, asked, status.isConfirmed_iff.mpr unconfirmed,
      PendingStatus.verdict, unconfirmed]

/-- A turn that finds the transaction pending waits and leaves the rest to the turns left. -/
theorem watch_pending {l : ScriptedLedger} (queries : l.queryFailures = 0)
    (served : l.failWaits = false) (moves : l.hangWaits = false) (txId : TxId) (start : Round)
    {status : PendingStatus} {rest : List PendingStatus} (script : l.statuses = status :: rest)
    (pending : status.Undecided) (turns : Nat) :
    (ledger.watch txId (turns + 1) start).run l =
      let later := (ledger.watch txId turns (max l.round start.next)).run
        { l with
          queried := l.queried ++ [txId]
          statuses := rest
          waited := l.waited ++ [start.next]
          round := max l.round start.next }
      ⟨later.outcome, later.state, ⟨.stillPending txId start, []⟩ :: later.log⟩ := by
  have asked := run_pendingTransaction queries txId
  rw [script, List.getD_cons_zero, List.drop_one, List.tail_cons] at asked
  have waited := run_waitForRound
    (l := { l with queried := l.queried ++ [txId], statuses := rest }) served moves start.next
  have unconfirmed := PendingStatus.isConfirmed_of_zero pending.1
  have clear := PendingStatus.isRejected_of_undecided pending
  have ahead : max (max l.round start.next) start.next = max l.round start.next := by
    rw [Round.max_comm _ start.next]
    exact Round.max_eq_right (Round.le_max_right _ _)
  simp [Ledger.watch, Action.run_bind, asked, unconfirmed, clear, waited, ahead]

/-- A watch with more turns than there are pending statuses goes as the script has it, and further
turns make no difference. -/
theorem watch_polled {l : ScriptedLedger} (answers : l.Answers) (txId : TxId) (start : Round) :
    ∃ r, Polled txId start l r.outcome r.state ∧
      ∀ turns, l.pendings < turns → (ledger.watch txId turns start).run l = r := by
  obtain ⟨queries, waits⟩ := answers
  induction count : l.pendings generalizing l start with
  | zero =>
    obtain ⟨log, ends⟩ :=
      watch_decided queries txId start rfl (decided_of_pendings count l.round)
    refine ⟨⟨_, _, log⟩, .decided count txId start, fun turns some => ?_⟩
    obtain ⟨turns, rfl⟩ := Nat.exists_eq_add_one.mpr some
    exact ends turns
  | succ k ih =>
    obtain ⟨status, rest, script, pending, left⟩ := pending_of_pendings count
    obtain ⟨served, moves⟩ := waits.resolve_left (by omega)
    obtain ⟨r, polled, same⟩ := ih (l := { l with
      queried := l.queried ++ [txId]
      statuses := rest
      waited := l.waited ++ [start.next]
      round := max l.round start.next }) (max l.round start.next) queries
      (.inr ⟨served, moves⟩) left
    refine ⟨⟨r.outcome, r.state, ⟨.stillPending txId start, []⟩ :: r.log⟩,
      .again script (by rw [left, count]) polled, fun turns enough => ?_⟩
    obtain ⟨turns, rfl⟩ := Nat.exists_eq_add_one.mpr (Nat.zero_lt_of_lt enough)
    rw [watch_pending queries served moves txId start script pending,
      same turns (Nat.lt_of_succ_lt_succ enough)]

/-- The turns a watch is given are more than there are pending statuses. -/
theorem awaitConfirmation_polled {l : ScriptedLedger} (answers : l.Answers) (txId : TxId)
    (start : Round) :
    let r := (ledger.awaitConfirmation txId start).run l
    Polled txId start l r.outcome r.state ∧
      ∀ turns, l.pendings < turns → (ledger.watch txId turns start).run l = r := by
  obtain ⟨r, polled, same⟩ := watch_polled answers txId start
  have awaited : (ledger.awaitConfirmation txId start).run l = r :=
    same _ (Nat.lt_succ_of_le l.pendings_le)
  rw [awaited]
  exact ⟨polled, same⟩

/-- How a watch over a scripted ledger goes can be read off its script, as long as the ledger
answers its calls. It comes to an end in the turn after the pending statuses, however many more
turns it is given. -/
theorem polled_as_scripted (l : ScriptedLedger) (queries : l.queryFailures = 0)
    (served : l.failWaits = false) (moves : l.hangWaits = false) (txId : TxId) (start : Round) :
    let r := (ledger.awaitConfirmation txId start).run l
    Polled txId start l r.outcome r.state ∧
      ∀ turns, l.pendings < turns → (ledger.watch txId turns start).run l = r :=
  awaitConfirmation_polled ⟨queries, .inr ⟨served, moves⟩⟩ txId start

/-- A ledger that is ahead of the watch: the second wait follows the ledger. -/
theorem polled_ahead :
    let l := { startingAt ⟨150⟩ testVersion with statuses := [.pending, .pending] }
    let r := (ledger.awaitConfirmation ⟨"TX1"⟩ ⟨100⟩).run l
    r.outcome = .ok ⟨152⟩ ∧ r.state.waited = [⟨101⟩, ⟨151⟩] ∧ r.state.round = ⟨151⟩ ∧
      Polled ⟨"TX1"⟩ ⟨100⟩ l r.outcome r.state :=
  ⟨by decide, by decide, by decide, (polled_as_scripted _ rfl rfl rfl ⟨"TX1"⟩ ⟨100⟩).1⟩

end ScriptedLedger

end KeyRenewal
