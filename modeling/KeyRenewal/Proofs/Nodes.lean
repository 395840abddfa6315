import KeyRenewal.Proofs.Endings

/-!
# Several nodes

The nodes of a list take the same batch in turn. They may have parts of the state in common, or all
of it. Each batch finds what the batches before it have left, and one that aborts leaves what it has
found, so that a list without the nodes that abort comes to the same results and the same state.
-/

namespace KeyRenewal

variable {σ ε : Type}

/-- An engine over a bench, under the name of its node. -/
structure Node (σ : Type) where
  name : String
  station : Station σ
  protocols : ProtocolRegistry
  config : EngineConfig

namespace Node

def engine (node : Node σ) : Engine σ := node.station.engine node.protocols node.config

def entry (node : Node σ) : String × Engine σ := (node.name, node.engine)

/-- A batch on the node ends with a report or aborts; if it aborts, the state stays as it is. -/
structure Ends (node : Node σ) (request : BatchRequest) (st : σ)
    (result : Except RenewalError BatchReport) (st' : σ) : Prop where
  batch : (node.engine.runBatchRenewal request).effect st = (.ofExcept result, st')
  untouched : ∀ error, result = .error error → st' = st

theorem endings (node : Node σ) (request : BatchRequest) (st : σ) :
    (∃ result st', node.Ends request st result st') ∨
      ((node.engine.runBatchRenewal request).effect st).1 = .blocked ∧
        (node.station.bench.get st).ledger.hangWaits = true := by
  rcases node.station.runBatchRenewal_endings node.protocols node.config request st with
    ⟨report, st', batch⟩ | ⟨error, batch⟩ | ⟨⟨st', batch⟩, hangs⟩
  · exact Or.inl ⟨.ok report, st', batch, by rintro _ ⟨⟩⟩
  · exact Or.inl ⟨.error error, st, batch, fun _ _ => rfl⟩
  · exact Or.inr ⟨congrArg Prod.fst batch, hangs⟩

end Node

/-- The course of a batch on nodes that all come to an end. -/
inductive NodesRun (request : BatchRequest) : List (Node σ) → σ → List NodeResult → σ → Prop
  | nil (st : σ) : NodesRun request [] st [] st
  | cons {node : Node σ} {rest : List (Node σ)} {st st₁ st₂ : σ}
    {result : Except RenewalError BatchReport} {results : List NodeResult}
    (ends : node.Ends request st result st₁) (later : NodesRun request rest st₁ results st₂) :
    NodesRun request (node :: rest) st (⟨node.name, result⟩ :: results) st₂

variable {request : BatchRequest}

/-- The other nodes run on what the batch on the first one leaves, whether or not it aborts. -/
theorem effect_renewAllNodes_cons (node : Node σ) (rest : List (String × Engine σ)) (st : σ) :
    (renewAllNodes request (node.entry :: rest) : Action σ ε _).effect st =
      Outcome.chain (fun result st₁ =>
        Outcome.chain (fun results st₂ => (.ok (⟨node.name, result⟩ :: results), st₂))
          ((renewAllNodes request rest).effect st₁))
        ((node.engine.runBatchRenewal request).attempt.effect st) := by
  rw [Node.entry, renewAllNodes]
  simp only [Action.effect_bind, Action.effect_log, Action.effect_attempt, Outcome.chain_ok]
  generalize (node.engine.runBatchRenewal request).effect st = batch
  obtain ⟨report | error | _, st₁⟩ := batch
  · exact Action.effect_bind _ _ st₁
  · exact (Action.effect_bind _ _ st₁).trans (Action.effect_bind _ _ st₁)
  · rfl

theorem Node.Ends.effect_cons {node : Node σ} {st st₁ : σ}
    {result : Except RenewalError BatchReport} (ends : node.Ends request st result st₁)
    (rest : List (String × Engine σ)) :
    (renewAllNodes request (node.entry :: rest) : Action σ ε _).effect st =
      Outcome.chain (fun results st₂ => (.ok (⟨node.name, result⟩ :: results), st₂))
        ((renewAllNodes request rest).effect st₁) := by
  rw [effect_renewAllNodes_cons, Action.effect_attempt, ends.batch]
  cases result <;> rfl

theorem renewAllNodes_blocked {node : Node σ} {st : σ}
    (stuck : ((node.engine.runBatchRenewal request).effect st).1 = .blocked)
    (rest : List (String × Engine σ)) :
    ((renewAllNodes request (node.entry :: rest) : Action σ ε _).effect st).1 = .blocked := by
  rw [effect_renewAllNodes_cons, Action.effect_attempt, stuck]
  rfl

namespace NodesRun

variable {nodes : List (Node σ)} {st st' : σ} {results : List NodeResult}

theorem effect (run : NodesRun request nodes st results st') :
    (renewAllNodes request (nodes.map Node.entry) : Action σ ε _).effect st = (.ok results, st') := by
  induction run with
  | nil st => rfl
  | cons ends later ih => rw [List.map_cons, ends.effect_cons, ih, Outcome.chain_ok]

theorem names (run : NodesRun request nodes st results st') :
    results.map (·.node) = nodes.map (·.name) := by
  induction run with
  | nil st => rfl
  | cons ends later ih => exact congrArg (_ :: ·) ih

theorem length_eq (run : NodesRun request nodes st results st') :
    results.length = nodes.length := by
  have names := congrArg List.length run.names
  rwa [List.length_map, List.length_map] at names

/-- The nodes before one of a list run on their own, and that one on what they leave. -/
theorem split {earlier later : List (Node σ)} {node : Node σ}
    (run : NodesRun request (earlier ++ node :: later) st results st') :
    ∃ firsts before result after rest, NodesRun request earlier st firsts before ∧
      node.Ends request before result after ∧ results = firsts ++ ⟨node.name, result⟩ :: rest := by
  induction earlier generalizing st results with
  | nil =>
    cases run with
    | cons ends rest => exact ⟨[], st, _, _, _, .nil st, ends, rfl⟩
  | cons first earlier ih =>
    cases run with
    | cons ends rest =>
      obtain ⟨firsts, before, result, after, others, up, own, rfl⟩ := ih rest
      exact ⟨_ :: firsts, before, result, after, others, .cons ends up, own, rfl⟩

/-- Without the nodes that abort, the others run as they did. -/
theorem reported (run : NodesRun request nodes st results st') :
    NodesRun request (((nodes.zip results).filter (·.2.result.isOk)).map (·.1)) st
      (results.filter (·.result.isOk)) st' := by
  induction run with
  | nil st => exact .nil st
  | @cons node rest st st₁ st₂ result results ends later ih =>
    cases result with
    | ok report => exact .cons ends ih
    | error error =>
      rw [ends.untouched error rfl] at ih
      exact ih

end NodesRun

/-- The nodes all come to an end, or one of them finds a ledger that hangs. -/
theorem renewAllNodes_endings (request : BatchRequest) (nodes : List (Node σ)) (st : σ) :
    (∃ results st', NodesRun request nodes st results st') ∨
    ((renewAllNodes request (nodes.map Node.entry) : Action σ ε _).effect st).1 = .blocked ∧
      ∃ earlier node later results before, nodes = earlier ++ node :: later ∧
        NodesRun request earlier st results before ∧
        (node.station.bench.get before).ledger.hangWaits = true := by
  induction nodes generalizing st with
  | nil => exact Or.inl ⟨[], st, .nil st⟩
  | cons node rest ih =>
    rcases node.endings request st with ⟨result, st₁, ends⟩ | ⟨stuck, hangs⟩
    · rcases ih st₁ with
        ⟨results, st', run⟩ | ⟨stuck, earlier, last, later, results, before, rfl, run, hangs⟩
      · exact Or.inl ⟨_, st', .cons ends run⟩
      · refine Or.inr ⟨?_, node :: earlier, last, later, _, before, rfl, .cons ends run, hangs⟩
        rw [List.map_cons, ends.effect_cons]
        generalize (renewAllNodes request _).effect st₁ = others at stuck ⊢
        obtain ⟨outcome, st₂⟩ := others
        obtain rfl : outcome = .blocked := stuck
        rfl
    · exact Or.inr ⟨renewAllNodes_blocked stuck _, [], node, rest, [], st, rfl, .nil st, hangs⟩

/-- Whatever nodes have in common, a batch on all of them has one result for each, in their order:
that of its batch on what the nodes before it leave. A batch that aborts leaves what it has found, so
that the nodes with a report come to the same results and the same state without the others. Only a
node whose ledger hangs keeps the rest waiting. -/
theorem nodes_undisturbed (request : BatchRequest) (nodes : List (Node σ)) (st : σ) :
    let run := (renewAllNodes request (nodes.map Node.entry) : Action σ ε _).run st
    let left (earlier : List (Node σ)) :=
      ((renewAllNodes request (earlier.map Node.entry) : Action σ ε _).run st).state
    (∃ results, run.outcome = .ok results ∧ results.map (·.node) = nodes.map (·.name) ∧
      (∀ earlier node later, nodes = earlier ++ node :: later → ∃ result after,
        results[earlier.length]? = some ⟨node.name, result⟩ ∧
        node.Ends request (left earlier) result after) ∧
      let reporting := ((nodes.zip results).filter (·.2.result.isOk)).map (·.1)
      let again := (renewAllNodes request (reporting.map Node.entry) : Action σ ε _).run st
      again.outcome = .ok (results.filter (·.result.isOk)) ∧ again.state = run.state) ∨
    run.outcome = .blocked ∧ ∃ earlier node later, nodes = earlier ++ node :: later ∧
      (node.station.bench.get (left earlier)).ledger.hangWaits = true := by
  intro run left
  rcases renewAllNodes_endings (ε := ε) request nodes st with
    ⟨results, st', course⟩ | ⟨stuck, earlier, node, later, results, before, rfl, course, hangs⟩
  · obtain ⟨outcome, state⟩ := Action.run_of_effect course.effect
    refine Or.inl ⟨results, outcome, course.names, ?_, ?_⟩
    · rintro earlier node later rfl
      obtain ⟨firsts, before, result, after, rest, up, ends, rfl⟩ := course.split
      have found : left earlier = before := (Action.run_of_effect up.effect).2
      refine ⟨result, after, ?_, found ▸ ends⟩
      rw [← up.length_eq, List.getElem?_append_right (Nat.le_refl _), Nat.sub_self]
      rfl
    · obtain ⟨outcome', state'⟩ := Action.run_of_effect course.reported.effect
      exact ⟨outcome', state'.trans state.symm⟩
  · have found : left earlier = before := (Action.run_of_effect course.effect).2
    exact Or.inr ⟨stuck, earlier, node, later, rfl, found ▸ hangs⟩

/-- Three nodes share one bench, and the second one does not know the rules in force. -/
example :
    let node (name : String) (protocols : ProtocolRegistry) : Node World :=
      ⟨name, World.station, protocols, .leavingExpired⟩
    let request : BatchRequest := ⟨⟨5000⟩, none, none, some .fireAndForget⟩
    let nodes := [node "a" .testRules, node "b" .empty, node "c" .testRules]
    (match ((renewAllNodes request (nodes.map Node.entry) : Action World Empty _).run
        (.ofBench .threeAccounts)).outcome with
      | .ok results => results.map fun r => (r.node, r.result.isOk)
      | _ => []) = [("a", true), ("b", false), ("c", true)] := by
  decide +kernel

end KeyRenewal
