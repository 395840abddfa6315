import KeyRenewal.Logging.Notice

/-!
# Actions

An action changes a state, may log, and ends in one of three ways: with a value, with a failure, or
not at all because it waits for something that never comes. What an action did before it failed or
got stuck stays done, and what it logged stays logged.
-/

namespace KeyRenewal

/-- How an action ends. -/
inductive Outcome (ε α : Type)
  | ok (value : α)
  | error (error : ε)
  | blocked
deriving DecidableEq

/-- What an action leaves behind. -/
structure Run (σ ε α : Type) where
  outcome : Outcome ε α
  state : σ
  log : List Logging.Entry

/-- A computation over a state `σ` that may fail with `ε`. -/
def Action (σ ε α : Type) : Type := σ → Run σ ε α

namespace Action

variable {σ τ ε ε' α β : Type}

def run (a : Action σ ε α) (s : σ) : Run σ ε α := a s

protected def pure (value : α) : Action σ ε α := fun s => ⟨.ok value, s, []⟩

protected def bind (a : Action σ ε α) (f : α → Action σ ε β) : Action σ ε β := fun s =>
  let first := a s
  match first.outcome with
  | .ok value =>
    let second := f value first.state
    ⟨second.outcome, second.state, first.log ++ second.log⟩
  | .error e => ⟨.error e, first.state, first.log⟩
  | .blocked => ⟨.blocked, first.state, first.log⟩

instance : Monad (Action σ ε) where
  pure := Action.pure
  bind := Action.bind

def fail (e : ε) : Action σ ε α := fun s => ⟨.error e, s, []⟩

/-- Wait for what never comes. -/
def block : Action σ ε α := fun s => ⟨.blocked, s, []⟩

def ofExcept : Except ε α → Action σ ε α
  | .ok value => Action.pure value
  | .error e => fail e

def get : Action σ ε σ := fun s => ⟨.ok s, s, []⟩

def modify (f : σ → σ) : Action σ ε Unit := fun s => ⟨.ok (), f s, []⟩

def log (notice : Logging.Notice) : Action σ ε Unit := fun s => ⟨.ok (), s, [⟨notice, []⟩]⟩

/-- Put everything the action logs inside a span. -/
def within (span : Logging.Span) (a : Action σ ε α) : Action σ ε α := fun s =>
  let r := a s
  ⟨r.outcome, r.state, r.log.map (fun e => ⟨e.notice, span :: e.spans⟩)⟩

/-- Rename the failures of an action. -/
def mapError (f : ε → ε') (a : Action σ ε α) : Action σ ε' α := fun s =>
  let r := a s
  match r.outcome with
  | .ok value => ⟨.ok value, r.state, r.log⟩
  | .error e => ⟨.error (f e), r.state, r.log⟩
  | .blocked => ⟨.blocked, r.state, r.log⟩

/-- Take a failure as a value and go on. An action that is blocked stays blocked. -/
def attempt (a : Action σ ε α) : Action σ ε' (Except ε α) := fun s =>
  let r := a s
  match r.outcome with
  | .ok value => ⟨.ok (.ok value), r.state, r.log⟩
  | .error e => ⟨.ok (.error e), r.state, r.log⟩
  | .blocked => ⟨.blocked, r.state, r.log⟩

end Action

/-- A part `τ` of a state `σ` that can be read and replaced. -/
structure Lens (σ τ : Type) where
  get : σ → τ
  set : σ → τ → σ
  get_set : ∀ s t, get (set s t) = t
  set_get : ∀ s, set s (get s) = s
  set_set : ∀ s t u, set (set s t) u = set s u

namespace Lens

variable {σ τ υ : Type}

/-- The part of a part. -/
def trans (outer : Lens σ τ) (inner : Lens τ υ) : Lens σ υ where
  get s := inner.get (outer.get s)
  set s u := outer.set s (inner.set (outer.get s) u)
  get_set s u := by rw [outer.get_set, inner.get_set]
  set_get s := by rw [inner.set_get, outer.set_get]
  set_set s t u := by rw [outer.get_set, inner.set_set, outer.set_set]

end Lens

/-- Run an action on a part of the state. -/
def Action.focus {σ τ ε α : Type} (lens : Lens σ τ) (a : Action τ ε α) : Action σ ε α := fun s =>
  let r := a (lens.get s)
  ⟨r.outcome, lens.set s r.state, r.log⟩

end KeyRenewal
