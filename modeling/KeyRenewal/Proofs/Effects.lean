import KeyRenewal.Action

/-!
# Effects of actions

The effect of an action is how it ends together with the state it leaves; what it logs is left
aside. Each way of building an action has one equation for its effect, so that an operation can be
executed symbolically from the effects of its parts. Running an action on a part of the state
commutes with the ways of building it, the log included.
-/

namespace KeyRenewal

namespace Outcome

variable {σ ε ε' α β : Type}

/-- Go on with the value of what ended well; a failure or a wait for ever stays as it is. -/
def chain (next : α → σ → Outcome ε β × σ) : Outcome ε α × σ → Outcome ε β × σ
  | (ok value, s) => next value s
  | (error e, s) => (error e, s)
  | (blocked, s) => (blocked, s)

def mapError (f : ε → ε') : Outcome ε α → Outcome ε' α
  | ok value => ok value
  | error e => error (f e)
  | blocked => blocked

def map (f : α → β) : Outcome ε α → Outcome ε β
  | ok value => ok (f value)
  | error e => error e
  | blocked => blocked

/-- A failure as a value. -/
def attempt : Outcome ε α → Outcome ε' (Except ε α)
  | ok value => ok (.ok value)
  | error e => ok (.error e)
  | blocked => blocked

def ofExcept : Except ε α → Outcome ε α
  | .ok value => ok value
  | .error e => error e

section equations

variable (value : α) (e : ε) (s : σ) (f : ε → ε') (next : α → σ → Outcome ε β × σ)

@[simp]
theorem chain_ok : chain next (ok value, s) = next value s := rfl

@[simp]
theorem chain_error : chain next (error e, s) = (error e, s) := rfl

@[simp]
theorem chain_blocked : chain next (blocked, s) = (blocked, s) := rfl

@[simp]
theorem map_ok (g : α → β) : map g (ok value : Outcome ε α) = ok (g value) := rfl

@[simp]
theorem map_error (g : α → β) : map g (error e : Outcome ε α) = error e := rfl

@[simp]
theorem map_blocked (g : α → β) : map g (blocked : Outcome ε α) = blocked := rfl

@[simp]
theorem mapError_ok : mapError f (ok value) = ok value := rfl

@[simp]
theorem mapError_error : mapError f (error e : Outcome ε α) = error (f e) := rfl

@[simp]
theorem mapError_blocked : mapError f (blocked : Outcome ε α) = blocked := rfl

@[simp]
theorem attempt_ok : (attempt (ok value : Outcome ε α) : Outcome ε' _) = ok (.ok value) := rfl

@[simp]
theorem attempt_error : (attempt (error e : Outcome ε α) : Outcome ε' _) = ok (.error e) := rfl

@[simp]
theorem attempt_blocked : (attempt (blocked : Outcome ε α) : Outcome ε' _) = blocked := rfl

@[simp]
theorem ofExcept_ok : (ofExcept (.ok value) : Outcome ε α) = ok value := rfl

@[simp]
theorem ofExcept_error : (ofExcept (.error e) : Outcome ε α) = error e := rfl

end equations

end Outcome

namespace Action

variable {σ τ ε ε' α β : Type}

/-- How an action ends and the state it leaves. -/
def effect (a : Action σ ε α) (s : σ) : Outcome ε α × σ := ((a.run s).outcome, (a.run s).state)

theorem run_of_effect {a : Action σ ε α} {s s' : σ} {o : Outcome ε α} (h : a.effect s = (o, s')) :
    (a.run s).outcome = o ∧ (a.run s).state = s' := Prod.mk.inj h

@[simp]
theorem run_pure (value : α) (s : σ) : (pure value : Action σ ε α).run s = ⟨.ok value, s, []⟩ := rfl

/-- What is logged by the parts of an action is logged by the whole. -/
theorem run_bind (a : Action σ ε α) (f : α → Action σ ε β) (s : σ) :
    (a >>= f).run s =
      match a.run s with
      | ⟨.ok value, s', log⟩ =>
        ⟨((f value).run s').outcome, ((f value).run s').state, log ++ ((f value).run s').log⟩
      | ⟨.error e, s', log⟩ => ⟨.error e, s', log⟩
      | ⟨.blocked, s', log⟩ => ⟨.blocked, s', log⟩ := by
  show Action.bind a f s = _
  unfold Action.bind run
  rcases a s with ⟨_ | e | _, s', log⟩ <;> rfl

@[simp]
theorem run_log (notice : Logging.Notice) (s : σ) :
    (log notice : Action σ ε Unit).run s = ⟨.ok (), s, [⟨notice, []⟩]⟩ := rfl

@[simp]
theorem run_fail (e : ε) (s : σ) : (fail e : Action σ ε α).run s = ⟨.error e, s, []⟩ := rfl

@[simp]
theorem run_mapError (f : ε → ε') (a : Action σ ε α) (s : σ) :
    (a.mapError f).run s = ⟨(a.run s).outcome.mapError f, (a.run s).state, (a.run s).log⟩ := by
  simp only [mapError, run]
  cases (a s).outcome <;> rfl

@[simp]
theorem effect_pure (value : α) (s : σ) :
    (pure value : Action σ ε α).effect s = (.ok value, s) := rfl

@[simp]
theorem effect_bind (a : Action σ ε α) (f : α → Action σ ε β) (s : σ) :
    (a >>= f).effect s = Outcome.chain (fun value s' => (f value).effect s') (a.effect s) := by
  show ((Action.bind a f s).outcome, (Action.bind a f s).state) = _
  simp only [Action.bind, effect, run]
  cases (a s).outcome <;> rfl

@[simp]
theorem effect_fail (e : ε) (s : σ) : (fail e : Action σ ε α).effect s = (.error e, s) := rfl

@[simp]
theorem effect_block (s : σ) : (block : Action σ ε α).effect s = (.blocked, s) := rfl

@[simp]
theorem effect_get (s : σ) : (get : Action σ ε σ).effect s = (.ok s, s) := rfl

@[simp]
theorem effect_modify (f : σ → σ) (s : σ) :
    (modify f : Action σ ε Unit).effect s = (.ok (), f s) := rfl

@[simp]
theorem effect_log (notice : Logging.Notice) (s : σ) :
    (log notice : Action σ ε Unit).effect s = (.ok (), s) := rfl

@[simp]
theorem effect_ofExcept (x : Except ε α) (s : σ) :
    (ofExcept x).effect s = (Outcome.ofExcept x, s) := by
  cases x <;> rfl

@[simp]
theorem effect_within (span : Logging.Span) (a : Action σ ε α) (s : σ) :
    (a.within span).effect s = a.effect s := rfl

@[simp]
theorem effect_mapError (f : ε → ε') (a : Action σ ε α) (s : σ) :
    (a.mapError f).effect s = ((a.effect s).1.mapError f, (a.effect s).2) := by
  simp only [mapError, effect, run]
  cases (a s).outcome <;> rfl

@[simp]
theorem effect_attempt (a : Action σ ε α) (s : σ) :
    (a.attempt : Action σ ε' _).effect s = ((a.effect s).1.attempt, (a.effect s).2) := by
  simp only [attempt, effect, run]
  cases (a s).outcome <;> rfl

theorem effect_bind_eq_ok {a : Action σ ε α} {f : α → Action σ ε β} {s s'' : σ} {result : β}
    (ends : (a >>= f).effect s = (.ok result, s'')) :
    ∃ value s', a.effect s = (.ok value, s') ∧ (f value).effect s' = (.ok result, s'') := by
  rw [effect_bind] at ends
  generalize a.effect s = first at ends ⊢
  obtain ⟨value | e | _, s'⟩ := first
  · exact ⟨value, s', rfl, ends⟩
  · cases ends
  · cases ends

theorem effect_of_mapError_ok {a : Action σ ε α} {f : ε → ε'} {s s' : σ} {value : α}
    (ends : (a.mapError f).effect s = (.ok value, s')) : a.effect s = (.ok value, s') := by
  rw [effect_mapError] at ends
  generalize a.effect s = last at ends ⊢
  obtain ⟨outcome | e | _, state⟩ := last <;> cases ends
  rfl

theorem effect_of_attempt_ok {a : Action σ ε α} {s s' : σ} {value : α}
    (ends : (a.attempt : Action σ ε' _).effect s = (.ok (.ok value), s')) :
    a.effect s = (.ok value, s') := by
  rw [effect_attempt] at ends
  generalize a.effect s = last at ends ⊢
  obtain ⟨outcome | e | _, state⟩ := last <;> cases ends
  rfl

theorem effect_of_attempt_error {a : Action σ ε α} {s s' : σ} {e : ε}
    (ends : (a.attempt : Action σ ε' _).effect s = (.ok (.error e), s')) :
    a.effect s = (.error e, s') := by
  rw [effect_attempt] at ends
  generalize a.effect s = last at ends ⊢
  obtain ⟨outcome | e' | _, state⟩ := last <;> cases ends
  rfl

theorem ok_of_effect_pure {value result : α} {s s' : σ}
    (ends : (pure value : Action σ ε α).effect s = (.ok result, s')) : result = value ∧ s' = s := by
  cases ends
  exact ⟨rfl, rfl⟩

theorem state_of_effect_log {notice : Logging.Notice} {s s' : σ} {o : Outcome ε Unit}
    (ends : (log notice).effect s = (o, s')) : s' = s := by
  cases ends
  rfl

theorem ok_of_effect_ofExcept {x : Except ε α} {s s' : σ} {value : α}
    (ends : (ofExcept x : Action σ ε α).effect s = (.ok value, s')) : x = .ok value ∧ s' = s := by
  cases x <;> cases ends
  exact ⟨rfl, rfl⟩

theorem effect_ite (c : Prop) [Decidable c] (a b : Action σ ε α) (s : σ) :
    (if c then a else b).effect s = if c then a.effect s else b.effect s :=
  apply_ite (fun x => effect x s) c a b

@[simp]
theorem effect_focus (lens : Lens σ τ) (a : Action τ ε α) (s : σ) :
    (a.focus lens).effect s = ((a.effect (lens.get s)).1, lens.set s (a.effect (lens.get s)).2) :=
  rfl

end Action

attribute [simp] Lens.get_set Lens.set_get Lens.set_set

namespace Action

variable {σ τ ε ε' α β : Type} (lens : Lens σ τ)

/-- What is done on a part of the state is done to that part. -/
theorem effect_of_focus {a : Action τ ε α} {s s' : σ} {o : Outcome ε α}
    (ended : (a.focus lens).effect s = (o, s')) : a.effect (lens.get s) = (o, lens.get s') := by
  obtain ⟨ends, rfl⟩ := Prod.mk.inj ended
  show _ = (o, lens.get (lens.set s (a.effect (lens.get s)).2))
  rw [lens.get_set]
  exact Prod.ext ends rfl

theorem focus_pure (value : α) : (pure value : Action τ ε α).focus lens = pure value := by
  funext s
  show (⟨.ok value, lens.set s (lens.get s), []⟩ : Run σ ε α) = ⟨.ok value, s, []⟩
  rw [lens.set_get]

theorem focus_fail (e : ε) : (fail e : Action τ ε α).focus lens = fail e := by
  funext s
  simp [focus, fail]

theorem focus_log (notice : Logging.Notice) :
    (log notice : Action τ ε Unit).focus lens = log notice := by
  funext s
  simp [focus, log]

theorem focus_bind (a : Action τ ε α) (f : α → Action τ ε β) :
    (a >>= f).focus lens = a.focus lens >>= fun value => (f value).focus lens := by
  funext s
  show focus lens (Action.bind a f) s = Action.bind (focus lens a) (fun v => focus lens (f v)) s
  simp only [focus, Action.bind]
  cases (a (lens.get s)).outcome <;> simp

theorem focus_mapError (f : ε → ε') (a : Action τ ε α) :
    (a.mapError f).focus lens = (a.focus lens).mapError f := by
  funext s
  simp only [focus, mapError]
  cases (a (lens.get s)).outcome <;> rfl

end Action

end KeyRenewal
