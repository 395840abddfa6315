import Mathlib.Data.List.Basic

/-!
# Lists in records

What is written element by element is read back element by element. Of values with names, as long as
no name is given twice, the ones of a name are what looking the name up finds.
-/

namespace KeyRenewal

variable {α β : Type}

/-- Where each element is sure to be read, so is the list. -/
theorem mapM_of_total {f : α → Option β} {g : α → β} (total : ∀ a, f a = some (g a))
    (l : List α) : l.mapM f = some (l.map g) := by
  rw [show f = fun a => pure (g a) from funext total, List.mapM_pure]
  rfl

theorem mapM_map_eq_some {encode : α → β} {decode : β → Option α}
    (back : ∀ a, decode (encode a) = some a) (l : List α) :
    (l.map encode).mapM decode = some l := by
  have read : l.mapM (decode ∘ encode) = some (l.map id) := mapM_of_total back l
  rw [List.mapM_map, read, List.map_id]

/-- What is given under a name is what a search finds there. -/
theorem filter_name_eq {given : List (String × α)} (once : (given.map (·.1)).Nodup)
    (name : String) :
    given.filter (·.1 == name) = ((given.lookup name).map fun a => (name, a)).toList := by
  induction given with
  | nil => rfl
  | cons f given ih =>
    obtain ⟨key, a⟩ := f
    obtain ⟨fresh, once⟩ := List.nodup_cons.mp once
    by_cases same : key = name
    · subst same
      have absent : given.lookup key = none := by
        rw [List.lookup_eq_none_iff]
        intro g there
        have apart : key ≠ g.1 := by
          rintro rfl
          exact fresh (List.mem_map.mpr ⟨g, there, rfl⟩)
        simpa using apart
      simp [ih once, absent]
    · have apart : (name == key) = false := by simpa using Ne.symm same
      simp [List.lookup_cons, ih once, same, apart]

end KeyRenewal
