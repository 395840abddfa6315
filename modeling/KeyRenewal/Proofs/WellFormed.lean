import KeyRenewal.Proofs.Keeping
import KeyRenewal.Proofs.Ownership

/-!
# Well-formed credentials

Nobody checks a credential once it is made. All that is installed is well formed nevertheless: each
call asks the store for keys in order only, with the dilution the call resolves to, and what the
store makes of such a request is well formed.
-/

namespace KeyRenewal

variable {σ τ ε α : Type}

/-- The range does not run backwards, and the dilution is not zero. -/
structure Credential.WellFormed (c : Credential) : Prop where
  ordered : c.firstValid ≤ c.lastValid
  diluted : c.keyDilution ≠ 0

theorem GenerationRequest.Resolves.credentialFor {dilution : UInt64} {r : GenerationRequest}
    (resolves : r.Resolves dilution) : (MemoryStore.credentialFor r).WellFormed :=
  ⟨resolves.ordered, resolves.nonzero⟩

namespace MemoryStore

/-- Every installed credential is well formed. -/
def WellFormed (m : MemoryStore) : Prop := ∀ e ∈ m.credentials.toList, e.2.WellFormed

/-- The store was asked for keys of one kind only, and is still well formed if it was. -/
structure Served (kind : GenerationRequest → Prop) (before after : MemoryStore) : Prop where
  requests : ∃ asked, after.requests = before.requests ++ asked ∧ ∀ r ∈ asked, kind r
  wellFormed : before.WellFormed → after.WellFormed

namespace Served

variable {kind : GenerationRequest → Prop} {before m m' : MemoryStore}

theorem refl (m : MemoryStore) : Served kind m m :=
  ⟨⟨[], (List.append_nil _).symm, fun _ none => absurd none List.not_mem_nil⟩, id⟩

theorem asked (served : Served kind before m) {request : GenerationRequest} (allowed : kind request)
    (one : m'.requests = m.requests ++ [request])
    (sound : m.WellFormed → m'.WellFormed) : Served kind before m' := by
  obtain ⟨asked, appended, all⟩ := served.requests
  refine ⟨⟨asked ++ [request], ?_, ?_⟩, sound ∘ served.wellFormed⟩
  · rw [one, appended, List.append_assoc]
  · intro r there
    rcases List.mem_append.mp there with earlier | last
    · exact all r earlier
    · exact List.mem_singleton.mp last ▸ allowed

end Served

open KeyRenewal.Action (Keeps)

variable {kind : GenerationRequest → Prop} {before : MemoryStore}

end MemoryStore

open KeyRenewal.Action (Keeps)

namespace Station

variable (s : Station σ) {inv : MemoryStore → Prop}

end Station

namespace EngineCall

/-- The dilution a call is given, or else its configuration; none if the call makes no keys. -/
def dilution? : EngineCall → Option UInt64
  | .operation (.renewal _ config request) => some (config.dilutionOr request.keyDilution)
  | .operation (.batch _ config request) => some (config.dilutionOr request.keyDilution)
  | .operation (.generation _ config _ _ _ keyDilution)
  | .generationInto _ config _ _ _ keyDilution _ => some (config.dilutionOr keyDilution)
  | .operation (.rigging _) | .statusChange .. => none

/-- What a call asks the store for. -/
def Asks (call : EngineCall) (r : GenerationRequest) : Prop :=
  ∃ dilution, call.dilution? = some dilution ∧ r.Resolves dilution

end EngineCall

end KeyRenewal
