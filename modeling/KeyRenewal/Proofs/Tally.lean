import KeyRenewal.Proofs.Runs

/-!
# Tallies

A tally lists what happened between two benches: the requests made of the store, the keys that were
left in it, the deletions and the accepted transactions. Tallies of consecutive runs add up, so that
the tally of a batch is that of its rows.
-/

namespace KeyRenewal

/-- Everything that is new on a bench: requests, keys, deletions and submissions. Nothing was
exported, and the ledger has only moved on. -/
structure Tally (before after : Bench) (asked : List GenerationRequest)
    (made : List (KeyHandle × Credential)) (deleted : List KeyHandle)
    (sent : List StatusTransaction) : Prop where
  requests : after.store.requests = before.store.requests ++ asked
  credentials : after.store.credentials.toList.Perm (made ++ before.store.credentials.toList)
  deleted : after.store.deleted = before.store.deleted ++ deleted
  submitted : after.wallet.submitted = before.wallet.submitted ++ sent
  sink : after.sink = before.sink
  ledger : ScriptedLedger.Progress before.ledger after.ledger

namespace Tally

variable {a b c : Bench} {asked asked' : List GenerationRequest}
  {made made' : List (KeyHandle × Credential)} {deleted deleted' : List KeyHandle}
  {sent sent' : List StatusTransaction}

theorem refl (b : Bench) : Tally b b [] [] [] [] where
  requests := (List.append_nil _).symm
  credentials := .refl _
  deleted := (List.append_nil _).symm
  submitted := (List.append_nil _).symm
  sink := rfl
  ledger := .refl _

theorem trans (ab : Tally a b asked made deleted sent) (bc : Tally b c asked' made' deleted' sent') :
    Tally a c (asked ++ asked') (made ++ made') (deleted ++ deleted') (sent ++ sent') where
  requests := by rw [bc.requests, ab.requests, List.append_assoc]
  credentials := by
    have later := bc.credentials.trans (ab.credentials.append_left made')
    rw [← List.append_assoc] at later
    exact later.trans (List.perm_append_comm.append_right _)
  deleted := by rw [bc.deleted, ab.deleted, List.append_assoc]
  submitted := by rw [bc.submitted, ab.submitted, List.append_assoc]
  sink := bc.sink.trans ab.sink
  ledger := ab.ledger.trans bc.ledger

theorem mem_of_mem (t : Tally a b asked made deleted sent) {e : KeyHandle × Credential}
    (installed : e ∈ a.store.credentials.toList) : e ∈ b.store.credentials.toList :=
  t.credentials.mem_iff.mpr (List.mem_append_right _ installed)

end Tally

namespace RenewalPlan

variable (p : RenewalPlan) {b : Bench}

/-- The new key as the store lists it. -/
def key : KeyHandle × Credential := (p.handle, p.credential)

theorem asked_tally (b : Bench) : Tally b (p.asked b) [p.request] [] [] [] where
  requests := rfl
  credentials := .refl _
  deleted := (List.append_nil _).symm
  submitted := (List.append_nil _).symm
  sink := rfl
  ledger := .refl _

theorem undone_tally (b : Bench) : Tally b (p.undone b) [p.request] [] [p.handle] [] where
  requests := rfl
  credentials := .refl _
  deleted := rfl
  submitted := (List.append_nil _).symm
  sink := rfl
  ledger := .refl _

theorem made_tally (fresh : b.store.credentials.contains p.handle = false) :
    Tally b (p.made b) [p.request] [p.key] [] [] where
  requests := rfl
  credentials := OrderedMap.toList_insert_perm fresh p.credential
  deleted := (List.append_nil _).symm
  submitted := (List.append_nil _).symm
  sink := rfl
  ledger := .refl _

theorem sent_tally (fresh : b.store.credentials.contains p.handle = false)
    {ledger : ScriptedLedger} (progress : ScriptedLedger.Progress b.ledger ledger) :
    Tally b { p.sent b with ledger := ledger } [p.request] [p.key] [] [p.transaction] where
  requests := rfl
  credentials := OrderedMap.toList_insert_perm fresh p.credential
  deleted := (List.append_nil _).symm
  submitted := rfl
  sink := rfl
  ledger := progress

end RenewalPlan

end KeyRenewal
