import KeyRenewal.Proofs.Accounting
import Mathlib.Data.List.MinMax

/-!
# Which credential is the latest

The latest credentials are picked in one pass over all entries, whoever owns them. For one account
the pass comes down to its own entries in handle order, of which it keeps the first that ends last;
what the others own plays no part.
-/

namespace KeyRenewal

/-- Of two entries the one with the smaller key comes first. -/
theorem OrderedMap.idxOf_le_iff {κ ν : Type} [Ord κ] [Std.TransOrd κ] [DecidableEq (κ × ν)]
    {l : List (κ × ν)} (sorted : l.Pairwise (fun a b => compare a.1 b.1 = .lt)) {m e : κ × ν}
    (hm : m ∈ l) (he : e ∈ l) :
    l.idxOf m ≤ l.idxOf e ↔ (compare m.1 e.1).isLE := by
  have before : ∀ {a b : κ × ν}, a ∈ l → b ∈ l → l.idxOf a < l.idxOf b →
      compare a.1 b.1 = .lt := by
    intro a b ha hb earlier
    have placed := List.pairwise_iff_getElem.mp sorted _ _ (List.idxOf_lt_length_iff.mpr ha)
      (List.idxOf_lt_length_iff.mpr hb) earlier
    rwa [List.getElem_idxOf, List.getElem_idxOf] at placed
  constructor
  · intro first
    rcases Nat.lt_or_eq_of_le first with earlier | same
    · rw [before hm he earlier]
      rfl
    · obtain rfl := (List.idxOf_inj hm).mp same
      rw [Std.ReflOrd.compare_self]
      rfl
  · intro below
    by_contra later
    have above := before he hm (Nat.lt_of_not_le later)
    rw [Std.OrientedOrd.eq_swap (a := m.1), above] at below
    cases below

/-- Of the entries that are greatest by some measure, the one with the least key is taken. -/
theorem OrderedMap.argmax_eq_some_iff {κ ν : Type} [Ord κ] [Std.TransOrd κ] [DecidableEq (κ × ν)]
    {l : List (κ × ν)} (sorted : l.Pairwise (fun a b => compare a.1 b.1 = .lt)) {f : κ × ν → Nat}
    {m : κ × ν} :
    l.argmax f = some m ↔ m ∈ l ∧ (∀ e ∈ l, f e ≤ f m) ∧
      ∀ e ∈ l, f e = f m → (compare m.1 e.1).isLE := by
  rw [List.argmax_eq_some_iff]
  refine and_congr_right fun hm => and_congr_right fun greatest => forall₂_congr fun e he => ?_
  rw [idxOf_le_iff sorted hm he]
  constructor
  · intro first same
    exact first (Nat.le_of_eq same.symm)
  · intro first reaches
    exact first (Nat.le_antisymm (greatest e he) reaches)

namespace Keyring

/-- The number of the round in which the credential of an entry ends. -/
def endOf (e : KeyHandle × Credential) : Nat := e.2.lastValid.number.toNat

/-- An entry as what is listed for its account. -/
def generatedOf (e : KeyHandle × Credential) : GeneratedCredential := ⟨e.2, e.1⟩

theorem eq_generatedOf_iff {e : KeyHandle × Credential} {g : GeneratedCredential} :
    generatedOf e = g ↔ e = (g.handle, g.credential) := by
  constructor
  · rintro rfl
    rfl
  · rintro rfl
    rfl

section pass

variable {best : OrderedMap Address GeneratedCredential} {address : Address}

/-- An entry of the account takes the place of what is kept if it ends later. -/
theorem find?_keepLatest_self {kept : Option (KeyHandle × Credential)} {e : KeyHandle × Credential}
    (held : best.find? e.2.address = kept.map generatedOf) :
    (keepLatest best e.1 e.2).find? e.2.address =
      (List.argAux (fun b c => endOf c < endOf b) kept e).map generatedOf := by
  unfold keepLatest
  rw [held]
  cases kept with
  | none => exact OrderedMap.find?_insert_self _ _ _
  | some k =>
    by_cases keeps : e.2.lastValid ≤ k.2.lastValid
    · have notLater : ¬ endOf k < endOf e := Nat.not_lt.mpr (Round.le_iff.mp keeps)
      simp only [Option.map_some, generatedOf, if_pos keeps, List.argAux, if_neg notLater]
      exact held
    · have later : endOf k < endOf e := Round.lt_iff.mp (Round.not_le.mp keeps)
      simp only [Option.map_some, generatedOf, if_neg keeps, List.argAux, if_pos later]
      exact OrderedMap.find?_insert_self _ _ _

/-- An entry of another account changes nothing. -/
theorem find?_keepLatest_of_ne {e : KeyHandle × Credential} (apart : e.2.address ≠ address) :
    (keepLatest best e.1 e.2).find? address = best.find? address := by
  unfold keepLatest
  split
  · split
    · rfl
    · exact OrderedMap.find?_insert_of_ne apart.symm
  · exact OrderedMap.find?_insert_of_ne apart.symm

/-- What the pass keeps for an account depends on the entries of the account alone. -/
theorem find?_foldl_keepLatest {kept : Option (KeyHandle × Credential)}
    (held : best.find? address = kept.map generatedOf) (entries : List (KeyHandle × Credential)) :
    (entries.foldl (fun best e => keepLatest best e.1 e.2) best).find? address =
      ((entries.filter (·.2.address = address)).foldl
        (List.argAux fun b c => endOf c < endOf b) kept).map generatedOf := by
  induction entries generalizing best kept with
  | nil => exact held
  | cons e rest ih =>
    by_cases mine : e.2.address = address
    · subst mine
      rw [List.filter_cons_of_pos (by simp), List.foldl_cons, List.foldl_cons]
      exact ih (find?_keepLatest_self held)
    · rw [List.filter_cons_of_neg (by simpa using mine), List.foldl_cons]
      exact ih ((find?_keepLatest_of_ne mine).trans held)

end pass

variable {keys : Keyring} {address : Address}

/-- The latest credential of an account is the first of its entries that ends last. -/
theorem find?_latest (keys : Keyring) (address : Address) :
    keys.latest.find? address =
      ((keys.toList.filter (·.2.address = address)).argmax endOf).map generatedOf := by
  have nothing : (OrderedMap.empty : OrderedMap Address GeneratedCredential).find? address =
      (none : Option (KeyHandle × Credential)).map generatedOf := rfl
  exact find?_foldl_keepLatest nothing keys.toList

/-- A credential is the latest of an account: it is installed for it, nothing of the account ends
later, and of what ends in the same round it has the least handle. -/
structure IsLatest (keys : Keyring) (address : Address) (g : GeneratedCredential) : Prop where
  installed : (g.handle, g.credential) ∈ keys.toList
  owned : g.credential.address = address
  greatest : ∀ e ∈ keys.toList, e.2.address = address → e.2.lastValid ≤ g.credential.lastValid
  least : ∀ e ∈ keys.toList, e.2.address = address → e.2.lastValid = g.credential.lastValid →
    (compare g.handle e.1).isLE

theorem find?_latest_iff {g : GeneratedCredential} :
    keys.latest.find? address = some g ↔ keys.IsLatest address g := by
  have mine : ∀ {e}, e ∈ keys.toList.filter (·.2.address = address) ↔
      e ∈ keys.toList ∧ e.2.address = address := by simp
  have sorted : (keys.toList.filter (·.2.address = address)).Pairwise
      (fun a b => compare a.1 b.1 = .lt) := keys.sorted.filter _
  rw [find?_latest, Option.map_eq_some_iff]
  simp only [eq_generatedOf_iff, exists_eq_right, OrderedMap.argmax_eq_some_iff sorted, mine]
  constructor
  · rintro ⟨⟨installed, owned⟩, greatest, first⟩
    refine ⟨installed, owned, fun e he owns => ?_, fun e he owns same => ?_⟩
    · exact Round.le_iff.mpr (greatest e ⟨he, owns⟩)
    · exact first e ⟨he, owns⟩ (Round.toNat_inj.mpr same)
  · rintro ⟨installed, owned, greatest, least⟩
    refine ⟨⟨installed, owned⟩, ?_, ?_⟩
    · rintro e ⟨he, owns⟩
      exact Round.le_iff.mp (greatest e he owns)
    · rintro e ⟨he, owns⟩ same
      exact least e he owns (Round.toNat_inj.mp same)

/-- Whether a credential is the latest of an account is settled by the entries of the account. -/
theorem IsLatest.congr {keys' : Keyring} {g : GeneratedCredential}
    (same : ∀ e, e.2.address = address → (e ∈ keys.toList ↔ e ∈ keys'.toList))
    (latest : keys.IsLatest address g) : keys'.IsLatest address g where
  installed := (same _ latest.owned).mp latest.installed
  owned := latest.owned
  greatest e he owns := latest.greatest e ((same e owns).mpr he) owns
  least e he owns := latest.least e ((same e owns).mpr he) owns

/-- The accounts listed are those that own something, each is listed with its latest credential, and
keyrings that agree on the entries of an account list it alike. -/
theorem latest_selects (keys : Keyring) :
    (∀ address, address ∈ keys.latest.keys ↔ ∃ e ∈ keys.toList, e.2.address = address) ∧
    (∀ address g, keys.latest.find? address = some g ↔ keys.IsLatest address g) ∧
    ∀ (keys' : Keyring) (address : Address),
      (∀ e, e.2.address = address → (e ∈ keys.toList ↔ e ∈ keys'.toList)) →
      keys'.latest.find? address = keys.latest.find? address := by
  refine ⟨fun address => ?_, fun address g => find?_latest_iff, fun keys' address same => ?_⟩
  · rw [← map_address_latest]
    exact mem_latest_iff
  · refine Option.ext fun g => ?_
    rw [find?_latest_iff, find?_latest_iff]
    exact ⟨IsLatest.congr fun e owns => (same e owns).symm, IsLatest.congr same⟩

/-- Two credentials of one account that end together, with another account in between. -/
def ofTies : Keyring :=
  .ofList [(⟨"c"⟩, .until ⟨"A"⟩ ⟨200⟩), (⟨"b"⟩, .until ⟨"B"⟩ ⟨300⟩), (⟨"a"⟩, .until ⟨"A"⟩ ⟨200⟩)]

def ofTiesAlone : Keyring := ofTies.erase ⟨"b"⟩

/-- The tie goes to the least handle, whether or not another account owns something. -/
theorem latest_selects_of_ties :
    ofTies.latest.find? ⟨"A"⟩ = some ⟨.until ⟨"A"⟩ ⟨200⟩, ⟨"a"⟩⟩ ∧
    ofTiesAlone.latest.find? ⟨"A"⟩ = ofTies.latest.find? ⟨"A"⟩ := by
  have others : ∀ e ∈ ofTies.toList, e.2.address = ⟨"A"⟩ →
      compare (⟨"b"⟩ : KeyHandle) e.1 ≠ .eq := by
    decide +kernel
  refine ⟨by decide +kernel, (latest_selects ofTies).2.2 ofTiesAlone _ fun e owns => ?_⟩
  exact (OrderedMap.mem_erase.trans (and_iff_left_of_imp fun he => others e he owns)).symm

end Keyring

end KeyRenewal
