import KeyRenewal.Credential
import KeyRenewal.Proofs.OrderedMap
import KeyRenewal.Proofs.RoundOrder

/-!
# Latest credentials

The latest credentials of a keyring have one entry for every account that owns a credential, and that
entry is installed and ends no earlier than any other of the account. The listing is in strict
address order.
-/

namespace KeyRenewal

instance : Std.LawfulEqOrd Address where
  compare_self := Std.ReflCmp.compare_self
  eq_of_compare {a b} same := by
    have texts : a.text = b.text := Std.LawfulEqOrd.eq_of_compare (show compare a.text b.text = .eq from same)
    cases a
    cases b
    cases texts
    rfl

namespace Keyring

/-- What a map of latest credentials says about the entries looked at so far. -/
structure LatestOf (seen : List (KeyHandle × Credential))
    (best : OrderedMap Address GeneratedCredential) : Prop where
  named : ∀ e ∈ best.toList, e.2.credential.address = e.1
  installed : ∀ e ∈ best.toList, (e.2.handle, e.2.credential) ∈ seen
  greatest : ∀ e ∈ best.toList, ∀ x ∈ seen, x.2.address = e.1 →
    x.2.lastValid ≤ e.2.credential.lastValid
  complete : ∀ x ∈ seen, ∃ g, (x.2.address, g) ∈ best.toList

variable {seen : List (KeyHandle × Credential)} {best : OrderedMap Address GeneratedCredential}

/-- An account whose entry ends no earlier keeps it. -/
theorem LatestOf.keep (latest : LatestOf seen best) {handle : KeyHandle} {credential : Credential}
    {g : GeneratedCredential} (held : (credential.address, g) ∈ best.toList)
    (later : credential.lastValid ≤ g.credential.lastValid) :
    LatestOf (seen ++ [(handle, credential)]) best where
  named := latest.named
  installed e he := List.mem_append_left _ (latest.installed e he)
  greatest e he x hx same := by
    rcases List.mem_append.mp hx with hx | hx
    · exact latest.greatest e he x hx same
    · obtain rfl := List.mem_singleton.mp hx
      have mine : e.2 = g := OrderedMap.value_unique (m := best) (k := e.1) he (same ▸ held)
      rw [mine]
      exact later
  complete x hx := by
    rcases List.mem_append.mp hx with hx | hx
    · exact latest.complete x hx
    · obtain rfl := List.mem_singleton.mp hx
      exact ⟨g, held⟩

/-- A new entry takes the place of what ends earlier. -/
theorem LatestOf.replace (latest : LatestOf seen best) {handle : KeyHandle} {credential : Credential}
    (earlier : ∀ x ∈ seen, x.2.address = credential.address →
      x.2.lastValid ≤ credential.lastValid) :
    LatestOf (seen ++ [(handle, credential)])
      (best.insert credential.address ⟨credential, handle⟩) where
  named e he := by
    rcases OrderedMap.mem_insert.mp he with rfl | ⟨-, he⟩
    · rfl
    · exact latest.named e he
  installed e he := by
    rcases OrderedMap.mem_insert.mp he with rfl | ⟨-, he⟩
    · exact List.mem_append_right _ (List.mem_singleton.mpr rfl)
    · exact List.mem_append_left _ (latest.installed e he)
  greatest e he x hx same := by
    rcases OrderedMap.mem_insert.mp he with rfl | ⟨apart, he⟩
    · rcases List.mem_append.mp hx with hx | hx
      · exact earlier x hx same
      · obtain rfl := List.mem_singleton.mp hx
        exact Round.le_refl _
    · rcases List.mem_append.mp hx with hx | hx
      · exact latest.greatest e he x hx same
      · obtain rfl := List.mem_singleton.mp hx
        exact absurd same.symm apart
  complete x hx := by
    by_cases same : x.2.address = credential.address
    · exact ⟨_, OrderedMap.mem_insert.mpr (Or.inl (by rw [same]))⟩
    · rcases List.mem_append.mp hx with hx | hx
      · obtain ⟨g, held⟩ := latest.complete x hx
        exact ⟨g, OrderedMap.mem_insert.mpr (Or.inr ⟨same, held⟩)⟩
      · obtain rfl := List.mem_singleton.mp hx
        exact absurd rfl same

theorem LatestOf.keepLatest (latest : LatestOf seen best) (handle : KeyHandle)
    (credential : Credential) :
    LatestOf (seen ++ [(handle, credential)]) (keepLatest best handle credential) := by
  unfold Keyring.keepLatest
  cases found : best.find? credential.address with
  | some g =>
    have held : (credential.address, g) ∈ best.toList := OrderedMap.mem_of_find? found
    by_cases later : credential.lastValid ≤ g.credential.lastValid
    · simp only [if_pos later]
      exact latest.keep held later
    · simp only [if_neg later]
      refine latest.replace ?_
      intro x hx same
      exact Round.le_trans (latest.greatest _ held x hx same) (Round.le_of_lt (Round.not_le.mp later))
  | none =>
    refine latest.replace ?_
    intro x hx same
    obtain ⟨g, held⟩ := latest.complete x hx
    exact absurd same (OrderedMap.find?_eq_none_iff.mp found _ held)

theorem LatestOf.foldl (latest : LatestOf seen best) (rest : List (KeyHandle × Credential)) :
    LatestOf (seen ++ rest) (rest.foldl (fun m e => Keyring.keepLatest m e.1 e.2) best) := by
  induction rest generalizing seen best with
  | nil =>
    rw [List.append_nil]
    exact latest
  | cons e rest ih =>
    have step := ih (latest.keepLatest e.1 e.2)
    rw [List.append_assoc] at step
    exact step

theorem latest_latestOf (keys : Keyring) : LatestOf keys.toList keys.latest := by
  have nothing : LatestOf [] (OrderedMap.empty : OrderedMap Address GeneratedCredential) :=
    ⟨fun e he => absurd he List.not_mem_nil, fun e he => absurd he List.not_mem_nil,
      fun e he => absurd he List.not_mem_nil, fun x hx => absurd hx List.not_mem_nil⟩
  exact nothing.foldl keys.toList

section listing

variable (keys : Keyring)

/-- The listed addresses are the keys of the map. -/
theorem map_address_latest :
    keys.latest.values.map (·.credential.address) = keys.latest.keys := by
  unfold OrderedMap.values OrderedMap.keys
  rw [List.map_map]
  exact List.map_congr_left (fun e he => (latest_latestOf keys).named e he)

theorem sorted_latest :
    (keys.latest.values.map (·.credential.address)).Pairwise (compare · · = .lt) := by
  rw [map_address_latest]
  exact List.pairwise_map.mpr keys.latest.sorted

variable {keys}

/-- An account is listed exactly if it owns an installed credential. -/
theorem mem_latest_iff {address : Address} :
    address ∈ keys.latest.values.map (·.credential.address) ↔
      ∃ e ∈ keys.toList, e.2.address = address := by
  rw [map_address_latest]
  constructor
  · intro listed
    obtain ⟨e, he, rfl⟩ := List.mem_map.mp listed
    exact ⟨_, (latest_latestOf keys).installed e he, (latest_latestOf keys).named e he⟩
  · rintro ⟨x, hx, rfl⟩
    obtain ⟨g, held⟩ := (latest_latestOf keys).complete x hx
    exact List.mem_map.mpr ⟨_, held, rfl⟩

/-- What is listed is installed. -/
theorem latest_installed {g : GeneratedCredential} (listed : g ∈ keys.latest.values) :
    (g.handle, g.credential) ∈ keys.toList := by
  obtain ⟨e, he, rfl⟩ := List.mem_map.mp listed
  exact (latest_latestOf keys).installed e he

/-- Nothing of the account ends later than what is listed. -/
theorem latest_greatest {g : GeneratedCredential} (listed : g ∈ keys.latest.values)
    {x : KeyHandle × Credential} (hx : x ∈ keys.toList)
    (same : x.2.address = g.credential.address) : x.2.lastValid ≤ g.credential.lastValid := by
  obtain ⟨e, he, rfl⟩ := List.mem_map.mp listed
  exact (latest_latestOf keys).greatest e he x hx (same.trans ((latest_latestOf keys).named e he))

/-- No credential of the account reaches the horizon exactly if all of them end before it. -/
theorem coverage?_eq_none_iff {address : Address} {horizon : Round} :
    keys.coverage? address horizon = none ↔
      ∀ e ∈ keys.toList, e.2.address = address → e.2.lastValid < horizon := by
  unfold coverage?
  rw [List.max?_eq_none_iff, List.map_eq_nil_iff, List.filter_eq_nil_iff]
  constructor
  · intro none e he mine
    have short := none e.2 (List.mem_map.mpr ⟨e, he, rfl⟩)
    rw [← Round.not_le]
    intro reaches
    exact short (by simp [mine, Credential.covers, reaches])
  · intro short c hc covered
    obtain ⟨e, he, rfl⟩ := List.mem_map.mp hc
    simp only [Credential.covers, Bool.and_eq_true, beq_iff_eq, decide_eq_true_eq] at covered
    exact Round.not_le.mpr (short e he covered.1) covered.2

end listing

end Keyring

end KeyRenewal
