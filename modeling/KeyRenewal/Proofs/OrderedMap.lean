import KeyRenewal.OrderedMap
import Mathlib.Data.List.Pairwise

/-!
# Laws of ordered maps

Inserting under a new key adds one entry and erasing it again gives the same map back. Where equal
keys are spelled alike, a map is determined by the values found under its keys.
-/

namespace KeyRenewal.OrderedMap

variable {κ ν : Type} [Ord κ]

theorem contains_eq_false_iff {m : OrderedMap κ ν} {k : κ} :
    m.contains k = false ↔ ∀ e ∈ m.toList, compare k e.1 ≠ .eq := by
  simp [contains, find?, toList]

theorem mem_erase {m : OrderedMap κ ν} {k : κ} {e : κ × ν} :
    e ∈ (m.erase k).toList ↔ e ∈ m.toList ∧ compare k e.1 ≠ .eq := by
  simp [erase, toList]

/-- Where the smaller keys end and the larger ones begin, the new key is placed. -/
theorem place_append {k : κ} {below above : List (κ × ν)} (low : ∀ e ∈ below, compare k e.1 = .gt)
    (high : ∀ e ∈ above, compare k e.1 = .lt) (v : ν) :
    place k v (below ++ above) = below ++ (k, v) :: above := by
  induction below with
  | nil =>
    cases above with
    | nil => rfl
    | cons e above => simp [place, high e List.mem_cons_self]
  | cons e below ih =>
    have later := ih (fun e' he' => low e' (List.mem_cons_of_mem _ he'))
    simp [place, low e List.mem_cons_self, later]

section ordered

variable [Std.TransOrd κ] {m : OrderedMap κ ν} {k : κ}

/-- What is put under a key is found there, whether the key was new or not. -/
theorem find?_insert_self (m : OrderedMap κ ν) (k : κ) (v : ν) :
    (m.insert k v).find? k = some v := by
  unfold find?
  rw [entries_insert]
  induction m.entries with
  | nil => simp [place]
  | cons head rest ih =>
    obtain ⟨k', v'⟩ := head
    unfold place
    split
    next lt => simp
    next eq => simp [eq]
    next gt => simpa [gt] using ih

theorem ne_of_compare_lt {k' : κ} (below : compare k k' = .lt) : k ≠ k' := by
  rintro rfl
  rw [Std.ReflOrd.compare_self] at below
  cases below

theorem nodup_keys (m : OrderedMap κ ν) : m.keys.Nodup :=
  List.pairwise_map.mpr (m.sorted.imp ne_of_compare_lt)

/-- Lists in strict order of a key with the same members are the same. -/
theorem eq_of_same_members_by {α : Type} (key : α → κ) {l l' : List α}
    (sorted : l.Pairwise fun a b => compare (key a) (key b) = .lt)
    (sorted' : l'.Pairwise fun a b => compare (key a) (key b) = .lt)
    (same : ∀ a, a ∈ l ↔ a ∈ l') : l = l' := by
  have apart {a b : α} (below : compare (key a) (key b) = .lt) : a ≠ b := fun same =>
    ne_of_compare_lt below (congrArg key same)
  have perm : l.Perm l' :=
    (List.perm_ext_iff_of_nodup (sorted.imp apart) (sorted'.imp apart)).mpr same
  refine perm.eq_of_pairwise ?_ sorted sorted'
  intro a b _ _ below above
  exact absurd rfl (ne_of_compare_lt (Std.TransCmp.lt_trans below above))

theorem eq_of_same_members {l l' : List κ} (sorted : l.Pairwise (compare · · = .lt))
    (sorted' : l'.Pairwise (compare · · = .lt)) (same : ∀ k, k ∈ l ↔ k ∈ l') : l = l' :=
  eq_of_same_members_by id sorted sorted' same

/-- Maps with the same entries are the same. -/
theorem ext_toList {m n : OrderedMap κ ν} (same : ∀ e, e ∈ m.toList ↔ e ∈ n.toList) : m = n :=
  ext_entries (eq_of_same_members_by (·.1) m.sorted n.sorted same)

/-- Every key has at most one value. -/
theorem value_unique {v w : ν} (hv : (k, v) ∈ m.toList)
    (hw : (k, w) ∈ m.toList) : v = w := by
  have symmetric : Std.Symm (fun a b : κ × ν => a.1 ≠ b.1) := ⟨fun _ _ h => h.symm⟩
  have apart : m.toList.Pairwise (fun a b => a.1 ≠ b.1) :=
    m.sorted.imp (fun below => ne_of_compare_lt below)
  by_contra differ
  exact apart.forall hv hw (fun same => differ (congrArg Prod.snd same)) rfl

/-- A new key goes between the smaller keys and the larger ones. -/
theorem place_split {l : List (κ × ν)} (sorted : l.Pairwise (fun a b => compare a.1 b.1 = .lt))
    (fresh : ∀ e ∈ l, compare k e.1 ≠ .eq) (v : ν) :
    ∃ below above, l = below ++ above ∧ place k v l = below ++ (k, v) :: above ∧
      (∀ e ∈ below, compare k e.1 = .gt) ∧ ∀ e ∈ above, compare k e.1 = .lt := by
  induction sorted with
  | nil => exact ⟨[], [], rfl, rfl, fun e he => absurd he List.not_mem_nil,
      fun e he => absurd he List.not_mem_nil⟩
  | @cons head rest larger sorted ih =>
    obtain ⟨k', v'⟩ := head
    obtain ⟨below, above, split, placed, low, high⟩ :=
      ih (fun e he => fresh e (List.mem_cons_of_mem _ he))
    unfold place
    split
    next lt =>
      refine ⟨[], (k', v') :: rest, rfl, rfl, fun e he => absurd he List.not_mem_nil, ?_⟩
      intro e he
      rcases List.mem_cons.1 he with rfl | he
      · exact lt
      · exact Std.TransCmp.lt_trans lt (larger e he)
    next eq => exact absurd eq (fresh (k', v') List.mem_cons_self)
    next gt =>
      refine ⟨(k', v') :: below, above, congrArg _ split, congrArg _ placed, ?_, high⟩
      intro e he
      rcases List.mem_cons.1 he with rfl | he
      · exact gt
      · exact low e he

theorem insert_split (fresh : m.contains k = false) (v : ν) :
    ∃ below above, m.toList = below ++ above ∧ (m.insert k v).toList = below ++ (k, v) :: above ∧
      (∀ e ∈ below, compare k e.1 = .gt) ∧ ∀ e ∈ above, compare k e.1 = .lt :=
  place_split m.sorted (contains_eq_false_iff.mp fresh) v

/-- Inserting under a new key adds exactly one entry. -/
theorem toList_insert_perm (fresh : m.contains k = false) (v : ν) :
    (m.insert k v).toList.Perm ((k, v) :: m.toList) := by
  obtain ⟨below, above, split, inserted, -, -⟩ := insert_split fresh v
  rw [split, inserted]
  exact List.perm_middle

theorem mem_insert_of_fresh (fresh : m.contains k = false) {v : ν} {e : κ × ν} :
    e ∈ (m.insert k v).toList ↔ e = (k, v) ∨ e ∈ m.toList := by
  rw [(toList_insert_perm fresh v).mem_iff, List.mem_cons]

theorem contains_insert_self (fresh : m.contains k = false) (v : ν) :
    (m.insert k v).contains k = true := by
  rw [← Bool.not_eq_false, contains_eq_false_iff]
  intro none
  exact none (k, v) ((mem_insert_of_fresh fresh).mpr (Or.inl rfl)) Std.ReflCmp.compare_self

/-- Keys other than the new one are found as before. -/
theorem contains_insert_of_ne {k' : κ} (fresh : m.contains k = false) (apart : compare k' k ≠ .eq)
    (v : ν) : (m.insert k v).contains k' = m.contains k' := by
  rw [Bool.eq_iff_iff, ← not_iff_not, Bool.not_eq_true, Bool.not_eq_true, contains_eq_false_iff,
    contains_eq_false_iff]
  constructor
  · intro none e he
    exact none e ((mem_insert_of_fresh fresh).mpr (Or.inr he))
  · intro none e he
    rcases (mem_insert_of_fresh fresh).mp he with rfl | he
    · exact apart
    · exact none e he

/-- Entries that a new entry is not among are listed as before. -/
theorem filter_insert_of_not {p : κ × ν → Bool} {v : ν} (fresh : m.contains k = false)
    (not : p (k, v) = false) : (m.insert k v).toList.filter p = m.toList.filter p := by
  obtain ⟨below, above, split, inserted, -, -⟩ := insert_split fresh v
  simp [split, inserted, not]

/-- Among the entries it belongs to, a new entry has the place its key has. -/
theorem filter_insert_of_pos {p : κ × ν → Bool} {v : ν} (fresh : m.contains k = false)
    (pos : p (k, v) = true) :
    (m.insert k v).toList.filter p = place k v (m.toList.filter p) := by
  obtain ⟨below, above, split, inserted, low, high⟩ := insert_split fresh v
  have placed : place k v (below.filter p ++ above.filter p) =
      below.filter p ++ (k, v) :: above.filter p :=
    place_append (fun e he => low e (List.mem_filter.mp he).1)
      (fun e he => high e (List.mem_filter.mp he).1) v
  simp [split, inserted, pos, placed]

/-- Erasing what was inserted under a new key gives the map back. -/
theorem erase_insert (fresh : m.contains k = false) (v : ν) : (m.insert k v).erase k = m := by
  obtain ⟨below, above, split, inserted, low, high⟩ := insert_split fresh v
  have smaller : below.filter (fun e => compare k e.1 != .eq) = below :=
    List.filter_eq_self.mpr (fun e he => by simp [low e he])
  have larger : above.filter (fun e => compare k e.1 != .eq) = above :=
    List.filter_eq_self.mpr (fun e he => by simp [high e he])
  refine ext_entries ?_
  show (m.insert k v).toList.filter (fun e => compare k e.1 != .eq) = m.toList
  simp [split, inserted, smaller, larger, Std.ReflCmp.compare_self]

end ordered

section lawful

variable [Std.LawfulEqOrd κ]

theorem find?_eq_none_iff {m : OrderedMap κ ν} {k : κ} :
    m.find? k = none ↔ ∀ e ∈ m.toList, e.1 ≠ k := by
  simp only [find?, toList, Option.map_eq_none_iff, List.find?_eq_none, beq_iff_eq,
    Std.LawfulEqOrd.compare_eq_iff_eq]
  exact forall₂_congr (fun _ _ => ne_comm)

theorem mem_of_find? {m : OrderedMap κ ν} {k : κ} {v : ν} (found : m.find? k = some v) :
    (k, v) ∈ m.toList := by
  obtain ⟨⟨k', v'⟩, he, rfl⟩ := Option.map_eq_some_iff.mp found
  obtain rfl : k = k' := by simpa using List.find?_some he
  exact List.mem_of_find?_eq_some he

theorem contains_iff_mem_keys {m : OrderedMap κ ν} {k : κ} :
    m.contains k = true ↔ k ∈ m.keys := by
  rw [contains, Option.isSome_iff_ne_none, Ne, find?_eq_none_iff]
  simp [keys, toList]

theorem find?_erase_self (m : OrderedMap κ ν) (k : κ) : (m.erase k).find? k = none := by
  simp [find?, erase]

theorem find?_erase_of_ne {m : OrderedMap κ ν} {k k' : κ} (apart : k' ≠ k) :
    (m.erase k).find? k' = m.find? k' := by
  unfold find? erase
  rw [List.find?_filter]
  congr 2
  funext e
  by_cases here : compare k' e.1 = .eq
  · obtain rfl : k' = e.1 := Std.LawfulEqOrd.eq_of_compare here
    have away : compare k e.1 ≠ .eq := fun same => apart (Std.LawfulEqOrd.eq_of_compare same).symm
    simp [away]
  · simp [here]

variable [Std.TransOrd κ]

theorem mem_place {k : κ} {v : ν} {l : List (κ × ν)}
    (sorted : l.Pairwise (fun a b => compare a.1 b.1 = .lt)) {e : κ × ν} :
    e ∈ place k v l ↔ e = (k, v) ∨ e.1 ≠ k ∧ e ∈ l := by
  induction sorted with
  | nil => simp [place]
  | @cons head rest above tail ih =>
    obtain ⟨k', v'⟩ := head
    have later : ∀ e' ∈ rest, e'.1 ≠ k' := fun e' he' => (ne_of_compare_lt (above e' he')).symm
    unfold place
    split
    next lt =>
      -- Every key from here on is larger, so that none of them is the new one.
      have apart : ∀ e' ∈ (k', v') :: rest, e'.1 ≠ k := by
        intro e' he'
        rcases List.mem_cons.1 he' with rfl | he'
        · exact (ne_of_compare_lt lt).symm
        · exact (ne_of_compare_lt (Std.TransCmp.lt_trans lt (above e' he'))).symm
      rw [List.mem_cons]
      exact or_congr_right ⟨fun he => ⟨apart e he, he⟩, And.right⟩
    next eq =>
      obtain rfl : k = k' := Std.LawfulEqOrd.eq_of_compare eq
      simp only [List.mem_cons]
      constructor
      · rintro (rfl | he)
        · exact Or.inl rfl
        · exact Or.inr ⟨later e he, Or.inr he⟩
      · rintro (rfl | ⟨away, rfl | he⟩)
        · exact Or.inl rfl
        · exact absurd rfl away
        · exact Or.inr he
    next gt =>
      have away : k' ≠ k := ne_of_compare_lt (Std.OrientedCmp.gt_iff_lt.1 gt)
      simp only [List.mem_cons, ih]
      constructor
      · rintro (rfl | rfl | ⟨apart, he⟩)
        · exact Or.inr ⟨away, Or.inl rfl⟩
        · exact Or.inl rfl
        · exact Or.inr ⟨apart, Or.inr he⟩
      · rintro (rfl | ⟨apart, rfl | he⟩)
        · exact Or.inr (Or.inl rfl)
        · exact Or.inl rfl
        · exact Or.inr (Or.inr ⟨apart, he⟩)

theorem find?_of_mem {m : OrderedMap κ ν} {k : κ} {v : ν} (there : (k, v) ∈ m.toList) :
    m.find? k = some v := by
  cases found : m.find? k with
  | none => exact absurd rfl (find?_eq_none_iff.mp found _ there)
  | some w => exact congrArg some (value_unique (mem_of_find? found) there)

theorem mem_insert {m : OrderedMap κ ν} {k : κ} {v : ν} {e : κ × ν} :
    e ∈ (m.insert k v).toList ↔ e = (k, v) ∨ e.1 ≠ k ∧ e ∈ m.toList :=
  mem_place m.sorted

/-- Of two values put under a key the second one stays. -/
theorem insert_insert {m : OrderedMap κ ν} {k : κ} {v w : ν} :
    (m.insert k v).insert k w = m.insert k w := by
  refine ext_toList fun e => ?_
  rw [mem_insert, mem_insert, mem_insert]
  constructor
  · rintro (rfl | ⟨apart, rfl | ⟨-, there⟩⟩)
    · exact .inl rfl
    · exact absurd rfl apart
    · exact .inr ⟨apart, there⟩
  · rintro (rfl | ⟨apart, there⟩)
    · exact .inl rfl
    · exact .inr ⟨apart, .inr ⟨apart, there⟩⟩

theorem mem_keys_insert {m : OrderedMap κ ν} {k k' : κ} {v : ν} :
    k' ∈ (m.insert k v).keys ↔ k' = k ∨ k' ∈ m.keys := by
  have entries : (m.insert k v).keys = (m.insert k v).toList.map (·.1) := rfl
  simp only [entries, List.mem_map, mem_insert]
  constructor
  · rintro ⟨e, rfl | ⟨-, there⟩, rfl⟩
    · exact Or.inl rfl
    · exact Or.inr (List.mem_map_of_mem there)
  · rintro (rfl | known)
    · exact ⟨(k', v), Or.inl rfl, rfl⟩
    · obtain ⟨e, there, rfl⟩ := List.mem_map.mp known
      by_cases same : e.1 = k
      · exact ⟨(k, v), Or.inl rfl, same.symm⟩
      · exact ⟨e, Or.inr ⟨same, there⟩, rfl⟩

theorem find?_insert_of_ne {m : OrderedMap κ ν} {k k' : κ} {v : ν} (apart : k' ≠ k) :
    (m.insert k v).find? k' = m.find? k' := by
  have other : compare k' k ≠ .eq := fun same => apart (Std.LawfulEqOrd.eq_of_compare same)
  unfold find?
  rw [entries_insert]
  induction m.entries with
  | nil => simp [place, other]
  | cons head rest ih =>
    obtain ⟨k₀, v₀⟩ := head
    unfold place
    split
    next lt => simp [other]
    next eq =>
      obtain rfl : k = k₀ := Std.LawfulEqOrd.eq_of_compare eq
      simp [other]
    next gt =>
      rw [List.find?_cons, List.find?_cons]
      split
      · rfl
      · exact ih

end lawful

end KeyRenewal.OrderedMap
