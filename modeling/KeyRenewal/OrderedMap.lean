/-!
# Finite maps in key order

A map is its list of entries, strictly increasing in the key. Two keys that compare as equal are one
key even when they are spelled differently: inserting again replaces the value and keeps the first
spelling. `toList` is the view through which everything else is stated.
-/

namespace KeyRenewal

/-- A finite map with its entries in increasing key order. -/
structure OrderedMap (κ ν : Type) [Ord κ] where
  entries : List (κ × ν)
  sorted : entries.Pairwise (fun a b => compare a.1 b.1 = .lt)

namespace OrderedMap

variable {κ ν : Type} [Ord κ]

instance [DecidableEq κ] [DecidableEq ν] : DecidableEq (OrderedMap κ ν) := fun a b =>
  if h : a.entries = b.entries then
    .isTrue (by cases a; cases b; cases h; rfl)
  else
    .isFalse (fun e => h (congrArg entries e))

theorem ext_entries {m n : OrderedMap κ ν} (h : m.entries = n.entries) : m = n := by
  cases m; cases n; cases h; rfl

def empty : OrderedMap κ ν := ⟨[], .nil⟩

instance : Inhabited (OrderedMap κ ν) := ⟨empty⟩

def toList (m : OrderedMap κ ν) : List (κ × ν) := m.entries

def keys (m : OrderedMap κ ν) : List κ := m.entries.map (·.1)

def values (m : OrderedMap κ ν) : List ν := m.entries.map (·.2)

def size (m : OrderedMap κ ν) : Nat := m.entries.length

def find? (m : OrderedMap κ ν) (k : κ) : Option ν :=
  (m.entries.find? (fun e => compare k e.1 == .eq)).map (·.2)

def contains (m : OrderedMap κ ν) (k : κ) : Bool := (m.find? k).isSome

/-- Put a value under a key, before the first larger key or in place of an equal one. -/
def place (k : κ) (v : ν) : List (κ × ν) → List (κ × ν)
  | [] => [(k, v)]
  | (k', v') :: rest =>
    match compare k k' with
    | .lt => (k, v) :: (k', v') :: rest
    | .eq => (k', v) :: rest
    | .gt => (k', v') :: place k v rest

theorem key_of_mem_place {k : κ} {v : ν} {l : List (κ × ν)} {e : κ × ν} (h : e ∈ place k v l) :
    e.1 = k ∨ ∃ e' ∈ l, e'.1 = e.1 := by
  induction l with
  | nil => exact Or.inl (by simp_all [place])
  | cons head rest ih =>
    obtain ⟨k', v'⟩ := head
    unfold place at h
    split at h
    · rcases List.mem_cons.1 h with rfl | h
      · exact Or.inl rfl
      · exact Or.inr ⟨e, h, rfl⟩
    · rcases List.mem_cons.1 h with rfl | h
      · exact Or.inr ⟨(k', v'), List.mem_cons_self, rfl⟩
      · exact Or.inr ⟨e, List.mem_cons_of_mem _ h, rfl⟩
    · rcases List.mem_cons.1 h with rfl | h
      · exact Or.inr ⟨(k', v'), List.mem_cons_self, rfl⟩
      · rcases ih h with hk | ⟨e', he, hk⟩
        · exact Or.inl hk
        · exact Or.inr ⟨e', List.mem_cons_of_mem _ he, hk⟩

theorem place_sorted [Std.TransOrd κ] (k : κ) (v : ν) {l : List (κ × ν)}
    (sorted : l.Pairwise (fun a b => compare a.1 b.1 = .lt)) :
    (place k v l).Pairwise (fun a b => compare a.1 b.1 = .lt) := by
  induction sorted with
  | nil => exact List.pairwise_singleton _ _
  | @cons head rest above tail ih =>
    obtain ⟨k', v'⟩ := head
    unfold place
    split
    next lt =>
      refine .cons ?_ (.cons above tail)
      intro e he
      rcases List.mem_cons.1 he with rfl | he
      · exact lt
      · exact Std.TransCmp.lt_trans lt (above e he)
    next => exact .cons above tail
    next gt =>
      refine .cons ?_ ih
      intro e he
      rcases key_of_mem_place he with hk | ⟨e', he', hk⟩
      · show compare k' e.1 = .lt
        rw [hk]
        exact Std.OrientedCmp.gt_iff_lt.1 gt
      · show compare k' e.1 = .lt
        rw [← hk]
        exact above e' he'

/-- Insert or replace; a key that is already there keeps its spelling. -/
def insert [Std.TransOrd κ] (m : OrderedMap κ ν) (k : κ) (v : ν) : OrderedMap κ ν :=
  ⟨place k v m.entries, place_sorted k v m.sorted⟩

/-- Drop the entry of a key, if there is one. -/
def erase (m : OrderedMap κ ν) (k : κ) : OrderedMap κ ν :=
  ⟨m.entries.filter (fun e => compare k e.1 != .eq), m.sorted.filter _⟩

/-- Insert the pairs of a list one after another. -/
def ofList [Std.TransOrd κ] (l : List (κ × ν)) : OrderedMap κ ν :=
  l.foldl (fun m e => m.insert e.1 e.2) empty

theorem entries_insert [Std.TransOrd κ] (m : OrderedMap κ ν) (k : κ) (v : ν) :
    (m.insert k v).entries = place k v m.entries := rfl

end OrderedMap

end KeyRenewal
