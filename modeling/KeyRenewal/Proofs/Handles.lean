import KeyRenewal.Scripted.KeyStore

/-!
# Handles of installed keys

Handles are compared by the components of their paths. The handle of an installed key has two, the
folder and the file name, as long as the account's address has no slash. A file name spells the
account and the range, so that no two keys share one.
-/

namespace KeyRenewal

namespace Path

instance : Std.LawfulEqOrd Component where
  compare_self := Std.ReflCmp.compare_self
  eq_of_compare {a b} same := by
    have both : (compare a.rank b.rank).then (compare a.spelling b.spelling) = .eq := same
    obtain ⟨ranks, spellings⟩ := Ordering.then_eq_eq.mp both
    have sameRank : a.rank = b.rank := Std.LawfulEqOrd.eq_of_compare ranks
    have sameSpelling : a.spelling = b.spelling := Std.LawfulEqOrd.eq_of_compare spellings
    cases a <;> cases b <;> simp_all [Component.rank, Component.spelling]

/-- A piece of more than two characters is neither empty nor made of dots alone. -/
theorem ne_dots_of_long {piece : String} (long : 2 < piece.toList.length) :
    piece ≠ "" ∧ piece ≠ "." ∧ piece ≠ ".." := by
  refine ⟨?_, ?_, ?_⟩ <;> rintro rfl <;> exact absurd long (by decide)

/-- A piece of more than two characters is a name. -/
theorem Component.ofPiece_of_long {piece : String} (long : 2 < piece.toList.length) :
    ofPiece piece = some (name piece) := by
  obtain ⟨full, here, up⟩ := ne_dots_of_long long
  simp [ofPiece, full, here, up]

theorem compare_eq_iff {p q : Path} : compare p q = .eq ↔ p.components = q.components :=
  Std.LawfulEqOrd.compare_eq_iff_eq (a := p.components) (b := q.components)

end Path

theorem Round.toList_toString (r : Round) :
    (toString r).toList = Nat.toDigits 10 r.number.toNat := String.toList_ofList

theorem Round.isDigit_of_mem_toString {r : Round} {c : Char} (there : c ∈ (toString r).toList) :
    c.isDigit = true := by
  rw [toList_toString] at there
  exact Nat.isDigit_of_mem_toDigits (by omega) (by omega) there

theorem Round.toString_inj {r r' : Round} (same : toString r = toString r') : r = r' := by
  have digits (r : Round) : Nat.ofDigitChars 10 (toString r).toList 0 = r.number.toNat := by
    rw [toList_toString]
    exact Nat.ofDigitChars_toDigits (by omega) (by omega)
  apply Round.toNat_inj.mp
  rw [← digits r, ← digits r', same]

theorem Credential.toList_fileNameOf (address : Address) (firstValid lastValid : Round) :
    (fileNameOf address firstValid lastValid).toList =
      address.text.toList ++ ('.' :: (toString firstValid).toList ++
        ('.' :: (toString lastValid).toList ++ ".partkey".toList)) := by
  simp [fileNameOf, toString]

theorem Credential.fileNameOf_long (address : Address) (firstValid lastValid : Round) :
    2 < (fileNameOf address firstValid lastValid).toList.length := by
  simp [toList_fileNameOf]
  omega

/-- The file name of a key has a slash only if the address has one. -/
theorem Credential.slash_not_mem_fileNameOf {address : Address} (plain : '/' ∉ address.text.toList)
    (firstValid lastValid : Round) : '/' ∉ (fileNameOf address firstValid lastValid).toList := by
  rw [toList_fileNameOf]
  have slash (r : Round) : '/' ∉ (toString r).toList := fun there =>
    absurd (Round.isDigit_of_mem_toString there) (by decide)
  simp [plain, slash]

/-- A name spells one account and one range. -/
theorem Credential.fileNameOf_spells {address address' : Address} {first last first' last' : Round}
    (same : fileNameOf address first last = fileNameOf address' first' last') :
    address = address' ∧ first = first' ∧ last = last' := by
  -- Addresses may hold dots and rounds hold none, so the name is taken apart from its end.
  have behind {xs ys : List Char} {r r' : Round}
      (same : xs ++ '.' :: (toString r).toList = ys ++ '.' :: (toString r').toList) :
      xs = ys ∧ r = r' := by
    have dotless (r : Round) : '.' ∉ (toString r).toList := fun there =>
      absurd (Round.isDigit_of_mem_toString there) (by decide)
    have pieces := congrArg (List.splitOn '.') same
    rw [List.splitOn_append_cons_self, List.splitOn_append_cons_self,
      List.splitOn_eq_singleton (dotless r), List.splitOn_eq_singleton (dotless r')] at pieces
    have digits := List.singleton_inj.mp (List.append_inj_right' pieces rfl)
    rw [digits] at same
    exact ⟨List.append_cancel_right same, Round.toString_inj (String.toList_injective digits)⟩
  have texts := congrArg String.toList same
  simp only [toList_fileNameOf, ← List.append_assoc] at texts
  obtain ⟨shorter, sameLast⟩ := behind (List.append_cancel_right texts)
  obtain ⟨texts, sameFirst⟩ := behind shorter
  cases address
  cases address'
  cases String.toList_injective texts
  exact ⟨rfl, sameFirst, sameLast⟩

namespace MemoryStore

/-- The handle of an installed key lies directly in the folder. -/
theorem components_handleFor {address : Address} (plain : '/' ∉ address.text.toList)
    (firstValid lastValid : Round) :
    (handleFor address firstValid lastValid).components =
      [.name "memory", .name (Credential.fileNameOf address firstValid lastValid)] := by
  have name : Path.Component.ofPiece (Credential.fileNameOf address firstValid lastValid) =
      some (.name (Credential.fileNameOf address firstValid lastValid)) :=
    Path.Component.ofPiece_of_long (Credential.fileNameOf_long _ _ _)
  have folder : Path.Component.ofPiece "memory" = some (.name "memory") := by decide
  have pieces : Path.pieces ("memory".toList ++
      '/' :: (Credential.fileNameOf address firstValid lastValid).toList) =
      ["memory", Credential.fileNameOf address firstValid lastValid] := by
    rw [Path.pieces, List.splitOn_append_cons_self_of_not_mem (by decide),
      List.splitOn_eq_singleton (Credential.slash_not_mem_fileNameOf plain firstValid lastValid)]
    simp
  have text : (handleFor address firstValid lastValid).text.toList =
      "memory".toList ++ '/' :: (Credential.fileNameOf address firstValid lastValid).toList := by
    simp [handleFor]
  unfold Path.components
  rw [text]
  split
  next cs rooted => exact absurd (congrArg List.head? rooted) (by simp)
  next =>
    rw [pieces]
    change List.filterMap Path.Component.ofPiece ["memory", _] = _
    rw [List.filterMap_cons_some folder, List.filterMap_cons_some name, List.filterMap_nil]

/-- Keys of one range have one handle only if they belong to one account. -/
theorem handleFor_inj {a b : Address} (plainA : '/' ∉ a.text.toList) (plainB : '/' ∉ b.text.toList)
    {firstValid lastValid : Round}
    (same : compare (handleFor a firstValid lastValid) (handleFor b firstValid lastValid) = .eq) :
    a = b := by
  rw [Path.compare_eq_iff, components_handleFor plainA, components_handleFor plainB] at same
  injection same with _ rest
  injection rest with name
  injection name with name
  exact (Credential.fileNameOf_spells name).1

end MemoryStore

end KeyRenewal
