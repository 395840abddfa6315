import KeyRenewal.KeyFolder
import KeyRenewal.Proofs.Handles

/-!
# Names in a folder

A name joined to a path adds one component to it, whatever dots and slashes the path ends in, so
that names in one folder are ordered as they are spelled. An address passes as the name of a key
file exactly if it is such a name, and then the key file has one too.
-/

namespace KeyRenewal

/-- Lists that begin alike are ordered by what they end in. -/
theorem compare_append_singleton {α : Type} [Ord α] [Std.ReflOrd α] (before : List α) (a b : α) :
    compare (before ++ [a]) (before ++ [b]) = compare a b := by
  show List.compareLex compare (before ++ [a]) (before ++ [b]) = _
  induction before with
  | nil => simp [List.compareLex_cons_cons, List.compareLex_nil_nil]
  | cons c before ih => simp [List.compareLex_cons_cons, ih]

/-- A name that is one component of a path. -/
structure SingleName (text : String) : Prop where
  full : text ≠ ""
  here : text ≠ "."
  up : text ≠ ".."
  slash : '/' ∉ text.toList

/-- A name that is one component of a path and can be given to the file system. -/
structure PlainName (text : String) : Prop where
  full : text ≠ ""
  here : text ≠ "."
  up : text ≠ ".."
  slash : '/' ∉ text.toList
  nul : '\x00' ∉ text.toList

theorem PlainName.single {text : String} (plain : PlainName text) : SingleName text :=
  ⟨plain.full, plain.here, plain.up, plain.slash⟩

/-- Nothing that is split off holds what it was split at. -/
theorem not_mem_of_mem_splitOn {c : Char} {cs piece : List Char} (there : piece ∈ cs.splitOn c) :
    c ∉ piece := by
  by_cases split : c ∈ cs
  · obtain ⟨before, after, whole, first⟩ := List.eq_append_cons_of_mem split
    rw [whole, List.splitOn_append_cons_self_of_not_mem first] at there
    rcases List.mem_cons.mp there with rfl | later
    · exact first
    · exact not_mem_of_mem_splitOn later
  · rw [List.splitOn_eq_singleton split, List.mem_singleton] at there
    rwa [there]
termination_by cs.length
decreasing_by simp [whole]; omega

namespace Path

variable {name : String} {root : Path}

/-- A slash starts a new piece. -/
theorem pieces_append_slash (cs ds : List Char) :
    pieces (cs ++ '/' :: ds) = pieces cs ++ pieces ds := by
  simp only [pieces, List.splitOn_append_cons_self, List.map_append]

theorem pieces_of_single (single : SingleName name) : pieces name.toList = [name] := by
  simp [pieces, List.splitOn_eq_singleton single.slash]

theorem pieces_ne_nil (cs : List Char) : pieces cs ≠ [] := by
  simp [pieces, List.splitOn_ne_nil]

/-- There is no slash in a piece. -/
theorem slash_not_mem_of_mem_pieces {cs : List Char} (there : name ∈ pieces cs) :
    '/' ∉ name.toList := by
  obtain ⟨piece, split, rfl⟩ := List.mem_map.mp there
  rw [String.toList_ofList]
  exact not_mem_of_mem_splitOn split

theorem Component.ofPiece_of_single (single : SingleName name) :
    ofPiece name = some (.name name) := by
  simp [ofPiece, single.full, single.here, single.up]

/-- A piece stands for a name only if it is that name, and not empty or dots alone. -/
theorem Component.ofPiece_eq_name {piece : String} (stands : ofPiece piece = some (.name name)) :
    piece = name ∧ name ≠ "" ∧ name ≠ "." ∧ name ≠ ".." := by
  unfold ofPiece at stands
  split at stands
  next => cases stands
  next moves =>
    split at stands
    next => cases stands
    next down =>
      cases stands
      exact ⟨rfl, fun empty => moves (.inl empty), fun here => moves (.inr here), down⟩

/-- What opens a path besides its names: a slash, or a dot that stands first. -/
def lead (p : Path) : List Component :=
  if p.isAbsolute then [.root]
  else if (pieces p.text.toList).head? = some "." then [.here]
  else []

/-- The components of a path are what opens it and what its pieces stand for. -/
theorem components_eq (p : Path) :
    p.components = p.lead ++ (pieces p.text.toList).filterMap Component.ofPiece := by
  unfold components lead isAbsolute
  have dot : Component.ofPiece "." = none := by decide
  have blank : Component.ofPiece "" = none := by decide
  split
  next cs rooted =>
    rw [rooted, show pieces ('/' :: cs) = "" :: pieces cs from pieces_append_slash [] cs]
    simp [blank]
  next notRooted =>
    have relative : ¬ (p.text.toList.head? == some '/') = true := by
      intro absolute
      obtain ⟨cs, rooted⟩ := List.head?_eq_some_iff.mp (beq_iff_eq.mp absolute)
      exact notRooted cs rooted
    rw [if_neg relative]
    split
    next rest dotted => simp [dotted, dot]
    next all notDotted =>
      rw [if_neg, List.nil_append]
      intro dotted
      obtain ⟨rest, dotted⟩ := List.head?_eq_some_iff.mp dotted
      exact notDotted rest dotted

/-- Slashes alone make an absolute path. -/
theorem isAbsolute_of_blank {p : Path} (full : p.text ≠ "") {n : Nat}
    (blank : pieces p.text.toList = List.replicate n "") : p.isAbsolute = true := by
  have first : ∀ piece ∈ pieces p.text.toList, piece = "" := fun piece there => by
    rw [blank] at there
    exact List.eq_of_mem_replicate there
  by_cases slashed : '/' ∈ p.text.toList
  · obtain ⟨cs, ds, text, before⟩ := List.eq_append_cons_of_mem slashed
    rw [text, pieces_append_slash, pieces, List.splitOn_eq_singleton before] at first
    have empty := first (String.ofList cs) (by simp)
    obtain rfl : cs = [] := by simpa using empty
    simp [isAbsolute, text]
  · rw [pieces, List.splitOn_eq_singleton slashed] at first
    exact absurd (by simpa using first) full

/-- A name is not absolute. -/
theorem isAbsolute_of_single (single : SingleName name) : (Path.mk name).isAbsolute = false := by
  unfold isAbsolute
  rw [beq_eq_false_iff_ne]
  intro absolute
  exact single.slash (List.mem_of_head? absolute)

/-- Whether or not a path ends in a slash, a name is joined to it with one. -/
theorem text_join (single : SingleName name) (given : root.text ≠ "") :
    ∃ cs, (root.text.toList = cs ∨ root.text.toList = cs ++ ['/']) ∧
      (root.join ⟨name⟩).text.toList = cs ++ '/' :: name.toList := by
  unfold join
  rw [isAbsolute_of_single single, if_neg (by decide)]
  by_cases slashed : root.text.toList.getLast? = some '/'
  · obtain ⟨cs, ends⟩ := List.getLast?_eq_some_iff.mp slashed
    exact ⟨cs, .inr ends, by simp [ends]⟩
  · exact ⟨root.text.toList, .inl rfl, by simp [slashed, given]⟩

/-- A name is joined behind what is there. -/
theorem join_extends (single : SingleName name) (root : Path) :
    ∃ slash, (root.join ⟨name⟩).text = root.text ++ slash ++ name := by
  unfold join
  rw [isAbsolute_of_single single, if_neg (by decide)]
  split
  · exact ⟨"", by simp⟩
  · exact ⟨"/", rfl⟩

/-- Joining a name adds it to the pieces, in place of an empty last one. -/
theorem pieces_join (single : SingleName name) (given : root.text ≠ "") :
    ∃ before, before ≠ [] ∧
      (pieces root.text.toList = before ∨ pieces root.text.toList = before ++ [""]) ∧
      pieces (root.join ⟨name⟩).text.toList = before ++ [name] := by
  obtain ⟨cs, ends, joined⟩ := text_join single given
  refine ⟨pieces cs, pieces_ne_nil cs, ?_, ?_⟩
  · rcases ends with ends | ends
    · exact .inl (by rw [ends])
    · exact .inr (by rw [ends, pieces_append_slash]; rfl)
  · rw [joined, pieces_append_slash, pieces_of_single single]

theorem isAbsolute_join (single : SingleName name) (given : root.text ≠ "") :
    (root.join ⟨name⟩).isAbsolute = root.isAbsolute := by
  obtain ⟨cs, ends, joined⟩ := text_join single given
  unfold isAbsolute
  rw [joined]
  cases cs with
  | nil =>
    rcases ends with ends | ends
    · exact absurd (String.toList_eq_nil_iff.mp ends) given
    · rw [ends]
      rfl
  | cons c cs => rcases ends with ends | ends <;> rw [ends] <;> rfl

theorem lead_join (single : SingleName name) (given : root.text ≠ "") :
    (root.join ⟨name⟩).lead = root.lead := by
  obtain ⟨before, nonempty, ends, joined⟩ := pieces_join single given
  have first : (pieces (root.join ⟨name⟩).text.toList).head? =
      (pieces root.text.toList).head? := by
    have opens (ps : List String) : (before ++ ps).head? = before.head? := by
      cases before with
      | nil => exact absurd rfl nonempty
      | cons p before => rfl
    rw [joined, opens]
    rcases ends with ends | ends
    · rw [ends]
    · rw [ends, opens]
  unfold lead
  rw [isAbsolute_join single given, first]

/-- A name joined to the empty path stands alone. -/
theorem join_of_empty (single : SingleName name) : (Path.mk "").join ⟨name⟩ = ⟨name⟩ := by
  simp [join, isAbsolute_of_single single]

/-- A name alone is one component. -/
theorem components_of_single (single : SingleName name) :
    (Path.mk name).components = [.name name] := by
  rw [components_eq, pieces_of_single single]
  simp [lead, isAbsolute_of_single single, pieces_of_single single, single.here,
    Component.ofPiece_of_single single]

/-- Joining a name adds one component. -/
theorem components_join (single : SingleName name) :
    (root.join ⟨name⟩).components = root.components ++ [.name name] := by
  by_cases given : root.text = ""
  · obtain rfl : root = ⟨""⟩ := congrArg Path.mk given
    rw [join_of_empty single, components_of_single single]
    rfl
  obtain ⟨before, nonempty, ends, joined⟩ := pieces_join single given
  have blank : Component.ofPiece "" = none := by decide
  have same : (pieces root.text.toList).filterMap Component.ofPiece =
      before.filterMap Component.ofPiece := by
    rcases ends with ends | ends
    · rw [ends]
    · simp [ends, blank]
  rw [components_eq, components_eq root, lead_join single given, joined, same]
  simp [Component.ofPiece_of_single single]

/-- Names in one folder are ordered as they are spelled. -/
theorem compare_join {other : String} (single : SingleName name) (single' : SingleName other) :
    compare (root.join ⟨name⟩) (root.join ⟨other⟩) = compare name other := by
  show compare (root.join ⟨name⟩).components (root.join ⟨other⟩).components = _
  rw [components_join single, components_join single', compare_append_singleton]
  show (compare 3 3).then (compare name other) = compare name other
  rfl

theorem fileName?_join (single : SingleName name) : (root.join ⟨name⟩).fileName? = some name := by
  simp [fileName?, components_join single]

end Path

namespace Credential

variable {address : Address}

/-- The name of a key file is one component if its account is. -/
theorem single_fileNameOf (single : SingleName address.text) (first last : Round) :
    SingleName (fileNameOf address first last) := by
  obtain ⟨full, here, up⟩ := Path.ne_dots_of_long (fileNameOf_long address first last)
  exact ⟨full, here, up, slash_not_mem_fileNameOf single.slash first last⟩

/-- The name of a key file is plain if its account's is. -/
theorem plain_fileNameOf (plain : PlainName address.text) (first last : Round) :
    PlainName (fileNameOf address first last) := by
  obtain ⟨full, here, up, slash⟩ := single_fileNameOf plain.single first last
  have nul (r : Round) : '\x00' ∉ (toString r).toList := fun there =>
    absurd (Round.isDigit_of_mem_toString there) (by decide)
  refine ⟨full, here, up, slash, ?_⟩
  rw [toList_fileNameOf]
  simp [plain.nul, nul]

/-- The name of a key file has the extension of one. -/
theorem extensionOf_fileNameOf (address : Address) (first last : Round) :
    Path.extensionOf (fileNameOf address first last) = some fileExtension := by
  obtain ⟨c, stem, name⟩ : ∃ c stem, (fileNameOf address first last).toList.reverse =
      "partkey".toList.reverse ++ '.' :: c :: stem := by
    have digits : (toString last).toList ≠ [] := by
      rw [last.toList_toString]
      exact Nat.toDigits_ne_nil
    obtain ⟨c, rest, ends⟩ := List.exists_cons_of_ne_nil (List.reverse_ne_nil_iff.mpr digits)
    refine ⟨c, rest ++ (address.text.toList ++ '.' :: (toString first).toList ++ ['.']).reverse, ?_⟩
    rw [toList_fileNameOf]
    simp [ends]
  unfold Path.extensionOf
  rw [name]
  rfl

end Credential

/-- The handles of a store in memory are those of a folder of that name. -/
theorem MemoryStore.handleFor_eq_join {address : Address} (plain : PlainName address.text)
    (first last : Round) :
    handleFor address first last =
      (Path.mk "memory").join ⟨Credential.fileNameOf address first last⟩ := by
  unfold Path.join
  have single := Credential.single_fileNameOf plain.single first last
  rw [Path.isAbsolute_of_single single, if_neg (by decide), if_neg (by decide)]
  rfl

namespace KeyFolder

variable {address : Address}

/-- An address passes as the name of a key file exactly if it is one component of a path. -/
theorem isFileName_iff : isFileName address = true ↔ SingleName address.text := by
  unfold isFileName
  rw [beq_iff_eq]
  refine ⟨fun alone => ?_, Path.components_of_single⟩
  -- What opens a path is no name, so the name is one of the pieces.
  have there : Path.Component.name address.text ∈ (Path.mk address.text).components := by
    rw [alone]
    exact List.mem_singleton_self _
  rw [Path.components_eq, List.mem_append] at there
  rcases there with opens | there
  · unfold Path.lead at opens
    split at opens
    next => simp at opens
    next => split at opens <;> simp at opens
  · obtain ⟨piece, split, stands⟩ := List.mem_filterMap.mp there
    obtain ⟨rfl, full, here, up⟩ := Path.Component.ofPiece_eq_name stands
    exact ⟨full, here, up, Path.slash_not_mem_of_mem_pieces split⟩

theorem checkAddress_iff : checkAddress address = .ok () ↔ SingleName address.text := by
  rw [← isFileName_iff, checkAddress]
  cases isFileName address <;> simp

end KeyFolder

/-- An address is accepted exactly if it is one component of a path. The key file of an accepted
address lies directly in the folder it is joined to and is marked as a key file, and its name tells
the account and the range. -/
theorem key_names_unambiguous :
    (∀ address, KeyFolder.checkAddress address = .ok () ↔
      address.text ≠ "" ∧ '/' ∉ address.text.toList ∧ address.text ≠ "." ∧ address.text ≠ "..") ∧
    (∀ address, KeyFolder.checkAddress address = .ok () → ∀ (first last : Round) (folder : Path),
      let file := folder.join ⟨Credential.fileNameOf address first last⟩
      file.components =
          folder.components ++ [.name (Credential.fileNameOf address first last)] ∧
        file.extension? = some "partkey") ∧
    (∀ c c' : Credential, KeyFolder.checkAddress c.address = .ok () →
      KeyFolder.checkAddress c'.address = .ok () → (c.fileName = c'.fileName ↔
        c.address = c'.address ∧ c.firstValid = c'.firstValid ∧ c.lastValid = c'.lastValid)) := by
  refine ⟨fun address => ?_, fun address accepted first last folder => ?_, fun c c' _ _ => ?_⟩
  · rw [KeyFolder.checkAddress_iff]
    exact ⟨fun single => ⟨single.full, single.slash, single.here, single.up⟩,
      fun ⟨full, slash, here, up⟩ => ⟨full, here, up, slash⟩⟩
  · have single := Credential.single_fileNameOf (KeyFolder.checkAddress_iff.mp accepted) first last
    refine ⟨Path.components_join single, ?_⟩
    rw [Path.extension?, Path.fileName?_join single]
    exact Credential.extensionOf_fileNameOf address first last
  · constructor
    · exact Credential.fileNameOf_spells
    · rintro ⟨address, first, last⟩
      rw [Credential.fileName, Credential.fileName, address, first, last]

theorem key_names_unambiguous_of_dotted :
    let dotted : Credential := ⟨⟨"A.1"⟩, ⟨2⟩, ⟨9⟩, default, default, 1⟩
    let short : Credential := ⟨⟨"A"⟩, ⟨1⟩, ⟨9⟩, default, default, 1⟩
    KeyFolder.checkAddress dotted.address = .ok () ∧ KeyFolder.checkAddress short.address = .ok () ∧
    ((Path.mk "keys/.").join ⟨dotted.fileName⟩).components =
      [.name "keys", .name "A.1.2.9.partkey"] ∧
    dotted.fileName ≠ short.fileName := by
  intro dotted short
  obtain ⟨accepts, lies, tells⟩ := key_names_unambiguous
  have accepted : KeyFolder.checkAddress dotted.address = .ok () := (accepts _).mpr (by decide)
  have accepted' : KeyFolder.checkAddress short.address = .ok () := (accepts _).mpr (by decide)
  refine ⟨accepted, accepted', (lies _ accepted ⟨2⟩ ⟨9⟩ _).1.trans (by decide), fun same => ?_⟩
  exact absurd ((tells dotted short accepted accepted').mp same).1 (by decide)

end KeyRenewal
