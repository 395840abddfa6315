import KeyRenewal.Proofs.FileNames
import KeyRenewal.Proofs.OrderedMap
import Mathlib.Data.List.TakeWhile

/-!
# Files in a directory

A path leads to a directory if it can be followed there, and goes on doing so as long as directories
stay. What is done to a plain name joined to such a path is done to the node of that name in the
directory and to nothing else.
-/

namespace KeyRenewal

namespace FileTree

variable {t t' : FileTree} {place next target : Place} {piece : String} {pieces : List String}

/-- A step is taken from a directory: it stays there, goes up, or goes to a name that is there. -/
theorem step_cases (taken : t.step place piece = .ok next) :
    t.node? place = some .directory ∧
      ((piece = "" ∨ piece = ".") ∧ next = place ∨
        ¬ (piece = "" ∨ piece = ".") ∧ piece = ".." ∧ next = place.dropLast ∨
        ¬ (piece = "" ∨ piece = ".") ∧ piece ≠ ".." ∧ piece.utf8ByteSize ≤ nameLimit ∧
          (t.node? (place ++ [piece])).isSome ∧ next = place ++ [piece]) := by
  unfold step at taken
  split at taken
  next => cases taken
  next => cases taken
  next there =>
    refine ⟨there, ?_⟩
    split at taken
    next stays =>
      cases taken
      exact .inl ⟨stays, rfl⟩
    next moves =>
      split at taken
      next up =>
        cases taken
        exact .inr (.inl ⟨moves, up, rfl⟩)
      next down =>
        split at taken
        next => cases taken
        next short =>
          split at taken
          next found =>
            cases taken
            exact .inr (.inr ⟨moves, down, Nat.le_of_not_lt short, found, rfl⟩)
          next => cases taken

/-- A step to a name that is there. -/
theorem step_name {parent : Place} {name : String} (there : t.node? parent = some .directory)
    (stays : ¬ (name = "" ∨ name = ".")) (up : name ≠ "..") (short : name.utf8ByteSize ≤ nameLimit)
    (found : (t.node? (parent ++ [name])).isSome) :
    t.step parent name = .ok (parent ++ [name]) := by
  simp [step, there, stays, up, Nat.not_lt.mpr short, found]

theorem step_blank (there : t.node? place = some .directory) : t.step place "" = .ok place := by
  simp [step, there]

theorem follow_cons_iff :
    t.follow place (piece :: pieces) = .ok target ↔
      ∃ next, t.step place piece = .ok next ∧ t.follow next pieces = .ok target := by
  rw [follow]
  cases t.step place piece with
  | error e => exact ⟨nofun, nofun⟩
  | ok next =>
    constructor
    · exact fun onward => ⟨next, rfl, onward⟩
    · rintro ⟨_, ⟨⟩, onward⟩
      exact onward

/-- A path is followed piece by piece, so it can be parted anywhere. -/
theorem follow_append_iff {first rest : List String} :
    t.follow place (first ++ rest) = .ok target ↔
      ∃ next, t.follow place first = .ok next ∧ t.follow next rest = .ok target := by
  induction first generalizing place with
  | nil =>
    constructor
    · exact fun onward => ⟨place, rfl, onward⟩
    · rintro ⟨_, ⟨⟩, onward⟩
      exact onward
  | cons piece first ih =>
    simp only [List.cons_append, follow_cons_iff, ih]
    constructor
    · rintro ⟨near, taken, far, reached, onward⟩
      exact ⟨far, ⟨near, taken, reached⟩, onward⟩
    · rintro ⟨far, ⟨near, taken, reached⟩, onward⟩
      exact ⟨near, taken, far, reached, onward⟩

theorem follow_singleton :
    t.follow place [piece] = .ok target ↔ t.step place piece = .ok target := by
  rw [follow_cons_iff]
  constructor
  · rintro ⟨next, taken, ⟨⟩⟩
    exact taken
  · exact fun taken => ⟨target, taken, rfl⟩

/-- What is followed to a directory starts from one. -/
theorem directory_of_follow (followed : t.follow place pieces = .ok target)
    (there : t.node? target = some .directory) : t.node? place = some .directory := by
  cases pieces with
  | nil =>
    cases followed
    exact there
  | cons piece rest =>
    obtain ⟨next, taken, -⟩ := follow_cons_iff.mp followed
    exact (step_cases taken).1

/-- As long as directories stay, a path to a directory goes on leading there. -/
theorem follow_of_kept (kept : ∀ p, t.node? p = some .directory → t'.node? p = some .directory)
    (followed : t.follow place pieces = .ok target) (there : t.node? target = some .directory) :
    t'.follow place pieces = .ok target := by
  induction pieces generalizing place with
  | nil =>
    cases followed
    rfl
  | cons piece rest ih =>
    obtain ⟨next, taken, onward⟩ := follow_cons_iff.mp followed
    refine follow_cons_iff.mpr ⟨next, ?_, ih onward⟩
    obtain ⟨here, moved⟩ := step_cases taken
    -- Each place on the way is a directory, also the one reached by this step.
    have reached := kept next (directory_of_follow onward there)
    rcases moved with ⟨stays, rfl⟩ | ⟨moves, up, rfl⟩ | ⟨moves, down, short, -, rfl⟩
    · simp [step, kept _ here, stays]
    · simp [step, kept _ here, up]
    · exact step_name (kept _ here) moves down short (by rw [reached]; rfl)

/-- Empty pieces lead nowhere else. -/
theorem follow_blanks {n : Nat} (followed : t.follow place (List.replicate n "") = .ok next) :
    next = place := by
  induction n with
  | zero =>
    cases followed
    rfl
  | succ n ih =>
    obtain ⟨stayed, taken, onward⟩ := follow_cons_iff.mp followed
    rcases (step_cases taken).2 with ⟨-, rfl⟩ | ⟨moves, -⟩ | ⟨moves, -⟩
    · exact ih onward
    · exact absurd (.inl rfl) moves
    · exact absurd (.inl rfl) moves

theorem follow_blanks_of_directory (there : t.node? place = some .directory) (n : Nat) :
    t.follow place (List.replicate n "") = .ok place := by
  induction n with
  | zero => rfl
  | succ n ih => exact follow_cons_iff.mpr ⟨place, step_blank there, ih⟩

/-- Trimming cuts off the empty pieces at the end and no others. -/
theorem trimPieces_spec (pieces : List String) :
    ∃ n, pieces = (trimPieces pieces).1 ++ List.replicate n "" ∧
      (trimPieces pieces).1.getLast? ≠ some "" := by
  have blank : ∀ p ∈ pieces.reverse.takeWhile (· = ""), p = "" := fun p there => by
    simpa using List.mem_takeWhile_imp there
  refine ⟨(pieces.reverse.takeWhile (· = "")).length, ?_, ?_⟩
  · have whole := congrArg List.reverse
      (List.takeWhile_append_dropWhile (p := (· = "")) (l := pieces.reverse))
    rw [List.reverse_append, List.reverse_reverse, List.eq_replicate_of_mem blank,
      List.reverse_replicate] at whole
    exact whole.symm
  · have first := List.head?_dropWhile_not (· = "") pieces.reverse
    show (pieces.reverse.dropWhile (· = "")).reverse.getLast? ≠ some ""
    rw [List.getLast?_reverse]
    intro same
    rw [same] at first
    simp at first

theorem trimPieces_concat {name : String} (full : name ≠ "") (before : List String) :
    trimPieces (before ++ [name]) = (before ++ [name], false) := by
  simp [trimPieces, full]

theorem follow_trim {start : Place} (there : t.node? place = some .directory) :
    t.follow start (trimPieces pieces).1 = .ok place ↔ t.follow start pieces = .ok place := by
  obtain ⟨n, whole, -⟩ := trimPieces_spec pieces
  constructor
  · intro followed
    rw [whole]
    exact follow_append_iff.mpr ⟨place, followed, follow_blanks_of_directory there n⟩
  · intro followed
    rw [whole] at followed
    obtain ⟨next, kept, onward⟩ := follow_append_iff.mp followed
    rw [follow_blanks onward]
    exact kept

/-- A path that can be followed to a directory. -/
structure LeadsTo (t : FileTree) (p : Path) (place : Place) : Prop where
  nul : '\x00' ∉ p.text.toList
  full : p.text ≠ ""
  short : p.text.utf8ByteSize < pathLimit
  followed : t.follow (t.startOf p) (Path.pieces p.text.toList) = .ok place
  there : t.node? place = some .directory

/-- Where a path may lead at all, it is located by its pieces but for the empty ones at the end. -/
theorem locate_eq (t : FileTree) {p : Path} (nul : '\x00' ∉ p.text.toList) (full : p.text ≠ "")
    (short : p.text.utf8ByteSize < pathLimit) {kept : List String} {slashed : Bool}
    (trimmed : trimPieces (Path.pieces p.text.toList) = (kept, slashed)) :
    t.locate p =
      match kept.getLast? with
      | none => .ok (.directory [])
      | some name =>
        if name = "." ∨ name = ".." then (t.follow (t.startOf p) kept).map .directory
        else t.follow (t.startOf p) kept.dropLast >>= fun parent =>
          if t.node? parent = some .directory then .ok (.entry parent name slashed)
          else .error .notADirectory := by
  unfold locate
  rw [if_neg (by simpa using nul), if_neg full, if_neg (Nat.not_le.mpr short)]
  simp only [trimmed]
  cases kept.getLast? with
  | none => rfl
  | some name =>
    by_cases dots : name = "." ∨ name = ".."
    · simp only [if_pos dots]
      rfl
    · simp only [if_neg dots]
      cases t.follow (t.startOf p) kept.dropLast with
      | error e => rfl
      | ok parent =>
        simp only [bind, Except.bind]
        rcases t.node? parent with _ | _ | _ <;> rfl

theorem usable_of_locate {p : Path} {found : Target} (located : t.locate p = .ok found) :
    '\x00' ∉ p.text.toList ∧ p.text ≠ "" ∧ p.text.utf8ByteSize < pathLimit := by
  unfold locate at located
  split at located
  next => cases located
  next nul =>
    split at located
    next => cases located
    next full =>
      split at located
      next => cases located
      next short => exact ⟨by simpa using nul, full, Nat.not_le.mp short⟩

/-- A path is located at an entry if all but its last piece lead to the directory. -/
theorem locate_entry_iff {p : Path} {name : String} {slashed : Bool} :
    t.locate p = .ok (.entry place name slashed) ↔
      ('\x00' ∉ p.text.toList ∧ p.text ≠ "" ∧ p.text.utf8ByteSize < pathLimit) ∧
      ∃ before, trimPieces (Path.pieces p.text.toList) = (before ++ [name], slashed) ∧
        ¬ (name = "." ∨ name = "..") ∧ t.follow (t.startOf p) before = .ok place ∧
        t.node? place = some .directory := by
  constructor
  · intro located
    have usable := usable_of_locate located
    refine ⟨usable, ?_⟩
    generalize trimmed : trimPieces (Path.pieces p.text.toList) = last
    obtain ⟨kept, ends⟩ := last
    rw [t.locate_eq usable.1 usable.2.1 usable.2.2 trimmed] at located
    rcases List.eq_nil_or_concat kept with rfl | ⟨before, last, rfl⟩
    · cases located
    rw [List.concat_eq_append] at *
    simp only [List.getLast?_append, List.getLast?_singleton, Option.some_or,
      List.dropLast_concat] at located
    by_cases dots : last = "." ∨ last = ".."
    · rw [if_pos dots] at located
      cases followed : t.follow (t.startOf p) (before ++ [last]) <;> rw [followed] at located <;>
        cases located
    · rw [if_neg dots] at located
      cases followed : t.follow (t.startOf p) before with
      | error e =>
        rw [followed] at located
        cases located
      | ok parent =>
        rw [followed] at located
        by_cases there : t.node? parent = some .directory
        · cases located.symm.trans (if_pos there)
          exact ⟨before, rfl, dots, followed, there⟩
        · cases located.symm.trans (if_neg there)
  · rintro ⟨⟨nul, full, short⟩, before, trimmed, dots, followed, there⟩
    rw [t.locate_eq nul full short trimmed]
    simp only [List.getLast?_append, List.getLast?_singleton, Option.some_or,
      List.dropLast_concat]
    rw [if_neg dots, followed]
    exact if_pos there

/-- A path goes on being located at an entry as long as directories stay. -/
theorem locate_of_kept {p : Path} {name : String} {slashed : Bool}
    (located : t.locate p = .ok (.entry place name slashed))
    (start : t'.workingDirectory = t.workingDirectory)
    (kept : ∀ p, t.node? p = some .directory → t'.node? p = some .directory) :
    t'.locate p = .ok (.entry place name slashed) := by
  obtain ⟨usable, before, trimmed, dots, followed, there⟩ := locate_entry_iff.mp located
  have same : t'.startOf p = t.startOf p := by rw [startOf, startOf, start]
  refine locate_entry_iff.mpr ⟨usable, before, trimmed, dots, ?_, kept _ there⟩
  rw [same]
  exact follow_of_kept kept followed there

theorem child_eq {parent : Place} {name : String} (short : name.utf8ByteSize ≤ nameLimit) :
    t.child parent name = .ok (t.node? (parent ++ [name])) := if_neg (Nat.not_lt.mpr short)

theorem child_eq_ok {parent : Place} {name : String} {found : Option FileNode}
    (looked : t.child parent name = .ok found) :
    name.utf8ByteSize ≤ nameLimit ∧ t.node? (parent ++ [name]) = found := by
  unfold child at looked
  split at looked
  next => cases looked
  next short =>
    cases looked
    exact ⟨Nat.le_of_not_lt short, rfl⟩

/-- What was done in two steps was done in each. -/
theorem bind_eq_ok {ε α β : Type} {x : Except ε α} {f : α → Except ε β} {result : β}
    (ended : x >>= f = .ok result) : ∃ value, x = .ok value ∧ f value = .ok result := by
  cases x with
  | error e => cases ended
  | ok value => exact ⟨value, rfl, ended⟩

/-- A name in a directory is found to be a directory only if there is one of that name. -/
theorem find_directory_of_entry {p : Path} {parent : Place} {name : String} {slashed : Bool}
    (located : t.locate p = .ok (.entry parent name slashed)) :
    t.find p = .ok (place, .directory) ↔ name.utf8ByteSize ≤ nameLimit ∧
      t.node? (parent ++ [name]) = some .directory ∧ place = parent ++ [name] := by
  rw [FileTree.find, located]
  simp only [bind, Except.bind, pure, Except.pure]
  by_cases short : name.utf8ByteSize ≤ nameLimit
  · simp only [child_eq short]
    match t.node? (parent ++ [name]) with
    | none => simp
    | some (.file bytes mode) => cases slashed <;> simp
    | some .directory => simp [short, eq_comm]
  · have long : t.child parent name = .error .invalidFilename := if_pos (Nat.not_le.mp short)
    simp [long, short]

/-- A usable path is found to be a directory exactly if it can be followed to one. -/
theorem find_directory_iff {p : Path} (nul : '\x00' ∉ p.text.toList) (full : p.text ≠ "")
    (short : p.text.utf8ByteSize < pathLimit) (there : t.node? place = some .directory) :
    t.find p = .ok (place, .directory) ↔
      t.follow (t.startOf p) (Path.pieces p.text.toList) = .ok place := by
  rw [← follow_trim there]
  have ends := trimPieces_spec (Path.pieces p.text.toList)
  generalize trimmed : trimPieces (Path.pieces p.text.toList) = last at ends ⊢
  obtain ⟨kept, slashed⟩ := last
  obtain ⟨n, whole, filled⟩ := ends
  have goes := t.locate_eq nul full short trimmed
  rcases List.eq_nil_or_concat kept with rfl | ⟨before, name, rfl⟩
  · -- Slashes alone stand for the root.
    have rooted : t.startOf p = [] := if_pos (Path.isAbsolute_of_blank full whole)
    rw [FileTree.find, goes, rooted]
    constructor <;> (rintro ⟨⟩; rfl)
  rw [List.concat_eq_append] at *
  simp only [List.getLast?_append, List.getLast?_singleton, Option.some_or, List.dropLast_concat]
    at goes filled
  -- A path that ends in dots is followed to its end; a name there is looked up in its parent.
  by_cases dots : name = "." ∨ name = ".."
  · rw [if_pos dots] at goes
    rw [FileTree.find, goes]
    cases t.follow (t.startOf p) (before ++ [name]) with
    | error e => exact ⟨nofun, nofun⟩
    | ok last => constructor <;> (rintro ⟨⟩; rfl)
  rw [if_neg dots] at goes
  rw [follow_append_iff]
  simp only [follow_singleton]
  cases reached : t.follow (t.startOf p) before with
  | error e =>
    rw [reached] at goes
    rw [FileTree.find, goes]
    exact ⟨nofun, nofun⟩
  | ok parent =>
    rw [reached] at goes
    by_cases here : t.node? parent = some .directory
    · rw [find_directory_of_entry (goes.trans (if_pos here))]
      constructor
      · rintro ⟨fits, found, rfl⟩
        have named : ¬ (name = "" ∨ name = ".") := by
          rintro (rfl | rfl)
          · exact filled rfl
          · exact dots (.inl rfl)
        exact ⟨parent, rfl,
          step_name here named (fun up => dots (.inr up)) fits (by rw [found]; rfl)⟩
      · rintro ⟨_, ⟨⟩, stepped⟩
        obtain ⟨-, ⟨stays, -⟩ | ⟨-, up, -⟩ | ⟨-, -, fits, -, rfl⟩⟩ := step_cases stepped
        · rcases stays with rfl | rfl
          · exact absurd rfl filled
          · exact absurd (.inl rfl) dots
        · exact absurd (.inr up) dots
        · exact ⟨fits, there, rfl⟩
    · rw [FileTree.find, goes.trans (if_neg here)]
      refine ⟨nofun, ?_⟩
      rintro ⟨_, ⟨⟩, stepped⟩
      exact absurd (step_cases stepped).1 here

namespace LeadsTo

variable {root : Path} {name : String}

theorem of_find (found : t.find root = .ok (place, .directory))
    (there : t.node? place = some .directory) : t.LeadsTo root place := by
  cases located : t.locate root with
  | error e =>
    rw [FileTree.find, located] at found
    cases found
  | ok target =>
    obtain ⟨nul, full, short⟩ := usable_of_locate located
    exact ⟨nul, full, short, (find_directory_iff nul full short there).mp found, there⟩

theorem find (leads : t.LeadsTo root place) : t.find root = .ok (place, .directory) :=
  (find_directory_iff leads.nul leads.full leads.short leads.there).mpr leads.followed

/-- A path goes on leading to a directory as long as directories stay. -/
theorem of_kept (leads : t.LeadsTo root place) (start : t'.workingDirectory = t.workingDirectory)
    (kept : ∀ p, t.node? p = some .directory → t'.node? p = some .directory) :
    t'.LeadsTo root place := by
  refine ⟨leads.nul, leads.full, leads.short, ?_, kept _ leads.there⟩
  have same : t'.startOf root = t.startOf root := by rw [startOf, startOf, start]
  rw [same]
  exact follow_of_kept kept leads.followed leads.there

theorem readDirectory (leads : t.LeadsTo root place) :
    t.readDirectory root = .ok (t.namesIn place) := by
  rw [FileTree.readDirectory, leads.find]
  rfl

end LeadsTo

/-- Take away what is at a place. -/
def erase (t : FileTree) (place : Place) : FileTree :=
  { t with nodes := t.nodes.erase place }

/-- A name that a file in a folder can have. -/
structure FitsIn (root : Path) (name : String) : Prop where
  plain : PlainName name
  length : name.utf8ByteSize ≤ nameLimit
  path : (root.join ⟨name⟩).text.utf8ByteSize < pathLimit

section files

variable {root : Path} {name : String}

/-- A name joined to a path is an entry of the directory the path leads to. -/
theorem locate_join (leads : t.LeadsTo root place) (fits : FitsIn root name) :
    t.locate (root.join ⟨name⟩) = .ok (.entry place name false) := by
  obtain ⟨before, -, ends, joined⟩ := Path.pieces_join fits.plain.single leads.full
  have followed : t.follow (t.startOf (root.join ⟨name⟩)) before = .ok place := by
    have whole := leads.followed
    rw [startOf, Path.isAbsolute_join fits.plain.single leads.full]
    rcases ends with ends | ends
    · rwa [ends] at whole
    · rw [ends] at whole
      obtain ⟨next, reached, onward⟩ := follow_append_iff.mp whole
      obtain rfl : place = next := follow_blanks (n := 1) onward
      exact reached
  have nul : '\x00' ∉ (root.join ⟨name⟩).text.toList := by
    obtain ⟨cs, ends, text⟩ := Path.text_join fits.plain.single leads.full
    have clean := leads.nul
    rw [text]
    rcases ends with ends | ends <;> simp_all [fits.plain.nul]
  have full : (root.join ⟨name⟩).text ≠ "" := by
    obtain ⟨cs, ends, text⟩ := Path.text_join fits.plain.single leads.full
    intro empty
    simp [empty] at text
  have trimmed := trimPieces_concat fits.plain.full before
  rw [← joined] at trimmed
  exact locate_entry_iff.mpr ⟨⟨nul, full, fits.path⟩, before, joined ▸ trimmed,
    by simp [fits.plain.here, fits.plain.up], followed, leads.there⟩

/-- Where a name joined to a path is located, it can be given to the file system, and the path
leads to the directory; the empty path stands for where relative paths start. -/
theorem located_join (single : SingleName name) {other : String} {slashed : Bool}
    (located : t.locate (root.join ⟨name⟩) = .ok (.entry place other slashed)) :
    other = name ∧ slashed = false ∧ PlainName name ∧
      (root.join ⟨name⟩).text.utf8ByteSize < pathLimit ∧
      if root.text = "" then place = t.workingDirectory else t.LeadsTo root place := by
  obtain ⟨⟨nul, -, short⟩, kept, trimmed, -, followed, there⟩ := locate_entry_iff.mp located
  obtain ⟨slash, text⟩ := Path.join_extends single root
  simp only [text, String.toList_append, List.mem_append, not_or] at nul
  have plain : PlainName name := ⟨single.full, single.here, single.up, single.slash, nul.2⟩
  split
  next empty =>
    obtain rfl : root = ⟨""⟩ := congrArg Path.mk empty
    rw [Path.join_of_empty single] at trimmed followed
    rw [Path.pieces_of_single single] at trimmed
    obtain ⟨ends, rfl⟩ := Prod.mk.inj ((trimPieces_concat single.full []).symm.trans trimmed)
    obtain ⟨rfl, named⟩ := List.append_inj' ends rfl
    rw [startOf, Path.isAbsolute_of_single single] at followed
    cases followed
    exact ⟨(List.singleton_inj.mp named).symm, rfl, plain, short, rfl⟩
  next given =>
    obtain ⟨before, -, spelled, joined⟩ := Path.pieces_join single given
    rw [joined] at trimmed
    obtain ⟨ends, rfl⟩ := Prod.mk.inj ((trimPieces_concat single.full before).symm.trans trimmed)
    obtain ⟨rfl, named⟩ := List.append_inj' ends rfl
    rw [startOf, Path.isAbsolute_join single given] at followed
    refine ⟨(List.singleton_inj.mp named).symm, rfl, plain, short, nul.1.1, given, ?_, ?_, there⟩
    · rw [text, String.utf8ByteSize_append, String.utf8ByteSize_append] at short
      omega
    · rcases spelled with spelled | spelled
      · rw [spelled]
        exact followed
      · rw [spelled]
        exact follow_append_iff.mpr ⟨place, followed, follow_singleton.mpr (step_blank there)⟩

section entry

variable {p : Path} (located : t.locate p = .ok (.entry place name false))
  (short : name.utf8ByteSize ≤ nameLimit)

include located short

theorem createFile_entry (mode : Nat) :
    t.createFile p mode =
      if (t.node? (place ++ [name])).isSome then .error .alreadyExists
      else .ok (place ++ [name], t.put (place ++ [name]) (.file [] mode)) := by
  rw [createFile, located]
  simp only [bind, Except.bind, child_eq short]
  cases t.node? (place ++ [name]) <;> rfl

theorem removeFile_entry :
    t.removeFile p =
      match t.node? (place ++ [name]) with
      | none => .error .notFound
      | some .directory => .error .isADirectory
      | some (.file ..) => .ok (t.erase (place ++ [name])) := by
  rw [removeFile, located]
  simp only [bind, Except.bind, child_eq short]
  rcases t.node? (place ++ [name]) with _ | _ | _ <;> rfl

theorem find_entry :
    t.find p =
      match t.node? (place ++ [name]) with
      | none => .error .notFound
      | some node => .ok (place ++ [name], node) := by
  rw [find, located]
  simp only [bind, Except.bind, child_eq short]
  rcases t.node? (place ++ [name]) with _ | _ | _ <;> rfl

theorem read_entry :
    t.read p =
      match t.node? (place ++ [name]) with
      | none => .error .notFound
      | some .directory => .error .isADirectory
      | some (.file bytes mode) =>
        if ownerReads mode then .ok (bytes, mode) else .error .permissionDenied := by
  rw [read, find_entry located short]
  rcases t.node? (place ++ [name]) with _ | _ | _ <;> rfl

end entry

/-- A file is made only at an entry where nothing is. -/
theorem createFile_made {p : Path} {mode : Nat} (made : t.createFile p mode = .ok (target, t')) :
    ∃ place name, t.locate p = .ok (.entry place name false) ∧ name.utf8ByteSize ≤ nameLimit ∧
      t.node? (place ++ [name]) = none ∧ target = place ++ [name] ∧
      t' = t.put (place ++ [name]) (.file [] mode) := by
  obtain ⟨found, located, made⟩ := bind_eq_ok made
  obtain _ | ⟨place, name, _ | _⟩ := found
  · cases made
  · obtain ⟨found, looked, made⟩ := bind_eq_ok made
    obtain ⟨short, there⟩ := child_eq_ok looked
    cases found with
    | some node => cases made
    | none =>
      cases made
      exact ⟨place, name, located, short, there, rfl, rfl⟩
  · cases made

/-- A file is opened only at an entry where there is no directory, and keeps the mode it had. -/
theorem openFile_opened {p : Path} {mode : Nat} (opened : t.openFile p mode = .ok (target, t')) :
    ∃ place name kept, t.locate p = .ok (.entry place name false) ∧
      name.utf8ByteSize ≤ nameLimit ∧ target = place ++ [name] ∧
      t' = t.put (place ++ [name]) (.file [] kept) ∧
      (t.node? (place ++ [name]) = none ∧ kept = mode ∨
        ∃ old, t.node? (place ++ [name]) = some (.file old kept)) := by
  obtain ⟨found, located, opened⟩ := bind_eq_ok opened
  obtain _ | ⟨place, name, _ | _⟩ := found
  · cases opened
  · obtain ⟨found, looked, opened⟩ := bind_eq_ok opened
    obtain ⟨short, there⟩ := child_eq_ok looked
    obtain _ | ⟨old, kept⟩ | _ := found
    · cases opened
      exact ⟨place, name, mode, located, short, rfl, rfl, .inl ⟨there, rfl⟩⟩
    · by_cases writes : ownerWrites kept = true
      · cases opened.symm.trans (if_pos writes)
        exact ⟨place, name, kept, located, short, rfl, rfl, .inr ⟨old, there⟩⟩
      · cases opened.symm.trans (if_neg writes)
    · cases opened
  · cases opened

/-- Only a file at an entry is read, and only if its owner may read it. -/
theorem read_found {p : Path} {bytes : List UInt8} {mode : Nat}
    (read : t.read p = .ok (bytes, mode)) :
    ownerReads mode = true ∧ ∃ place name, t.locate p = .ok (.entry place name false) ∧
      name.utf8ByteSize ≤ nameLimit ∧ t.node? (place ++ [name]) = some (.file bytes mode) := by
  obtain ⟨⟨whole, node⟩, found, read⟩ := bind_eq_ok read
  cases node with
  | directory => cases read
  | file content old =>
    by_cases reads : ownerReads old = true
    · cases read.symm.trans (if_pos reads)
      refine ⟨reads, ?_⟩
      obtain ⟨target, located, found⟩ := bind_eq_ok found
      obtain _ | ⟨place, name, slashed⟩ := target
      · cases found
      · obtain ⟨node, looked, found⟩ := bind_eq_ok found
        obtain ⟨short, there⟩ := child_eq_ok looked
        obtain _ | ⟨content, old⟩ | _ := node
        · cases found
        · cases slashed <;> cases found
          exact ⟨place, name, located, short, there⟩
        · cases found
    · cases read.symm.trans (if_neg reads)

theorem createFile_join (leads : t.LeadsTo root place) (fits : FitsIn root name) (mode : Nat) :
    t.createFile (root.join ⟨name⟩) mode =
      if (t.node? (place ++ [name])).isSome then .error .alreadyExists
      else .ok (place ++ [name], t.put (place ++ [name]) (.file [] mode)) :=
  createFile_entry (locate_join leads fits) fits.length mode

theorem removeFile_join (leads : t.LeadsTo root place) (fits : FitsIn root name) :
    t.removeFile (root.join ⟨name⟩) =
      match t.node? (place ++ [name]) with
      | none => .error .notFound
      | some .directory => .error .isADirectory
      | some (.file ..) => .ok (t.erase (place ++ [name])) :=
  removeFile_entry (locate_join leads fits) fits.length

/-- In a directory those files are read whose names are not too long and whose owner may. -/
theorem read_join_iff (leads : t.LeadsTo root place) (single : SingleName name)
    {bytes : List UInt8} {mode : Nat} :
    t.read (root.join ⟨name⟩) = .ok (bytes, mode) ↔
      FitsIn root name ∧ t.node? (place ++ [name]) = some (.file bytes mode) ∧
        ownerReads mode = true := by
  constructor
  · intro found
    obtain ⟨reads, parent, other, located, short, filed⟩ := read_found found
    obtain ⟨rfl, -, plain, path, here⟩ := located_join single located
    rw [if_neg leads.full] at here
    obtain ⟨rfl, -⟩ := Prod.mk.inj (Except.ok.inj (here.find.symm.trans leads.find))
    exact ⟨⟨plain, short, path⟩, filed, reads⟩
  · rintro ⟨fits, filed, reads⟩
    rw [read_entry (locate_join leads fits) fits.length, filed]
    exact if_pos reads

end files

theorem node?_of_ne_nil {q : Place} (inside : q ≠ []) : t.node? q = t.nodes.find? q :=
  if_neg inside

theorem node?_put_self (place : Place) (name : String) (node : FileNode) :
    (t.put (place ++ [name]) node).node? (place ++ [name]) = some node := by
  rw [node?_of_ne_nil (by simp)]
  exact OrderedMap.find?_insert_self _ _ _

theorem node?_put_of_ne {q : Place} {node : FileNode} (apart : q ≠ target) :
    (t.put target node).node? q = t.node? q := by
  unfold node?
  split
  next => rfl
  next => exact OrderedMap.find?_insert_of_ne apart

theorem node?_erase_self (place : Place) (name : String) :
    (t.erase (place ++ [name])).node? (place ++ [name]) = none := by
  rw [node?_of_ne_nil (by simp)]
  exact OrderedMap.find?_erase_self _ _

theorem node?_erase_of_ne {q : Place} (apart : q ≠ target) :
    (t.erase target).node? q = t.node? q := by
  unfold node?
  split
  next => rfl
  next => exact OrderedMap.find?_erase_of_ne apart

/-- Different names in a directory have different places. -/
theorem place_ne {name other : String} (apart : name ≠ other) :
    place ++ [name] ≠ place ++ [other] := fun same =>
  apart (List.singleton_inj.mp (List.append_cancel_left same))

/-- A directory stays when something is put where none is. -/
theorem directory_put (apart : t.node? target ≠ some .directory) {node : FileNode}
    (there : t.node? place = some .directory) :
    (t.put target node).node? place = some .directory := by
  rw [node?_put_of_ne, there]
  rintro rfl
  exact apart there

theorem LeadsTo.put {root : Path} (leads : t.LeadsTo root place) {node : FileNode}
    (free : t.node? target = none) : (t.put target node).LeadsTo root place :=
  leads.of_kept rfl fun _ there => directory_put (by simp [free]) there

/-- A path goes on leading to a directory when a file is taken away. -/
theorem LeadsTo.erase {root : Path} (leads : t.LeadsTo root place) {bytes : List UInt8}
    {mode : Nat} (filed : t.node? target = some (.file bytes mode)) :
    (t.erase target).LeadsTo root place := by
  refine leads.of_kept rfl fun p there => ?_
  rw [node?_erase_of_ne, there]
  rintro rfl
  rw [filed] at there
  cases there

/-- Trees that differ at one place at most. -/
structure SameBut (place : Place) (t t' : FileTree) : Prop where
  elsewhere : ∀ other, other ≠ place → t'.node? other = t.node? other
  start : t'.workingDirectory = t.workingDirectory

theorem put_sameBut (t : FileTree) (target : Place) (node : FileNode) :
    SameBut target t (t.put target node) :=
  ⟨fun _ apart => node?_put_of_ne apart, rfl⟩

/-- What is put where nothing was can be taken away again. -/
theorem erase_put {name : String} (free : t.node? (place ++ [name]) = none) (node : FileNode) :
    (t.put (place ++ [name]) node).erase (place ++ [name]) = t := by
  rw [node?_of_ne_nil (by simp)] at free
  have fresh : t.nodes.contains (place ++ [name]) = false := by
    rw [OrderedMap.contains, free]
    rfl
  unfold erase put
  rw [OrderedMap.erase_insert fresh]

theorem put_put (place : Place) (node node' : FileNode) :
    (t.put place node).put place node' = t.put place node' := by
  unfold put
  rw [OrderedMap.insert_insert]

/-- What is written to a file is its content. -/
theorem fill_put (place : Place) (name : String) (old bytes : List UInt8) (mode : Nat) :
    (t.put (place ++ [name]) (.file old mode)).fill (place ++ [name]) bytes =
      t.put (place ++ [name]) (.file bytes mode) := by
  rw [fill, node?_put_self]
  exact put_put _ _ _

/-- A file is written only at an entry where there is no directory, and keeps the mode it had. -/
theorem writeFile_written {p : Path} {bytes : List UInt8} {mode : Nat}
    (written : t.writeFile p bytes mode = .ok t') :
    ∃ place name kept, t.locate p = .ok (.entry place name false) ∧
      name.utf8ByteSize ≤ nameLimit ∧ t' = t.put (place ++ [name]) (.file bytes kept) ∧
      (t.node? (place ++ [name]) = none ∧ kept = mode ∨
        ∃ old, t.node? (place ++ [name]) = some (.file old kept)) := by
  obtain ⟨⟨target, files⟩, opened, filled⟩ := bind_eq_ok written
  obtain ⟨place, name, kept, located, short, rfl, rfl, modes⟩ := openFile_opened opened
  cases filled
  exact ⟨place, name, kept, located, short, fill_put place name [] bytes kept, modes⟩

/-- A file that was made can be removed once, whatever is in it, which gives back the tree. -/
theorem removeFile_made {p : Path} {mode : Nat} (made : t.createFile p mode = .ok (target, t'))
    (bytes : List UInt8) :
    (t'.fill target bytes).removeFile p = .ok t ∧ t.removeFile p = .error .notFound := by
  obtain ⟨place, name, located, short, free, rfl, rfl⟩ := createFile_made made
  rw [fill_put]
  have located' : (t.put (place ++ [name]) (.file bytes mode)).locate p =
      .ok (.entry place name false) :=
    locate_of_kept located rfl fun _ there => directory_put (by simp [free]) there
  rw [removeFile_entry located' short, removeFile_entry located short, node?_put_self, free,
    erase_put free]
  exact ⟨rfl, rfl⟩

/-- The place of a name in a directory. -/
theorem place_iff {key : Place} {name : String} :
    (if key.dropLast = place then key.getLast? else none) = some name ↔ key = place ++ [name] := by
  rcases List.eq_nil_or_concat key with rfl | ⟨before, last, rfl⟩
  · simp
  · rw [List.concat_eq_append, List.dropLast_concat, List.getLast?_concat]
    by_cases here : before = place
    · simp [here]
    · simp [here]

theorem mem_namesIn {name : String} :
    name ∈ t.namesIn place ↔ (t.node? (place ++ [name])).isSome := by
  rw [node?_of_ne_nil (by simp), ← Option.ne_none_iff_isSome, ne_eq,
    OrderedMap.find?_eq_none_iff]
  simp only [namesIn, OrderedMap.keys, List.mem_filterMap, place_iff]
  constructor
  · rintro ⟨key, there, rfl⟩ absent
    obtain ⟨e, listed, named⟩ := List.mem_map.mp there
    exact absent e listed named
  · intro there
    simp only [not_forall, not_not] at there
    obtain ⟨e, listed, named⟩ := there
    exact ⟨e.1, List.mem_map_of_mem listed, named⟩

/-- The names in a directory are in order, each once. -/
theorem namesIn_sorted (t : FileTree) (place : Place) :
    (t.namesIn place).Pairwise fun a b => compare a b = .lt := by
  have keys : t.nodes.keys.Pairwise fun a b => compare a b = .lt :=
    List.pairwise_map.mpr t.nodes.sorted
  refine keys.filterMap _ ?_
  intro key key' below name isName name' isName'
  rw [place_iff] at isName isName'
  rw [isName, isName', compare_append_singleton] at below
  exact below

end FileTree

end KeyRenewal
