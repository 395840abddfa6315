/-!
# Paths

A path is kept as it was written. It is compared by its components: empty components and `.` do not
count, except a `.` that opens a relative path. Two spellings of the same components are therefore
one key of a map, and printing never normalises.
-/

namespace KeyRenewal

/-- A path as written, with `/` between components. -/
structure Path where
  text : String
deriving DecidableEq, Inhabited

namespace Path

/-- One step of a path. -/
inductive Component
  | root
  | here
  | up
  | name (text : String)
deriving DecidableEq

namespace Component

/-- Steps of different kinds are ordered by kind. -/
def rank : Component → Nat
  | root => 0
  | here => 1
  | up => 2
  | name _ => 3

def spelling : Component → String
  | root => "/"
  | here => "."
  | up => ".."
  | name text => text

instance : Ord Component := ⟨compareLex (compareOn rank) (compareOn spelling)⟩

instance : Std.TransOrd Component :=
  inferInstanceAs (Std.TransCmp (compareLex (compareOn rank) (compareOn spelling)))

/-- The step a piece between two slashes stands for. -/
def ofPiece (piece : String) : Option Component :=
  if piece = "" ∨ piece = "." then none
  else if piece = ".." then some up
  else some (name piece)

end Component

/-- The text between the slashes; there is one piece more than there are slashes. -/
def pieces (cs : List Char) : List String := (cs.splitOn '/').map String.ofList

def isAbsolute (p : Path) : Bool := p.text.toList.head? == some '/'

def components (p : Path) : List Component :=
  match p.text.toList with
  | '/' :: cs => .root :: (pieces cs).filterMap Component.ofPiece
  | cs =>
    match pieces cs with
    | "." :: rest => .here :: rest.filterMap Component.ofPiece
    | all => all.filterMap Component.ofPiece

instance : Ord Path := ⟨compareOn components⟩

instance : Std.TransOrd Path := inferInstanceAs (Std.TransCmp (compareOn components))

/-- The last component, if it is a name. -/
def fileName? (p : Path) : Option String :=
  match p.components.getLast? with
  | some (.name text) => some text
  | _ => none

/-- What follows the last dot of a name; none when there is no dot but a leading one. -/
def extensionOf (name : String) : Option String :=
  let reversed := name.toList.reverse
  match reversed.dropWhile (· ≠ '.') with
  | [] => none
  | [_] => none
  | _ :: _ :: _ => some (String.ofList (reversed.takeWhile (· ≠ '.')).reverse)

def extension? (p : Path) : Option String := p.fileName?.bind extensionOf

/-- Append a path; an absolute one replaces. -/
def join (base p : Path) : Path :=
  if p.isAbsolute then p
  else if base.text = "" ∨ base.text.toList.getLast? = some '/' then ⟨base.text ++ p.text⟩
  else ⟨base.text ++ "/" ++ p.text⟩

instance : ToString Path := ⟨text⟩

example : (Path.mk "a//b/./c/").components = [.name "a", .name "b", .name "c"] := by decide

example : ((Path.mk "./a").components, (Path.mk "/./a").components) =
    ([.here, .name "a"], [.root, .name "a"]) := by decide

example : ((Path.mk "k/.key").extension?, (Path.mk "k/..key").extension?) =
    (none, some "key") := by decide

end Path

/-- Where the secret half of a credential lies. -/
abbrev KeyHandle := Path

end KeyRenewal
