import KeyRenewal.Logging.Pattern.Basic
import KeyRenewal.Text.Blank
import KeyRenewal.Text.Hex

/-!
# Escapes and classes

A class is what stands between brackets: characters, ranges and further classes side by side, and
between them signs that cut one set with another. In spaced text blanks and comments count for
nothing, except in a name and behind a backslash.
-/

namespace KeyRenewal.Logging

/-- The text after blanks and comments. A comment goes from its sign to the end of its line. -/
def skipComments : Bool → List Char → List Char
  | _, [] => []
  | inComment, c :: rest =>
    if inComment then skipComments (c != '\n') rest
    else if Text.isBlank c then skipComments false rest
    else if c = '#' then skipComments true rest
    else c :: rest

/-- The text after what counts for nothing. -/
def skipSpace (spaced : Bool) (cs : List Char) : List Char :=
  if spaced then skipComments false cs else cs

/-- The number with so many hexadecimal digits, after some that give the first number. -/
def scanHex (spaced : Bool) : Nat → Nat → List Char → Option (Nat × List Char)
  | 0, n, cs => some (n, cs)
  | digits + 1, n, cs =>
    match skipSpace spaced cs with
    | [] => none
    | c :: rest => do
      let d ← Text.Hex.value? c
      scanHex spaced digits (16 * n + d) rest

/-- The character with so many hexadecimal digits. -/
def scanCode (spaced : Bool) (digits : Nat) (cs : List Char) : Option (Atom × List Char) := do
  let (n, rest) ← scanHex spaced digits 0 cs
  if n.isValidChar then some (.literal ⟨Char.ofNat n, digits == 2⟩, rest) else none

/-- Whether a backslash takes the meaning from an ASCII character that is no letter or digit. -/
def isEscapable (c : Char) : Bool := decide (c.toNat < 128) && !c.isAlphanum

/-- An escape after its backslash. Classes by property are not supported. -/
def scanEscape (spaced : Bool) : List Char → Option (Atom × List Char)
  | [] => none
  | c :: rest =>
    match c with
    | 'x' => scanCode spaced 2 rest
    | 'u' => scanCode spaced 4 rest
    | 'U' => scanCode spaced 8 rest
    | 'd' | 's' | 'w' => some (.shorthand false, rest)
    | 'D' | 'S' | 'W' => some (.shorthand true, rest)
    | 'A' | 'z' => some (.edge, rest)
    | 'b' | 'B' | '<' | '>' => some (.wordEdge, rest)
    | 'a' => some (.literal ⟨'\x07', false⟩, rest)
    | 'f' => some (.literal ⟨'\x0c', false⟩, rest)
    | 't' => some (.literal ⟨'\t', false⟩, rest)
    | 'n' => some (.literal ⟨'\n', false⟩, rest)
    | 'r' => some (.literal ⟨'\r', false⟩, rest)
    | 'v' => some (.literal ⟨'\x0b', false⟩, rest)
    | c => if isEscapable c then some (.literal ⟨c, false⟩, rest) else none

/-- One member of a class. -/
def scanMember (spaced : Bool) : List Char → Option (Atom × List Char)
  | [] => none
  | '\\' :: rest => scanEscape spaced rest
  | c :: rest => some (.literal ⟨c, false⟩, rest)

/-- The character an atom stands for. -/
def Atom.literal? : Atom → Option Literal
  | .literal l => some l
  | _ => none

/-- The set an atom stands for in a class. -/
def Atom.set? : Atom → Option CharSet
  | .literal l => some (.literal l)
  | .shorthand negated => some (.shorthand negated)
  | _ => none

/-- The character that decides whether a dash makes a range. In spaced text it is looked for behind
blanks and the sign of a comment, but not behind the comment; where nothing is left, the very next
character decides. -/
def afterDash (spaced : Bool) (rest : List Char) : Option Char :=
  if spaced then
    let found := match rest.dropWhile Text.isBlank with
      | '#' :: comment => (comment.dropWhile Text.isBlank).head?
      | cs => cs.head?
    found.or rest.head?
  else rest.head?

/-- A member of a class, or a range of two characters. A dash before a closing bracket or before
another dash makes no range. -/
def scanRange (spaced : Bool) (cs : List Char) : Option (CharSet × List Char) := do
  let (low, rest) ← scanMember spaced cs
  match skipSpace spaced rest with
  | '-' :: rest =>
    if afterDash spaced rest = some ']' ∨ afterDash spaced rest = some '-' then
      low.set?.map (·, '-' :: rest)
    else do
      let (high, rest) ← scanMember spaced (skipSpace spaced rest)
      let low ← low.literal?
      let high ← high.literal?
      if low.char ≤ high.char then some (.range low high, rest) else none
  | rest => low.set?.map (·, rest)

/-- A caret, if there is one, and what follows it. -/
def scanCaret : List Char → Bool × List Char
  | '^' :: rest => (true, rest)
  | cs => (false, cs)

def classNames : List String :=
  ["alnum", "alpha", "ascii", "blank", "cntrl", "digit", "graph", "lower", "print", "punct",
    "space", "upper", "word", "xdigit"]

/-- A named class behind its first bracket: whether it is negated, and what follows it. -/
def scanNamed : List Char → Option (Bool × List Char)
  | ':' :: rest =>
    let (negated, rest) := scanCaret rest
    match rest.dropWhile (· != ':') with
    | ':' :: ']' :: after =>
      if classNames.contains (String.ofList (rest.takeWhile (· != ':'))) then some (negated, after)
      else none
    | _ => none
  | _ => none

/-- The set of an operand whose members are listed from the last to the first, joined to the
operands before it. -/
def joinOperand (left : Option CharSet) (members : List CharSet) : CharSet :=
  let operand := CharSet.ofMembers members.reverse
  match left with
  | some left => .operation left operand
  | none => operand

/-- The rest of a class. A class is fresh as long as it holds nothing but dashes: only then does a
dash always stand for itself, and a closing bracket if it comes first. The number bounds the turns;
as many as there are characters are enough. -/
def scanSet (spaced : Bool) :
    Nat → Bool → Option CharSet → List CharSet → List Char → Option (CharSet × List Char)
  | 0, _, _, _, _ => none
  | turns + 1, fresh, left, members, cs =>
    match fresh, members, skipSpace spaced cs with
    | true, members, '-' :: rest =>
      scanSet spaced turns true left (.literal ⟨'-', false⟩ :: members) rest
    | true, [], ']' :: rest => scanSet spaced turns false left [.literal ⟨']', false⟩] rest
    | _, members, ']' :: rest => some (joinOperand left members, rest)
    | _, members, '[' :: rest =>
      match scanNamed rest with
      | some (negated, rest) => scanSet spaced turns false left (.named negated :: members) rest
      | none => do
        let (negated, inside) := scanCaret (skipSpace spaced rest)
        let (inner, rest) ← scanSet spaced turns true none [] inside
        scanSet spaced turns false left (.brackets negated inner :: members) rest
    | _, members, '&' :: '&' :: rest | _, members, '-' :: '-' :: rest
    | _, members, '~' :: '~' :: rest =>
      scanSet spaced turns false (some (joinOperand left members)) [] rest
    | _, members, cs => do
      let (member, rest) ← scanRange spaced cs
      scanSet spaced turns false left (member :: members) rest

/-- A class behind its opening bracket. -/
def scanClass (spaced : Bool) (cs : List Char) : Option (CharSet × List Char) := do
  let (negated, inside) := scanCaret (skipSpace spaced cs)
  let (inner, rest) ← scanSet spaced (cs.length + 1) true none [] inside
  return (.brackets negated inner, rest)

example : ((scanClass false "]a-c&&[^b]-]*".toList).map (·.2)) = some ['*'] := by decide +kernel

end KeyRenewal.Logging
