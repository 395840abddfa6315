import KeyRenewal.Logging.Pattern.Class
import KeyRenewal.Text.Alphanumeric

/-!
# Reading patterns

A pattern is a choice of branches, and a branch a sequence of parts. There are no look-arounds and
no back references. A pattern comes from between braces, so a count in braces is never complete and
is refused.
-/

namespace KeyRenewal.Logging

/-- What an opening parenthesis starts: a group, perhaps with a name, or a directive alone. -/
inductive Opening
  | group (name : Option String) (switches : Switches)
  | directive (switches : Switches)

def isGroupName : List Char → Bool
  | [] => false
  | c :: rest =>
    (c == '_' || Text.isAlphabetic c) &&
      rest.all fun c => Text.isAlphanumeric c || "_.[]".toList.contains c

/-- A name up to its closing angle bracket. -/
def scanName (cs : List Char) : Option (Opening × List Char) :=
  let name := cs.takeWhile (· != '>')
  match cs.dropWhile (· != '>') with
  | '>' :: rest =>
    if isGroupName name then some (.group (some (String.ofList name)) ⟨[], []⟩, rest) else none
  | _ => none

/-- The switches some letters make. No letter is repeated, and a dash, which turns off what follows
it, is not the last. -/
def Switches.ofLetters (letters : List Char) : Option Switches :=
  if letters.all "imsUuRx-".toList.contains ∧ letters.Nodup ∧ letters.getLast? ≠ some '-' then
    some ⟨letters.takeWhile (· != '-'), (letters.dropWhile (· != '-')).drop 1⟩
  else none

/-- What follows an opening parenthesis. A directive alone has at least one letter. -/
def scanOpening : List Char → Option (Opening × List Char)
  | '?' :: 'P' :: '<' :: rest | '?' :: '<' :: rest => scanName rest
  | '?' :: rest => do
    let isLetter (c : Char) : Bool := c != ':' && c != ')'
    let letters := rest.takeWhile isLetter
    let switches ← Switches.ofLetters letters
    match rest.dropWhile isLetter with
    | ':' :: rest => some (.group none switches, rest)
    | ')' :: rest => if letters = [] then none else some (.directive switches, rest)
    | _ => none
  | rest => some (.group none ⟨[], []⟩, rest)

/-- The names with one more, if it is new. -/
def addName (names : List String) : Option String → Option (List String)
  | none => some names
  | some name => if name ∈ names then none else some (name :: names)

/-- The text after a sign that makes a repetition a lazy one. -/
def skipLazy : List Char → List Char
  | '?' :: rest => rest
  | cs => cs

/-- A part that is no group and no class. -/
def scanAtom (spaced : Bool) : List Char → Option (Atom × List Char)
  | [] | '\x7b' :: _ => none
  | '\\' :: rest => scanEscape spaced rest
  | '.' :: rest => some (.any, rest)
  | '^' :: rest | '$' :: rest => some (.edge, rest)
  | c :: rest => some (.literal ⟨c, false⟩, rest)

/-- The rest of a group up to its closing parenthesis, or of the whole pattern, after some branches
and the first parts of another, both listed from the last to the first. The names that are taken are
handed on. The number bounds the turns; as many as there are characters are enough. -/
def scanGroup : Nat → Bool → List String → List Pattern → List Pattern → List Char →
    Option (Pattern × List String × List Char)
  | 0, _, _, _, _, _ => none
  | turns + 1, spaced, names, branches, parts, cs =>
    let whole := Pattern.ofBranches (Pattern.ofParts parts.reverse :: branches).reverse
    match skipSpace spaced cs with
    | [] => some (whole, names, [])
    | ')' :: rest => some (whole, names, ')' :: rest)
    | '|' :: rest =>
      scanGroup turns spaced names (Pattern.ofParts parts.reverse :: branches) [] rest
    | '(' :: rest => do
      match ← scanOpening (skipSpace spaced rest) with
      | (.directive switches, rest) =>
        scanGroup turns (switches.apply 'x' spaced) names branches (.directive switches :: parts)
          rest
      | (.group name switches, rest) =>
        let names ← addName names name
        match ← scanGroup turns (switches.apply 'x' spaced) names [] [] rest with
        | (inner, names, ')' :: rest) =>
          scanGroup turns spaced names branches (.group switches inner :: parts) rest
        | _ => none
    | '?' :: rest | '*' :: rest | '+' :: rest =>
      match parts with
      | [] | .directive _ :: _ => none
      | part :: parts =>
        scanGroup turns spaced names branches (.repetition part :: parts) (skipLazy rest)
    | '[' :: rest => do
      let (set, rest) ← scanClass spaced rest
      scanGroup turns spaced names branches (.oneOf set :: parts) rest
    | cs => do
      let (atom, rest) ← scanAtom spaced cs
      scanGroup turns spaced names branches (.atom atom :: parts) rest

/-- The pattern a text is, if it is one. -/
def Pattern.parse (text : List Char) : Option Pattern :=
  match scanGroup (text.length + 1) false [] [] [] text with
  | some (pattern, _, []) => some pattern
  | _ => none

end KeyRenewal.Logging
