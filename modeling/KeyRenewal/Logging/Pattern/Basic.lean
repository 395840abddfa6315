/-!
# Patterns

A filter may match the value of a field against a regular expression. What it matches is of no use
here; a pattern only keeps what decides whether it can be used: its characters, its classes, its
switches, and how deeply its parts lie within each other.
-/

namespace KeyRenewal.Logging

/-- A character that stands for itself. It may be written as a byte, in two hexadecimal digits. -/
structure Literal where
  char : Char
  isByte : Bool

def Literal.isAscii (l : Literal) : Bool := decide (l.char.toNat < 128)

/-- A part of a pattern without parts of its own. -/
inductive Atom
  | literal (l : Literal)
  /-- A point, which matches every character but a line break. -/
  | any
  /-- Digits, blanks or word characters, or all that are not. -/
  | shorthand (negated : Bool)
  /-- The start or the end of a line or of the text. -/
  | edge
  | wordEdge

/-- The members of a class. -/
inductive CharSet
  | literal (l : Literal)
  | range (low high : Literal)
  | named (negated : Bool)
  | shorthand (negated : Bool)
  | brackets (negated : Bool) (inner : CharSet)
  | union (members : List CharSet)
  | operation (left right : CharSet)

/-- The letters of a directive: those it turns on and those it turns off. -/
structure Switches where
  on : List Char
  off : List Char

/-- How a switch stands behind a directive. -/
def Switches.apply (s : Switches) (letter : Char) (before : Bool) : Bool :=
  if letter ∈ s.on then true else if letter ∈ s.off then false else before

inductive Pattern
  | atom (a : Atom)
  | oneOf (set : CharSet)
  /-- Switches for the rest of the group it stands in. -/
  | directive (switches : Switches)
  | repetition (inner : Pattern)
  | group (switches : Switches) (inner : Pattern)
  | sequence (parts : List Pattern)
  | choice (branches : List Pattern)

/-- Members that stand side by side; one alone is the set itself. -/
def CharSet.ofMembers : List CharSet → CharSet
  | [member] => member
  | members => .union members

/-- Parts one after the other; one alone is the pattern itself. -/
def Pattern.ofParts : List Pattern → Pattern
  | [part] => part
  | parts => .sequence parts

/-- Branches of which one is to match; one alone is the pattern itself. -/
def Pattern.ofBranches : List Pattern → Pattern
  | [branch] => branch
  | branches => .choice branches

mutual

/-- How many sets lie within each other; an empty union is none. -/
def CharSet.nesting : CharSet → Nat
  | .literal _ | .range .. | .named _ | .shorthand _ | .union [] => 0
  | .brackets _ inner => inner.nesting + 1
  | .union members => CharSet.nestingOfAll members + 1
  | .operation left right => max left.nesting right.nesting + 1

def CharSet.nestingOfAll : List CharSet → Nat
  | [] => 0
  | member :: rest => max member.nesting (CharSet.nestingOfAll rest)

end

mutual

/-- How many parts lie within each other; the empty sequence is none. -/
def Pattern.nesting : Pattern → Nat
  | .atom _ | .directive _ | .sequence [] => 0
  | .oneOf set => set.nesting
  | .repetition inner | .group _ inner => inner.nesting + 1
  | .sequence parts | .choice parts => Pattern.nestingOfAll parts + 1

def Pattern.nestingOfAll : List Pattern → Nat
  | [] => 0
  | part :: rest => max part.nesting (Pattern.nestingOfAll rest)

end

end KeyRenewal.Logging
