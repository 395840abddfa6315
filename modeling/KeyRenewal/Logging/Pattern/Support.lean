import KeyRenewal.Logging.Pattern.Basic

/-!
# Patterns that can be used

Patterns are matched without tables of Unicode properties, and only against text. So in Unicode mode
nothing may depend on the case, the words, the digits or the blanks of all characters; out of it
nothing may match a byte that is no character by itself.
-/

namespace KeyRenewal.Logging

/-- The switches that change what a part matches. -/
structure Mode where
  ignoreCase : Bool
  unicode : Bool

def Switches.enter (s : Switches) (m : Mode) : Mode :=
  ⟨s.apply 'i' m.ignoreCase, s.apply 'u' m.unicode⟩

def Atom.isUsable (m : Mode) : Atom → Bool
  | .literal l => if m.unicode then !m.ignoreCase else !l.isByte || l.isAscii
  | .any => m.unicode
  | .shorthand negated => !m.unicode && !negated
  | .edge => true
  | .wordEdge => !m.unicode

/-- Whether a class may hold a character. -/
def Literal.isMember (m : Mode) (l : Literal) : Bool :=
  if m.unicode then !m.ignoreCase else l.isAscii

mutual

def CharSet.isUsable (m : Mode) : CharSet → Bool
  | .literal l => l.isMember m
  | .range low high => low.isMember m && high.isMember m
  | .named negated => if m.unicode then !m.ignoreCase else !negated
  | .shorthand negated => !m.unicode && !negated
  | .brackets negated inner => (m.unicode || !negated) && inner.isUsable m
  | .union members => CharSet.areUsable m members
  | .operation left right => left.isUsable m && right.isUsable m

def CharSet.areUsable (m : Mode) : List CharSet → Bool
  | [] => true
  | member :: rest => member.isUsable m && CharSet.areUsable m rest

end

mutual

/-- The mode behind a pattern, if all of it can be used. A directive holds for what follows it, also
in further branches, but not beyond its group. -/
def Pattern.modeAfter (m : Mode) : Pattern → Option Mode
  | .atom a => if a.isUsable m then some m else none
  | .oneOf set => if set.isUsable m then some m else none
  | .directive switches => some (switches.enter m)
  | .repetition inner => inner.modeAfter m
  | .group switches inner => (inner.modeAfter (switches.enter m)).map fun _ => m
  | .sequence parts | .choice parts => Pattern.modeAfterAll m parts

def Pattern.modeAfterAll (m : Mode) : List Pattern → Option Mode
  | [] => some m
  | part :: rest => (part.modeAfter m).bind fun m => Pattern.modeAfterAll m rest

end

/-- How deeply the parts of a pattern may lie within each other. -/
def Pattern.nestingLimit : Nat := 250

/-- Whether a pattern can be used. It starts in Unicode mode and minds the case. -/
def Pattern.isUsable (p : Pattern) : Bool :=
  decide (p.nesting ≤ Pattern.nestingLimit) && (p.modeAfter ⟨false, true⟩).isSome

end KeyRenewal.Logging
