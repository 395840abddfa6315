import KeyRenewal.Logging.Pattern
import KeyRenewal.Text.Blank

/-!
# Filter directives

A filter is a list of directives between commas; empty pieces count for nothing. A directive names a
target, a span with a field, a level, or several of these: `target[span{field}]=level`. A field may
ask for a value: `field=pattern`.

A directive is recognised on the piece without the blanks around it, but its parts are cut from the
piece as written, at the same byte offsets. Blanks before a directive therefore shift every cut, and
a cut may fall inside a character; that is a fault of its own.
-/

namespace KeyRenewal.Logging

inductive FilterError
  | badStart
  | unfinished
  | misplaced
  | emptyField
  | badPattern
  | badLevel (text : String)
  | splitCharacter
deriving DecidableEq

namespace FilterError

def message : FilterError → String
  | badStart => "a directive starts with a name or a span"
  | unfinished => "the directive ends too early"
  | misplaced => "unexpected character in the directive"
  | emptyField => "the field has no name"
  | badPattern => "the value is no pattern"
  | badLevel text => s!"unknown level {text}"
  | splitCharacter => "the directive is cut inside a character"

end FilterError

namespace Filter

/-- Where in a directive the scan stands. The number is where the part at hand begins. -/
inductive Place
  | start
  | name
  | span (begins : Nat)
  | field (begins : Nat)
  | fields
  | target
  | level (begins : Nat)
deriving DecidableEq

/-- The rest after `n` bytes, if they end between two characters. -/
def dropBytes : Nat → List Char → Option (List Char)
  | 0, cs => some cs
  | _ + 1, [] => none
  | n + 1, c :: cs => if c.utf8Size ≤ n + 1 then dropBytes (n + 1 - c.utf8Size) cs else none

/-- The first `n` bytes, if they end between two characters. -/
def takeBytes : Nat → List Char → Option (List Char)
  | 0, _ => some []
  | _ + 1, [] => none
  | n + 1, c :: cs =>
    if c.utf8Size ≤ n + 1 then (takeBytes (n + 1 - c.utf8Size) cs).map (c :: ·) else none

/-- The characters of a piece between two byte offsets. -/
def cut (piece : List Char) (begins ends : Nat) : Except FilterError (List Char) :=
  match (dropBytes begins piece).bind (takeBytes (ends - begins)) with
  | some cs => .ok cs
  | none => .error .splitCharacter

/-- The characters of a piece from a byte offset on. -/
def cutRest (piece : List Char) (begins : Nat) : Except FilterError (List Char) :=
  match dropBytes begins piece with
  | some cs => .ok cs
  | none => .error .splitCharacter

def opensName (c : Char) : Bool :=
  c == '-' || c == ':' || c == '_' || Text.isAlphanumeric c

/-- A field is not empty, and what follows its first equals sign, up to another, is a pattern. -/
def checkField (field : List Char) : Except FilterError Unit :=
  match field.splitOn '=' with
  | _ :: pattern :: _ => if isMatchable pattern then .ok () else .error .badPattern
  | _ => if field = [] then .error .emptyField else .ok ()

/-- One character of a directive, at its byte offset. -/
def step (piece : List Char) (place : Place) (offset : Nat) (c : Char) :
    Except FilterError Place :=
  match place with
  | .start =>
    if c = '[' then .ok (.span (offset + 1))
    else if opensName c then .ok .name
    else .error .badStart
  | .name =>
    if c = '=' then do
      let _ ← cut piece 0 offset
      return .level (offset + 1)
    else if c = '[' then do
      let _ ← cut piece 0 offset
      return .span (offset + 1)
    else .ok .name
  | .span begins =>
    if c = ']' then do
      let _ ← cut piece begins offset
      return .target
    else if c = '\x7b' then do
      let _ ← cut piece begins offset
      return .field (offset + 1)
    else .ok (.span begins)
  | .field begins =>
    if c = '\x7d' then do
      checkField (← cut piece begins offset)
      return .fields
    else .ok (.field begins)
  | .fields => if c = ']' then .ok .target else .error .misplaced
  | .target => if c = '=' then .ok (.level (offset + 1)) else .error .misplaced
  | .level begins => .ok (.level begins)

def scan (piece : List Char) : Place → Nat → List Char → Except FilterError Place
  | place, _, [] => .ok place
  | place, offset, c :: cs => do
    let next ← step piece place offset c
    scan piece next (offset + c.utf8Size) cs

/-- The value of a run of decimal digits. -/
def decimal? (digits : List Char) : Option Nat :=
  if digits ≠ [] ∧ digits.all Char.isDigit then
    some (digits.foldl (fun n c => 10 * n + (c.toNat - 48)) 0)
  else none

/-- A level is a number up to five, with a plus sign or not, or a name in either case. -/
def isLevel (text : List Char) : Bool :=
  let digits := match text with
    | '+' :: rest => rest
    | _ => text
  (match decimal? digits with
    | some n => decide (n ≤ 5)
    | none => false) ||
  ["off", "error", "warn", "info", "debug", "trace"].contains
    (String.ofList (text.map Char.toLower))

def checkDirective (piece : List Char) : Except FilterError Unit := do
  match ← scan piece .start 0 (Text.trim piece) with
  | .name => return ()
  | .target => return ()
  | .level begins =>
    let text ← cutRest piece begins
    if text = [] ∨ isLevel text then return ()
    else .error (.badLevel (String.ofList text))
  | _ => .error .unfinished

def directives (filter : String) : List (List Char) :=
  (filter.toList.splitOn ',').filter (· ≠ [])

/-- Whether a text is a filter; the first directive that is none tells why. -/
def check (filter : String) : Except FilterError Unit :=
  (directives filter).forM checkDirective

example : (check "warn, a=debug").isOk = false ∧ (check " info").isOk = true := by
  decide +kernel

end Filter

end KeyRenewal.Logging
