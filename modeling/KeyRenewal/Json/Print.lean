import KeyRenewal.Json.Value
import KeyRenewal.Text.Hex

/-!
# Printing JSON

Two layouts: compact, without any blanks, and pretty, with two spaces per level and one member or
item per line. In a string the quote, the backslash and the control characters are escaped; nothing
else is.
-/

namespace KeyRenewal.Json

/-- How one character is written in a string. -/
def escape (c : Char) : List Char :=
  if c = '"' ∨ c = '\\' then ['\\', c]
  else if c = '\x08' then ['\\', 'b']
  else if c = '\x0c' then ['\\', 'f']
  else if c = '\n' then ['\\', 'n']
  else if c = '\r' then ['\\', 'r']
  else if c = '\t' then ['\\', 't']
  else if c.toNat < 32 then
    ['\\', 'u', '0', '0', Text.Hex.digit (c.toNat / 16), Text.Hex.digit (c.toNat % 16)]
  else [c]

def quote (text : String) : List Char := '"' :: text.toList.flatMap escape ++ ['"']

/-- Put a separator between texts. -/
def join (separator : List Char) : List (List Char) → List Char
  | [] => []
  | [text] => text
  | text :: rest => text ++ separator ++ join separator rest

/-- A line break with the indentation of a level. -/
def newline (level : Nat) : List Char := '\n' :: List.replicate (2 * level) ' '

/-- Items between brackets, each on a line of its own; nothing at all between empty brackets. -/
def block (opening closing : Char) (level : Nat) (items : List (List Char)) : List Char :=
  if items.isEmpty then [opening, closing]
  else
    opening :: newline (level + 1) ++ join (',' :: newline (level + 1)) items ++
      newline level ++ [closing]

namespace Value

mutual

def compactChars : Value → List Char
  | null | other => "null".toList
  | bool value => (if value then "true" else "false").toList
  | natural value => (toString value).toList
  | string text => quote text
  | array items => '[' :: join [','] (compactItems items) ++ [']']
  | object members => '\x7b' :: join [','] (compactMembers members) ++ ['\x7d']

def compactItems : List Value → List (List Char)
  | [] => []
  | v :: rest => compactChars v :: compactItems rest

def compactMembers : List (String × Value) → List (List Char)
  | [] => []
  | (key, v) :: rest => (quote key ++ ':' :: compactChars v) :: compactMembers rest

end

mutual

def prettyChars (level : Nat) : Value → List Char
  | null | other => "null".toList
  | bool value => (if value then "true" else "false").toList
  | natural value => (toString value).toList
  | string text => quote text
  | array items => block '[' ']' level (prettyItems (level + 1) items)
  | object members => block '\x7b' '\x7d' level (prettyMembers (level + 1) members)

def prettyItems (level : Nat) : List Value → List (List Char)
  | [] => []
  | v :: rest => prettyChars level v :: prettyItems level rest

def prettyMembers (level : Nat) : List (String × Value) → List (List Char)
  | [] => []
  | (key, v) :: rest =>
    (quote key ++ ':' :: ' ' :: prettyChars level v) :: prettyMembers level rest

end

/-- The text without blanks. -/
def compact (v : Value) : String := String.ofList v.compactChars

/-- The text with two spaces per level. -/
def pretty (v : Value) : String := String.ofList (v.prettyChars 0)

end Value

end KeyRenewal.Json
