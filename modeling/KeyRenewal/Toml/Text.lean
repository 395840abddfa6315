import KeyRenewal.Text.Hex

/-!
# Strings in TOML

Four kinds: with escapes or literal, on one line or on several. Every reader takes the text after
the opening quotes and gives the string and what follows the closing quotes.
-/

namespace KeyRenewal.Toml

/-- A character that may stand for itself: no control character but the tab. -/
def isPlain (c : Char) : Bool := c == '\t' || (decide (32 ≤ c.toNat) && c.toNat != 127)

def isBlank (c : Char) : Bool := c == ' ' || c == '\t'

def skipBlanks (cs : List Char) : List Char := cs.dropWhile isBlank

/-- The character a one-letter escape stands for. -/
def escaped? (c : Char) : Option Char :=
  match c with
  | 'b' => some '\x08'
  | 't' => some '\t'
  | 'n' => some '\n'
  | 'f' => some '\x0c'
  | 'r' => some '\r'
  | '"' => some '"'
  | '\\' => some '\\'
  | _ => none

/-- The character with a code point in hexadecimal, if it is one. -/
def codePoint? (digits : List Char) : Option Char := do
  let n ← digits.foldlM (fun n c => (Text.Hex.value? c).map (16 * n + ·)) 0
  if n < 0xD800 ∨ (0xE000 ≤ n ∧ n < 0x110000) then some (Char.ofNat n) else none

/-- The character an escape stands for, read after the backslash. -/
def scanEscape : List Char → Option (Char × List Char)
  | 'u' :: a :: b :: c :: d :: rest => (codePoint? [a, b, c, d]).map (·, rest)
  | 'U' :: a :: b :: c :: d :: e :: f :: g :: h :: rest =>
    (codePoint? [a, b, c, d, e, f, g, h]).map (·, rest)
  | c :: rest => (escaped? c).map (·, rest)
  | [] => none

/-- A string with escapes on one line. -/
def scanBasic : Nat → List Char → Option (List Char × List Char)
  | 0, _ => none
  | _ + 1, [] => none
  | _ + 1, '"' :: rest => some ([], rest)
  | turns + 1, '\\' :: rest => do
    let (c, rest) ← scanEscape rest
    let (cs, rest) ← scanBasic turns rest
    return (c :: cs, rest)
  | turns + 1, c :: rest =>
    if isPlain c then do
      let (cs, rest) ← scanBasic turns rest
      return (c :: cs, rest)
    else none

/-- A literal string on one line. -/
def scanLiteral : List Char → Option (List Char × List Char)
  | [] => none
  | '\'' :: rest => some ([], rest)
  | c :: rest =>
    if isPlain c then do
      let (cs, rest) ← scanLiteral rest
      return (c :: cs, rest)
    else none

/-- What follows a line break, if there is one. -/
def lineBreak? : List Char → Option (List Char)
  | '\n' :: rest => some rest
  | '\r' :: '\n' :: rest => some rest
  | _ => none

/-- The text after blanks and line breaks. -/
def skipLines : Nat → List Char → List Char
  | 0, cs => cs
  | turns + 1, cs =>
    let cs := skipBlanks cs
    match lineBreak? cs with
    | some rest => skipLines turns rest
    | none => cs

/-- How many quotes stand in a row, up to five. -/
def quotesAhead (quote : Char) (cs : List Char) : Nat := ((cs.take 5).takeWhile (· == quote)).length

/-- A string over several lines. Up to two quotes may stand before the closing three. With escapes,
a backslash before a line break takes all blanks and line breaks away. -/
def scanLong (quote : Char) (escapes : Bool) : Nat → List Char → Option (List Char × List Char)
  | 0, _ => none
  | turns + 1, cs =>
    let quotes := quotesAhead quote cs
    if 3 ≤ quotes then some (List.replicate (quotes - 3) quote, cs.drop quotes)
    else
      match lineBreak? cs with
      | some rest => do
        let (text, rest) ← scanLong quote escapes turns rest
        return ('\n' :: text, rest)
      | none =>
        match cs with
        | [] => none
        | c :: rest =>
          if escapes ∧ c = '\\' then
            match lineBreak? (skipBlanks rest) with
            | some rest => scanLong quote escapes turns (skipLines rest.length rest)
            | none => do
              let (c, rest) ← scanEscape rest
              let (text, rest) ← scanLong quote escapes turns rest
              return (c :: text, rest)
          else if isPlain c then do
            let (text, rest) ← scanLong quote escapes turns rest
            return (c :: text, rest)
          else none

/-- A long string, whose first line break does not count. -/
def scanLines (quote : Char) (escapes : Bool) (cs : List Char) : Option (List Char × List Char) :=
  let cs := (lineBreak? cs).getD cs
  scanLong quote escapes (cs.length + 1) cs

/-- A string of any kind, from its opening quotes on. -/
def scanString : List Char → Option (String × List Char)
  | '"' :: '"' :: '"' :: rest => (scanLines '"' true rest).map fun r => (String.ofList r.1, r.2)
  | '"' :: rest => (scanBasic (rest.length + 1) rest).map fun r => (String.ofList r.1, r.2)
  | '\'' :: '\'' :: '\'' :: rest =>
    (scanLines '\'' false rest).map fun r => (String.ofList r.1, r.2)
  | '\'' :: rest => (scanLiteral rest).map fun r => (String.ofList r.1, r.2)
  | _ => none

/-- A string on one line, as a key may be. -/
def scanShort : List Char → Option (String × List Char)
  | '"' :: rest => (scanBasic (rest.length + 1) rest).map fun r => (String.ofList r.1, r.2)
  | '\'' :: rest => (scanLiteral rest).map fun r => (String.ofList r.1, r.2)
  | _ => none

end KeyRenewal.Toml
