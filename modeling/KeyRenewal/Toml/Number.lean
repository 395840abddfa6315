import KeyRenewal.Text.Hex
import KeyRenewal.Toml.Value

/-!
# Numbers and dates in TOML

Integers are 64-bit with a sign, in base ten, or without one in base two, eight or sixteen; single
underscores may stand between digits. Floats and dates are recognised, but their values are of no
use here and are not kept; a float that would round to infinity is refused, unless it is negative.
-/

namespace KeyRenewal.Toml

/-- The value of a digit in a base. -/
def digit? (base : Nat) (c : Char) : Option Nat :=
  (Text.Hex.value? c).bind fun n => if n < base then some n else none

/-- Digits with single underscores between them, after a first digit; an underscore must be followed
by a digit. -/
def moreDigits (base : Nat) : List Char → Option (List Nat × List Char)
  | [] => some ([], [])
  | '_' :: c :: rest => do
    let d ← digit? base c
    let (ds, rest) ← moreDigits base rest
    return (d :: ds, rest)
  | c :: rest =>
    if c = '_' then none
    else
      match digit? base c with
      | some d => do
        let (ds, rest) ← moreDigits base rest
        return (d :: ds, rest)
      | none => some ([], c :: rest)

def scanDigits (base : Nat) : List Char → Option (Nat × List Char)
  | [] => none
  | c :: rest => do
    let d ← digit? base c
    let (ds, rest) ← moreDigits base rest
    return (ds.foldl (fun n d => base * n + d) d, rest)

/-- A decimal number without a sign: a zero alone or no leading zero. -/
def scanUnsigned : List Char → Option (Nat × List Char)
  | '0' :: rest => some (0, rest)
  | cs => scanDigits 10 cs

/-- A sign and what follows it. -/
def scanSign : List Char → Bool × List Char
  | '+' :: rest => (false, rest)
  | '-' :: rest => (true, rest)
  | cs => (false, cs)

/-- An integer, if it fits into 64 bits with its sign. -/
def integerOf (n : Int) : Option Value :=
  if -0x8000000000000000 ≤ n ∧ n < 0x8000000000000000 then some (.integer n) else none

/-- A decimal fraction: the digits before and after the point, which leave the point so many places
from the right, times a power of ten. -/
structure Decimal where
  digits : Nat
  places : Nat
  exponent : Int

/-- The first number that is nearer to the next power of two than to the greatest number a float
holds, and so has no float of its own. -/
def floatLimit : Nat := (1 <<< 1024) - (1 <<< 970)

/-- Whether a decimal fraction rounds to a number a float holds. Far from the limit the number of
digits decides, so that no great power is written out. -/
def Decimal.isFinite (d : Decimal) : Bool :=
  let exponent := d.exponent - d.places
  let length : Int := (Nat.toDigits 10 d.digits).length
  if d.digits = 0 || length + exponent < 300 then true
  else if 400 < length + exponent then false
  else
    match exponent with
    | .ofNat up => d.digits * Nat.pow 10 up < floatLimit
    | .negSucc down => d.digits < floatLimit * Nat.pow 10 (down + 1)

/-- An exponent after its letter. -/
def scanExponent (cs : List Char) : Option (Int × List Char) := do
  let (negative, cs) := scanSign cs
  let (n, rest) ← scanDigits 10 cs
  return (if negative then -(n : Int) else n, rest)

/-- The exponent that may follow a fraction. -/
def scanExponent? : List Char → Option (Int × List Char)
  | 'e' :: rest | 'E' :: rest => scanExponent rest
  | rest => some (0, rest)

/-- What follows the whole part of a number as far as it makes it a float: none if it is malformed,
and nothing at all if there is neither a point nor an exponent. -/
def scanFraction (whole : Nat) : List Char → Option (Option (Decimal × List Char))
  | '.' :: [] => none
  | '.' :: c :: cs => do
    let d ← digit? 10 c
    let (ds, rest) ← moreDigits 10 cs
    let (exponent, rest) ← scanExponent? rest
    let digits := (d :: ds).foldl (fun n d => 10 * n + d) whole
    return some (⟨digits, ds.length + 1, exponent⟩, rest)
  | 'e' :: rest | 'E' :: rest => do
    let (exponent, rest) ← scanExponent rest
    return some (⟨whole, 0, exponent⟩, rest)
  | _ => some none

/-- Exactly `n` decimal digits and their value. -/
def fixedDigits : Nat → List Char → Option (Nat × List Char)
  | 0, cs => some (0, cs)
  | n + 1, c :: cs => do
    let d ← digit? 10 c
    let (value, rest) ← fixedDigits n cs
    return (d * Nat.pow 10 n + value, rest)
  | _ + 1, [] => none

def daysIn (year month : Nat) : Nat :=
  if month = 2 then
    if year % 4 = 0 ∧ (year % 100 ≠ 0 ∨ year % 400 = 0) then 29 else 28
  else if month = 4 ∨ month = 6 ∨ month = 9 ∨ month = 11 then 30
  else 31

/-- The part of a time after the hour and its colon. -/
def skipMinutes (hour : Nat) (cs : List Char) : Option (List Char) := do
  let (minute, rest) ← fixedDigits 2 cs
  match rest with
  | ':' :: rest => do
    let (second, rest) ← fixedDigits 2 rest
    if 23 < hour ∨ 59 < minute ∨ 60 < second then none
    else
      match rest with
      | '.' :: c :: rest =>
        if c.isDigit then some (rest.dropWhile Char.isDigit) else some ('.' :: c :: rest)
      | rest => some rest
  | _ => none

/-- A time, if there is an hour with a colon; the inner option is none if there is not. -/
def skipTime (cs : List Char) : Option (Option (List Char)) :=
  match fixedDigits 2 cs with
  | some (hour, ':' :: rest) => (skipMinutes hour rest).map some
  | _ => some none

/-- A distance from universal time after its sign. -/
def skipDistance (cs : List Char) : Option (List Char) := do
  let (hour, rest) ← fixedDigits 2 cs
  match rest with
  | ':' :: rest => do
    let (minute, rest) ← fixedDigits 2 rest
    if 23 < hour ∨ 59 < minute then none else some rest
  | _ => none

/-- A distance from universal time, if there is one. -/
def skipOffset : List Char → Option (List Char)
  | 'Z' :: rest | 'z' :: rest => some rest
  | '+' :: rest | '-' :: rest => skipDistance rest
  | rest => some rest

/-- The part of a date after the year and its dash, with a time or not. -/
def skipDate (year : Nat) (cs : List Char) : Option (List Char) := do
  let (month, rest) ← fixedDigits 2 cs
  match rest with
  | '-' :: rest => do
    let (day, rest) ← fixedDigits 2 rest
    if month = 0 ∨ 12 < month ∨ day = 0 ∨ daysIn year month < day then none
    else
      match rest with
      | c :: after =>
        if c = 'T' ∨ c = 't' ∨ c = ' ' then
          match ← skipTime after with
          | some afterTime => skipOffset afterTime
          | none => some rest
        else some rest
      | [] => some []
  | _ => none

/-- A date or a time, if the text starts like one. -/
def scanDate (cs : List Char) : Option (Option (List Char)) :=
  match fixedDigits 4 cs with
  | some (year, '-' :: rest) => (skipDate year rest).map some
  | _ => skipTime cs

/-- An integer or a float in base ten. -/
def scanDecimal (cs : List Char) : Option (Value × List Char) := do
  let (negative, unsigned) := scanSign cs
  match unsigned with
  | 'i' :: 'n' :: 'f' :: rest => return (.float, rest)
  | 'n' :: 'a' :: 'n' :: rest => return (.float, rest)
  | _ => do
    let (n, rest) ← scanUnsigned unsigned
    match ← scanFraction n rest with
    | some (d, rest) => if negative || d.isFinite then return (.float, rest) else none
    | none => do
      let v ← integerOf (if negative then -(n : Int) else n)
      return (v, rest)

/-- An integer in another base. -/
def scanBased (base : Nat) (cs : List Char) : Option (Value × List Char) := do
  let (n, rest) ← scanDigits base cs
  let v ← integerOf n
  return (v, rest)

/-- A number or a date. -/
def scanNumber (cs : List Char) : Option (Value × List Char) := do
  match ← scanDate cs with
  | some rest => return (.date, rest)
  | none =>
    match cs with
    | '0' :: 'x' :: rest => scanBased 16 rest
    | '0' :: 'o' :: rest => scanBased 8 rest
    | '0' :: 'b' :: rest => scanBased 2 rest
    | cs => scanDecimal cs

end KeyRenewal.Toml
