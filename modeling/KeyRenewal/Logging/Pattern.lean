import KeyRenewal.Logging.Pattern.Scan
import KeyRenewal.Logging.Pattern.Support

/-!
# Values to match

A field in a filter may be given a value: a truth value, a number, or else a pattern. All but the
numbers with a plus sign are patterns by their form as well, so that only these need be told apart.
-/

namespace KeyRenewal.Logging

/-- Digits with a point or without, and perhaps an exponent. -/
def isDecimal (text : List Char) : Bool :=
  let isDigits (ds : List Char) : Bool := ds.all Char.isDigit
  let mantissa := text.takeWhile fun c => c != 'e' && c != 'E'
  let point := mantissa.filter (· == '.')
  let exponentFits := match text.dropWhile fun c => c != 'e' && c != 'E' with
    | [] => true
    | _ :: '+' :: ds | _ :: '-' :: ds => isDigits ds && ds != []
    | _ :: ds => isDigits ds && ds != []
  decide (point.length ≤ 1) && isDigits (mantissa.filter (· != '.')) &&
    mantissa.any Char.isDigit && exponentFits

/-- Whether a text is a number with a plus sign, which would have nothing to repeat as a pattern. -/
def isPositiveNumber : List Char → Bool
  | '+' :: rest =>
    isDecimal rest || ["inf", "infinity", "nan"].contains (String.ofList (rest.map Char.toLower))
  | _ => false

/-- Whether a text is something a value can be matched against. -/
def isMatchable (text : List Char) : Bool :=
  isPositiveNumber text || (Pattern.parse text).any Pattern.isUsable

example : (["a.*", "[^]a-c-]+", "(?-u:\\w|(?i)y)?", "+1.5e3", "", "(?x)[a -# \n c]"].map fun t =>
    isMatchable t.toList) = [true, true, true, true, true, true] := by
  decide +kernel

example : (["*", "(", "[b-a]", "a|+", "(?)", "\\b", "[]", "(?i)a"].map fun t =>
    isMatchable t.toList) = [false, false, false, false, false, false, false, false] := by
  decide +kernel

end KeyRenewal.Logging
