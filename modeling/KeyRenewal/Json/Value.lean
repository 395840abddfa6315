/-!
# JSON values

The values of JSON that this library has a use for: numbers are natural. Well-formed text of any
other kind (another number, a string with half a surrogate pair, an object with such a key) stands
for `other`, which is accepted only where a value is ignored.
-/

namespace KeyRenewal.Json

inductive Value
  | null
  | bool (value : Bool)
  | natural (value : Nat)
  | string (text : String)
  | array (items : List Value)
  | object (members : List (String × Value))
  | other
deriving Inhabited

namespace Value

def string? : Value → Option String
  | string text => some text
  | _ => none

def natural? : Value → Option Nat
  | natural value => some value
  | _ => none

def bool? : Value → Option Bool
  | bool value => some value
  | _ => none

def array? : Value → Option (List Value)
  | array items => some items
  | _ => none

/-- The first value of an object under a key. -/
def member? (v : Value) (key : String) : Option Value :=
  match v with
  | object members => members.lookup key
  | _ => none

end Value

end KeyRenewal.Json
