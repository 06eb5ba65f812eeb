import SpokenIntent.Json.Value

/-!
Values that the host passes in, of whatever kind. Objects are dictionaries; a function is known by
its identity alone.
-/

namespace SpokenIntent

/-- A function of the host. Two are the same when their identities are. -/
structure HostFunction where
  id : Nat
  deriving DecidableEq

inductive HostValue where
  | undefined
  | null
  | bool (b : Bool)
  | number (x : Binary64)
  | string (s : String)
  | array (items : List HostValue)
  | object (fields : List (String × HostValue))
  | function (f : HostFunction)

instance : Inhabited HostValue := ⟨.undefined⟩

namespace HostValue

/-- The name of a value's type; lists are objects. -/
def typeName : HostValue → String
  | .undefined => "undefined"
  | .null => "null"
  | .bool _ => "boolean"
  | .number _ => "number"
  | .string _ => "string"
  | .array _ => "object"
  | .object _ => "object"
  | .function _ => "function"

def asString? : HostValue → Option String
  | .string s => some s
  | _ => none

def asFunction? : HostValue → Option HostFunction
  | .function f => some f
  | _ => none

/-- The field of an object; other values have none. -/
def get? (key : String) : HostValue → Option HostValue
  | .object fields => Dict.get? key fields
  | _ => none

/-- An object with the given fields; of two with the same key the later one counts. -/
def ofFields (fields : List (String × HostValue)) : HostValue :=
  .object (Dict.ofList fields)

mutual

/-- Equality of values. Numbers compare as numbers do, so a value with a NaN inside differs from
itself. -/
def eq : HostValue → HostValue → Bool
  | .undefined, .undefined => true
  | .null, .null => true
  | .bool a, .bool b => a == b
  | .number x, .number y => x.eq y
  | .string s, .string t => s == t
  | .array xs, .array ys => eqItems xs ys
  | .object xs, .object ys => eqFields xs ys
  | .function f, .function g => f == g
  | _, _ => false

def eqItems : List HostValue → List HostValue → Bool
  | [], [] => true
  | x :: xs, y :: ys => eq x y && eqItems xs ys
  | _, _ => false

def eqFields : List (String × HostValue) → List (String × HostValue) → Bool
  | [], [] => true
  | (k, x) :: xs, (l, y) :: ys => k == l && eq x y && eqFields xs ys
  | _, _ => false

end

mutual

def ofJson : Json → HostValue
  | .null => .null
  | .bool b => .bool b
  | .number n => .number n.nearest
  | .string s => .string s
  | .array items => .array (ofItems items)
  | .object members => ofFields (ofMembers members)

def ofItems : List Json → List HostValue
  | [] => []
  | x :: xs => ofJson x :: ofItems xs

def ofMembers : List (String × Json) → List (String × HostValue)
  | [] => []
  | (k, x) :: rest => (k, ofJson x) :: ofMembers rest

end

def describeFunction : String := "Function([Function])"

end HostValue

end SpokenIntent
