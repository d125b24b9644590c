import Mathlib.Data.Int.Notation
import Mathlib.Data.PNat.Defs

/-!
# The API of the Hypervisor

What `_api` makes of a response, and what Python makes of its data. Members that are arrays, objects
or floating-point numbers are left out, since none that is read is one.
-/

namespace ProxmoxIaas.ProxmoxApi

/-- The time is in milliseconds. -/
def seconds (n : ℕ) : ℕ := n * 1000

/-- The pause between two polls. -/
def pollPause : ℕ+ := 3000

/-- The value of a member of a response. -/
inductive Field where
  | null
  | bool (value : Bool)
  | int (value : ℤ)
  | text (value : List Char)
  deriving DecidableEq, Repr

/-- The truth value of a member. -/
def Field.isTruthy : Field → Bool
  | .null => false
  | .bool value => value
  | .int value => value ≠ 0
  | .text value => value ≠ []

/-- What the data can be other than an object or a text. -/
inductive Other where
  | list
  | noneType
  | int
  | float
  | bool
  deriving DecidableEq, Repr

/-- The data of a response. -/
inductive Data where
  | object (members : List (String × Field))
  | text (value : List Char)
  | other (kind : Other)
  deriving DecidableEq, Repr

/-- The exception of `get` on what is no object. -/
def Other.noGet : Other → List Char
  | .list => "'list' object has no attribute 'get'".toList
  | .noneType => "'NoneType' object has no attribute 'get'".toList
  | .int => "'int' object has no attribute 'get'".toList
  | .float => "'float' object has no attribute 'get'".toList
  | .bool => "'bool' object has no attribute 'get'".toList

/-- `data.get(key)`. -/
def Data.get (key : String) : Data → Except (List Char) (Option Field)
  | .object members => .ok (members.lookup key)
  | .text _ => .error "'str' object has no attribute 'get'".toList
  | .other kind => .error kind.noGet

/-- An exception of the HTTP library, with its text. -/
inductive Failure where
  /-- `HTTPError`. -/
  | http (text : List Char)
  /-- Another one. -/
  | other (text : List Char)
  deriving DecidableEq, Repr

/-- The text of an exception. -/
def Failure.text : Failure → List Char
  | .http text | .other text => text

/-- A response that is no error. -/
structure Response where
  /-- Whether it says that it is JSON. -/
  isJson : Bool
  /-- Its text. -/
  text : List Char
  /-- What `json().get("data")` finds, or the text of the exception. -/
  data : Except (List Char) (Option Data)

/-- What `_api` returns or raises for an answer. -/
def api : Except Failure Response → Except Failure Data
  | .error failure => .error failure
  | .ok response =>
    if response.isJson then
      match response.data with
      | .ok data => .ok (data.getD (.object []))
      | .error text => .error (.other text)
    else .ok (.text response.text)

end ProxmoxIaas.ProxmoxApi
