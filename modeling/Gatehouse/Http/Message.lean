import Gatehouse.Json.Basic

/-!
# HTTP messages

Requests as a server reads them, and responses as it writes them. A header's name is the same in any
letter case, and a value counts only if it is readable: printable ASCII and tabs.
-/

namespace Gatehouse.Http

/-- A header. -/
structure Header where
  name : String
  value : String
  deriving DecidableEq, Repr

/-- The headers of a message, in order. -/
abbrev Headers := List Header

/-- A value is readable. -/
def isReadable (value : String) : Bool := value.toList.all fun c => c = '\t' || (' ' ≤ c && c ≤ '~')

/-- The value of the first header of a name. -/
def Headers.first? (headers : Headers) (name : String) : Option String :=
  (headers.find? fun h => h.name.toLower = name.toLower).map (·.value)

/-- The value of the first header of a name, if it is readable. -/
def Headers.readable? (headers : Headers) (name : String) : Option String :=
  (headers.first? name).filter isReadable

/-- What a server is asked. -/
structure Request where
  method : String
  path : String
  /-- What stands after the question mark. -/
  query : String := ""
  headers : Headers := []
  body : List UInt8 := []
  deriving DecidableEq, Repr

/-- Cut a request's target into path and query. What stands after a number sign is dropped. -/
def splitTarget (target : String) : String × String :=
  let cs := target.toList.takeWhile (· ≠ '#')
  (String.ofList (cs.takeWhile (· ≠ '?')), String.ofList ((cs.dropWhile (· ≠ '?')).drop 1))

/-- What a server answers. The words of a plain text are left open, so a body is a JSON value or
nothing. -/
structure Response where
  status : Nat
  headers : Headers := []
  body : Option Json := none
  deriving Repr

namespace Response

/-- A response without a body. -/
def empty (status : Nat) : Response := { status }

/-- A response in JSON. -/
def json (status : Nat) (body : Json) : Response :=
  { status, headers := [⟨"content-type", "application/json"⟩], body := some body }

/-- A response in plain text. -/
def plain (status : Nat) : Response :=
  { status, headers := [⟨"content-type", "text/plain; charset=utf-8"⟩] }

/-- Add headers. -/
def withHeaders (r : Response) (headers : Headers) : Response :=
  { r with headers := r.headers ++ headers }

/-- Leave the body out. -/
def withoutBody (r : Response) : Response := { r with body := none }

end Response

end Gatehouse.Http
