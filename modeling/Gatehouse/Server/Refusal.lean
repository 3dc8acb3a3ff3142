import Gatehouse.Auth.Failure
import Gatehouse.Http.Message

/-!
# Refusals

Why a service does not do what it is asked, and how that is answered. A refusal says no more than its
message: **every rejected credential is refused in the same words**, and what goes wrong inside is told
to nobody.
-/

namespace Gatehouse

open Http (Response)

/-- Why a request is refused. -/
inductive Refusal where
  | validation (message : String)
  | notFound (message : String)
  | unauthorized (message : String)
  | forbidden (message : String)
  | conflict (message : String)
  | internal
  deriving DecidableEq, Repr

namespace Refusal

/-! ### How a refusal is answered -/

/-- The status of the answer. -/
def status : Refusal → Nat
  | .validation _ => 400
  | .notFound _ => 404
  | .unauthorized _ => 401
  | .forbidden _ => 403
  | .conflict _ => 409
  | .internal => 500

/-- The kind of refusal, as the answer names it. -/
def kind : Refusal → String
  | .validation _ => "validation_error"
  | .notFound _ => "not_found"
  | .unauthorized _ => "unauthorized"
  | .forbidden _ => "forbidden"
  | .conflict _ => "conflict"
  | .internal => "internal_error"

/-- The message of a refusal for inner reasons. -/
def internalMessage : String := "Internal server error"

/-- The message that the answer gives. -/
def message : Refusal → String
  | .validation m | .notFound m | .unauthorized m | .forbidden m | .conflict m => m
  | .internal => internalMessage

/-- A refusal in one line. -/
def display : Refusal → String
  | .validation m => "Validation error: " ++ m
  | .notFound m => "Not found: " ++ m
  | .unauthorized m => "Unauthorized: " ++ m
  | .forbidden m => "Forbidden: " ++ m
  | .conflict m => "Conflict: " ++ m
  | .internal => internalMessage

/-- The body of the answer. -/
def toJson (r : Refusal) : Json :=
  .object [("error", .string r.kind), ("message", .string r.message)]

/-- The answer. -/
def toResponse (r : Refusal) : Response := .json r.status r.toJson

/-! ### What is refused -/

/-- A credential that is not accepted, for whatever reason. -/
def badCredentials : Refusal := .unauthorized "Invalid credentials"

/-- A query that cannot be read. -/
def badQuery : Refusal := .validation "Invalid filter query"

/-- The refusal for a fault of a store. -/
def ofFault : StoreFault → Refusal
  | .rowNotFound => .notFound "row not found"
  | .closed | .timedOut => .internal

/-- The refusal for a failed operation on credentials. -/
def ofAuthError : AuthError → Refusal
  | .credential | .authentication _ => badCredentials
  | .concurrentModification => .conflict "Token was refreshed concurrently, retry"
  | .store fault => ofFault fault
  | .encryption _ | .token _ | .internal _ => .internal

/-- The refusal for a failed operation on accounts. -/
def ofUserError : UserError → Refusal
  | .alreadyExists => .conflict "User already exists"
  | .store fault => ofFault fault

end Refusal

end Gatehouse
