import Gatehouse.Instant.Basic
import Gatehouse.Json.Printer
import Gatehouse.Json.Record

/-!
# Claims

What a signed token says: whom it was issued to, when, until when, and its own id. Claims are written
as a JSON object with six fields, and read from one that has at least these.
-/

namespace Gatehouse

/-- Whom tokens are issued to. -/
structure Subject where
  username : String
  id : String
  role : String
  deriving DecidableEq, Repr

/-- The claims of a token. Times are in whole seconds since 1970. -/
structure Claims where
  username : String
  sub : String
  role : String
  issuedAt : Int
  expiresAt : Int
  tokenId : String
  deriving DecidableEq, Repr

namespace Claims

/-- The subject that the claims name. -/
def subject (c : Claims) : Subject := ⟨c.username, c.sub, c.role⟩

/-- Fresh claims for a subject. There are none when their expiry lies outside the calendar. -/
def mint? (s : Subject) (lifetime : Span) (now : Instant) (tokenId : String) : Option Claims :=
  (now.add? lifetime).map fun expiry =>
    ⟨s.username, s.id, s.role, now.second, expiry.second, tokenId⟩

/-- The claims as a JSON object. -/
def toJson (c : Claims) : Json :=
  .object [("username", .string c.username), ("sub", .string c.sub), ("role", .string c.role),
    ("iat", Json.ofInt c.issuedAt), ("exp", Json.ofInt c.expiresAt), ("jti", .string c.tokenId)]

/-- The fields of claims. -/
def fields : List Json.Record.Field :=
  [⟨"username", .text, false⟩, ⟨"sub", .text, false⟩, ⟨"role", .text, false⟩,
    ⟨"iat", .integer, false⟩, ⟨"exp", .integer, false⟩, ⟨"jti", .text, false⟩]

/-- Read claims from the tokens of a JSON object. -/
def ofTokens? (tokens : List Json.Token) : Option Claims :=
  match Json.Record.read fields tokens with
  | .ok [.text username, .text sub, .text role, .integer issuedAt, .integer expiresAt,
      .text tokenId] => some ⟨username, sub, role, issuedAt, expiresAt, tokenId⟩
  | _ => none

end Claims

end Gatehouse
