import Gatehouse.Auth.Claims
import Gatehouse.Crypto.Sha256
import Gatehouse.Text.Base64

/-!
# Signed tokens

A token is three parts joined by dots: a header, the claims, and a signature. Header and claims are
base64 of JSON texts; the signature is base64 of the HMAC-SHA256 of the first two parts with their dot.
A token is cut at its **last** two dots.

A token is refused as invalid unless header, signature and claims are all in order; only then can it be
refused as expired. So nothing is learnt from an expiry about a token that was not signed.
-/

namespace Gatehouse

open Json (Token)

namespace SignedToken

/-- Why a token is refused. -/
inductive Fault where
  | expired
  | invalid
  deriving DecidableEq, Repr

/-- A secret as a key. -/
def keyOf (secret : String) : Crypto.Bytes := Utf8.encode secret

/-- Base64 of a text. -/
def encodeText (text : String) : String := Base64.encode Base64.urlSafe (Utf8.encode text)

/-- The signature of a text. -/
def signature (key : Crypto.Bytes) (text : String) : String :=
  Base64.encode Base64.urlSafe (Crypto.hmacSha256 key (Utf8.encode text))

/-- The header of every token that is signed here. -/
def header : Json := .object [("typ", .string "JWT"), ("alg", .string "HS256")]

/-- The signed part of a token: header and claims. -/
def message (claims : Claims) : String :=
  encodeText header.render ++ "." ++ encodeText claims.toJson.render

/-- Sign claims with a key. -/
def signWith (key : Crypto.Bytes) (claims : Claims) : String :=
  message claims ++ "." ++ signature key (message claims)

/-- Sign claims with a secret. -/
def sign (secret : String) (claims : Claims) : String := signWith (keyOf secret) claims

/-! ### The header -/

/-- The algorithm: its name, or an object with its name alone. -/
def isAlgorithm : List Token → Bool
  | [.string (some name)] => name = "HS256"
  | [.openBrace, .string (some name), .colon, .null, .closeBrace] => name = "HS256"
  | _ => false

/-- A list of texts. -/
def isTextList (tokens : List Token) : Bool :=
  match Json.ofTokens? tokens with
  | some (.array items) => items.all fun
    | .string _ => true
    | _ => false
  | _ => false

/-- A member of an object is a text. -/
def hasText (entries : Json.Entries) (key : String) : Bool :=
  match Assoc.get? key entries with
  | some (.string _) => true
  | _ => false

/-- A member of an object is missing, null or a text. -/
def mayHaveText (entries : Json.Entries) (key : String) : Bool :=
  match Assoc.get? key entries with
  | none | some .null | some (.string _) => true
  | _ => false

/-- A key: its type says which further members it must have. -/
def isKey (tokens : List Token) : Bool :=
  match Json.ofTokens? tokens with
  | some (.object entries) =>
    let curve (accepted : List String) : Bool :=
      match Assoc.get? "crv" entries with
      | some (.string name) => accepted.contains name
      | _ => false
    let curves := ["P-256", "P-384", "P-521", "Ed25519"]
    (match Assoc.get? "kty" entries with
      | some (.string "EC") => curve curves && hasText entries "x" && hasText entries "y"
      | some (.string "RSA") => hasText entries "n" && hasText entries "e"
      | some (.string "oct") => hasText entries "k"
      | some (.string "OKP") => curve curves && hasText entries "x"
      | _ => false) &&
      ["use", "alg", "kid", "x5u", "x5t", "x5t#S256"].all (mayHaveText entries)
  | _ => false

/-- The fields of a header. All but the algorithm may be missing, but not be of another kind. -/
def headerFields : List Json.Record.Field :=
  [⟨"typ", .optionalText, false⟩, ⟨"alg", .shaped isAlgorithm, false⟩,
    ⟨"cty", .optionalText, false⟩, ⟨"jku", .optionalText, false⟩,
    ⟨"jwk", .optionalShaped isKey, false⟩, ⟨"kid", .optionalText, false⟩,
    ⟨"x5u", .optionalText, false⟩, ⟨"x5c", .optionalShaped isTextList, false⟩,
    ⟨"x5t", .optionalText, false⟩, ⟨"x5t#S256", .optionalText, false⟩]

/-- The tokens of the JSON text in a part. -/
def tokensOf? (part : List Char) : Option (List Token) :=
  match Base64.decode Base64.urlSafe (Utf8.encodeChars part) with
  | .ok bytes => some (Token.ofBytes bytes)
  | .error _ => none

/-- A part is a header with the one algorithm. -/
def isHeader (part : List Char) : Bool :=
  match tokensOf? part with
  | some tokens => (Json.Record.read headerFields tokens).isOk
  | none => false

/-! ### The claims -/

/-- A value that is left alone: any but an array or object with something in it. -/
def isPlain : List Token → Bool
  | [.openBracket, .closeBracket] | [.openBrace, .closeBrace] => true
  | [.null] | [.bool _] | [.number _] => true
  | [.string text] => text.isSome
  | _ => false

/-- A value that names no audience: none is served here. -/
def isNoAudience (tokens : List Token) : Bool :=
  match Json.ofTokens? tokens with
  | some (.string _) => false
  | some (.array items) => !items.all fun
    | .string _ => true
    | _ => false
  | some _ => true
  | none => false

/-- A value that is JSON. -/
def isJson (tokens : List Token) : Bool := (Json.ofTokens? tokens).isSome

/-- The registered names among claims, beyond their own fields. They occur once and hold what they
may. -/
def registeredFields (isAudience : List Token → Bool) : List Json.Record.Field :=
  [⟨"nbf", .optionalShaped isPlain, false⟩, ⟨"iss", .optionalShaped isJson, false⟩,
    ⟨"aud", .optionalShaped isAudience, false⟩]

/-- The claims in a part, if it holds an object with all of them. An expiry before 1970 is none. -/
def claimsOf? (part : List Char) : Option Claims :=
  match tokensOf? part with
  | some (.openBrace :: tokens) =>
    match Claims.ofTokens? (.openBrace :: tokens) with
    | some claims => if 0 ≤ claims.expiresAt then some claims else none
    | none => none
  | _ => none

/-- The registered names of the claims in a part are in order. -/
def registeredInOrder (isAudience : List Token → Bool) (part : List Char) : Bool :=
  match tokensOf? part with
  | some tokens => (Json.Record.read (registeredFields isAudience) tokens).isOk
  | none => false

/-! ### Verifying -/

/-- Cut at the last dot. -/
def cutLast? (cs : List Char) : Option (List Char × List Char) :=
  let after := (cs.reverse.takeWhile (· ≠ '.')).reverse
  match cs.length - after.length with
  | 0 => none
  | n + 1 => some (cs.take n, after)

/-- The parts of a token: header, claims, signature, and the signed text. -/
structure Parts where
  header : List Char
  claims : List Char
  signature : String
  message : String

/-- Take a token apart. -/
def parts? (token : String) : Option Parts :=
  match cutLast? token.toList with
  | some (message, signature) =>
    match cutLast? message with
    | some (header, claims) =>
      some ⟨header, claims, String.ofList signature, String.ofList message⟩
    | none => none
  | none => none

/-- Verify a token with a key at a time; without `checkExpiry` an expired one is accepted. The audience
is looked at last. -/
def verifyWith (token : String) (key : Crypto.Bytes) (checkExpiry : Bool) (now : Instant) :
    Except Fault Claims :=
  match parts? token with
  | none => .error .invalid
  | some p =>
    if !isHeader p.header || p.signature ≠ signature key p.message then .error .invalid
    else match claimsOf? p.claims with
    | none => .error .invalid
    | some claims =>
      if !registeredInOrder isJson p.claims then .error .invalid
      else if checkExpiry && claims.expiresAt < now.second then .error .expired
      else if !registeredInOrder isNoAudience p.claims then .error .invalid
      else .ok claims

/-- Verify a token with a secret. -/
def verify (token secret : String) (checkExpiry : Bool) (now : Instant) : Except Fault Claims :=
  verifyWith token (keyOf secret) checkExpiry now

end SignedToken

end Gatehouse
