import Gatehouse.Auth.Failure
import Gatehouse.Auth.Token

/-!
# Credentials of two kinds

A short-lived access token and a long-lived refresh token, each with its own secret and lifetime. The
refresh token is also kept sealed.
-/

namespace Gatehouse

/-- The two kinds of token. -/
inductive TokenKind where
  | access
  | refresh
  deriving DecidableEq, Repr

/-- Secrets and lifetimes. -/
structure TokenConfig where
  accessSecret : String
  accessLifetime : Span
  refreshSecret : String
  refreshLifetime : Span
  /-- The passphrase under which refresh tokens are sealed. -/
  sealPassphrase : String

/-- The failure of whoever offers a token with a fault. -/
def SignedToken.Fault.toFailure : SignedToken.Fault → AuthFailure
  | .expired => .expired
  | .invalid => .invalidToken

namespace TokenConfig

/-- The secret of a kind. -/
def secret (c : TokenConfig) : TokenKind → String
  | .access => c.accessSecret
  | .refresh => c.refreshSecret

/-- The lifetime of a kind. -/
def lifetime (c : TokenConfig) : TokenKind → Span
  | .access => c.accessLifetime
  | .refresh => c.refreshLifetime

/-- Sign a fresh token for a subject. There is none when its expiry lies outside the calendar. -/
def sign? (c : TokenConfig) (s : Subject) (kind : TokenKind) (now : Instant) (tokenId : String) :
    Option String :=
  (Claims.mint? s (c.lifetime kind) now tokenId).map (SignedToken.sign (c.secret kind))

/-- Verify a token of a kind. -/
def verify (c : TokenConfig) (token : String) (kind : TokenKind) (checkExpiry : Bool)
    (now : Instant) : Except AuthFailure Claims :=
  (SignedToken.verify token (c.secret kind) checkExpiry now).mapError SignedToken.Fault.toFailure

/-- Seal a refresh token. -/
def sealToken (c : TokenConfig) (nonce : Nonce) (token : String) : Sealed :=
  Sealed.ofText c.sealPassphrase nonce token

/-- Open a sealed refresh token. -/
def reveal (c : TokenConfig) (s : Sealed) : Except AuthError String :=
  (Sealed.reveal c.sealPassphrase s).mapError .encryption

end TokenConfig

end Gatehouse
