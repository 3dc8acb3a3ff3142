import Gatehouse.Auth.Codec
import Gatehouse.Store.Access

/-!
# The life of a pair of tokens

Issuing mints both tokens and keeps the refresh token sealed; refreshing mints a new access token
against the current refresh token and extends the record; revoking deletes the record.

A refresh passes its checks in a fixed order, reads the record between the first and the second half of
them, and writes **only if the record is still at the version that was read**. What fails writes
nothing.
-/

namespace Gatehouse

/-- A pair of tokens with the record it is tied to. -/
structure IssuedTokens where
  accessToken : String
  refreshToken : String
  record : TokenRecord
  deriving DecidableEq, Repr

/-- What is drawn at random when tokens are minted. -/
structure TokenDraws where
  accessId : Uuid
  refreshId : Uuid
  recordId : Uuid
  nonce : Nonce

namespace TokenConfig

/-- The text in a record, unsealed. -/
def storedToken (c : TokenConfig) (r : TokenRecord) : Except AuthError String := c.reveal r.token

/-! ### The checks of a refresh -/

/-- The checks before the record is read: both tokens verify, the access token also when expired. The
claims of both are handed on. -/
def checkTokens (c : TokenConfig) (access refresh : String) (now : Instant) :
    Except AuthError (Claims × Claims) := do
  let a ← (c.verify access .access false now).mapError .authentication
  let r ← (c.verify refresh .refresh true now).mapError .authentication
  return (a, r)

/-- The checks of the record that was read for the refresh token's subject. -/
def checkRecord (c : TokenConfig) (access refresh : Claims) (token : String)
    (found : Option TokenRecord) (now : Instant) : Except AuthError TokenRecord := do
  match found with
  | none => throw (.authentication .recordMissing)
  | some r =>
    if access.sub ≠ r.subject || refresh.sub ≠ r.subject then
      throw (.authentication .subjectMismatch)
    else
      let stored ← c.storedToken r
      if stored ≠ token then throw (.authentication .superseded)
      else if !now.before r.expiresAt then throw (.authentication .recordExpired)
      else return r

/-- Whether the record that was read keeps a token alive. -/
def keepsAlive (c : TokenConfig) (token : String) (found : Option TokenRecord) (now : Instant) :
    Except AuthError Bool :=
  match found with
  | none => .ok false
  | some r => (c.storedToken r).map fun stored => stored = token && now.before r.expiresAt

/-! ### The operations -/

variable {σ : Type}

/-- Mint a pair for a subject and keep the refresh token, in the place of any other. -/
def issue (c : TokenConfig) (store : RecordAccess σ) (s : Subject) (now : Instant)
    (draws : TokenDraws) : Action σ (Stop AuthError) IssuedTokens := do
  let accessToken ← Action.ofCalendar (c.sign? s .access now draws.accessId.render)
  let refreshToken ← Action.ofCalendar (c.sign? s .refresh now draws.refreshId.render)
  let expiresAt ← Action.ofCalendar (now.add? c.refreshLifetime)
  let record ← Action.lift <|
    store.upsert s.id (c.sealToken draws.nonce refreshToken) expiresAt now draws.recordId.render
  return ⟨accessToken, refreshToken, record⟩

/-- The writing half of a refresh: a new access token for the refresh token's subject, and the new
expiry, if the record is still as it was read. -/
def renew (c : TokenConfig) (store : RecordAccess σ) (claims : Claims) (token : String)
    (r : TokenRecord) (now : Instant) (accessId : Uuid) :
    Action σ (Stop AuthError) IssuedTokens := do
  let accessToken ← Action.ofCalendar (c.sign? claims.subject .access now accessId.render)
  let expiresAt ← Action.ofCalendar (now.add? c.refreshLifetime)
  match ← Action.lift (store.extend r.subject r.version expiresAt now) with
  | some record => return ⟨accessToken, token, record⟩
  | none => Action.stop .concurrentModification

/-- Exchange an access token, which may have expired, and the current refresh token. -/
def refresh (c : TokenConfig) (store : RecordAccess σ) (access token : String) (now : Instant)
    (accessId : Uuid) : Action σ (Stop AuthError) IssuedTokens := do
  let (a, r) ← Action.lift (Action.ofExcept (c.checkTokens access token now))
  let found ← Action.lift (store.find r.sub)
  let record ← Action.lift (Action.ofExcept (c.checkRecord a r token found now))
  c.renew store r token record now accessId

/-- Whether a refresh token is the live one of its subject. -/
def verifyRefreshToken (c : TokenConfig) (store : RecordAccess σ) (token : String) (now : Instant) :
    Action σ AuthError Bool := do
  match c.verify token .refresh true now with
  | .error _ => return false
  | .ok claims =>
    let found ← store.find claims.sub
    Action.ofExcept (c.keepsAlive token found now)

/-- The claims of an access token that is valid and has not expired. -/
def verifyAccessToken (c : TokenConfig) (token : String) (now : Instant) :
    Except AuthFailure Claims :=
  c.verify token .access true now

end TokenConfig

end Gatehouse
