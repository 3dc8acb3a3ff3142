import Gatehouse.Auth.Codec
import Gatehouse.Secret
import Gatehouse.Text.Decimal
import Gatehouse.Text.Utf8

/-!
# Settings

What a server is run with. Settings are read from the variables of its environment, with a default for
each that is missing or makes no sense; the two signing secrets may also come from files. A variable can
hold any bytes, but only text is read: one that holds no text counts as missing.
-/

namespace Gatehouse

/-- The value of a variable: a text, or bytes that are none. -/
inductive EnvironmentValue where
  | text (s : String)
  | raw (bytes : List UInt8) (noText : (Utf8.decode bytes).toOption = none)

namespace EnvironmentValue

/-- The bytes of a value. -/
def bytes : EnvironmentValue → List UInt8
  | text s => Utf8.encode s
  | raw bytes _ => bytes

/-- The text of a value. -/
def text? : EnvironmentValue → Option String
  | text s => some s
  | raw _ _ => none

end EnvironmentValue

instance : Coe String EnvironmentValue := ⟨.text⟩

/-- The variables of an environment. -/
abbrev Environment := List (String × EnvironmentValue)

namespace Environment

/-- An environment in which all values are texts. -/
def ofTexts (texts : List (String × String)) : Environment := texts.map fun v => (v.1, .text v.2)

instance : Coe (List (String × String)) Environment := ⟨ofTexts⟩

/-- The value of a variable. -/
def value? (env : Environment) (name : String) : Option EnvironmentValue := List.lookup name env

/-- The text of a variable. A variable whose value is no text has none, as if it were missing. -/
def get? (env : Environment) (name : String) : Option String := (env.value? name).bind EnvironmentValue.text?

/-- The text of a variable, if it is not empty. -/
def getFilled? (env : Environment) (name : String) : Option String := (env.get? name).filter (· ≠ "")

/-- A positive number, or the default. -/
def positive (env : Environment) (name : String) (default : Nat) : Nat :=
  match (env.get? name).bind Text.integer? with
  | some n => if 0 < n then n.toNat else default
  | none => default

end Environment

/-- The directory in which secrets are kept. -/
structure DataDirectory where
  accessSecret : SecretFile := {}
  refreshSecret : SecretFile := {}
  deriving DecidableEq, Repr

/-- What a server is run with. -/
structure Settings where
  bindAddress : String
  databaseUrl : String
  accessSecret : String
  accessSeconds : Nat
  refreshSecret : String
  refreshSeconds : Nat
  /-- The passphrase under which refresh tokens are sealed. -/
  sealPassphrase : String
  /-- The most accounts that one listing reads. -/
  scanLimit : Nat
  deriving DecidableEq, Repr

namespace Settings

/-- The passphrase for development. -/
def developmentPassphrase : String := "keel-default-dev-key-change-in-production"

/-- The settings of an environment, and the directory afterwards. -/
def ofEnvironment (env : Environment) (dir : DataDirectory)
    (freshAccess freshRefresh : FreshSecret) : Settings × DataDirectory :=
  let (accessSecret, accessFile) := dir.accessSecret.resolve (env.get? "JWT_SECRET") freshAccess
  let (refreshSecret, refreshFile) :=
    dir.refreshSecret.resolve (env.get? "JWT_REFRESH_SECRET") freshRefresh
  ({ bindAddress := (env.get? "BIND_ADDR").getD "127.0.0.1:4000",
     databaseUrl := (env.get? "DATABASE_URL").getD "postgres://localhost:5432/keel",
     accessSecret,
     accessSeconds := env.positive "JWT_EXPIRES_IN" 900,
     refreshSecret,
     refreshSeconds := env.positive "JWT_REFRESH_EXPIRES_IN" 2592000,
     sealPassphrase := (env.getFilled? "ENCRYPTION_SECRET").getD developmentPassphrase,
     scanLimit := env.positive "USER_SCAN_LIMIT" 10000 },
   ⟨accessFile, refreshFile⟩)

/-- Secrets and lifetimes of tokens. There are none when a lifetime is too long for a span. -/
def tokenConfig? (s : Settings) : Option TokenConfig := do
  let accessLifetime ← Span.ofSeconds? s.accessSeconds
  let refreshLifetime ← Span.ofSeconds? s.refreshSeconds
  return ⟨s.accessSecret, accessLifetime, s.refreshSecret, refreshLifetime, s.sealPassphrase⟩

end Settings

end Gatehouse
