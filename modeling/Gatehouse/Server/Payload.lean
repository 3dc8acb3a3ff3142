import Gatehouse.Json.Record

/-!
# Payloads

What requests carry in their bodies: records in JSON, whose shapes say which fields they have.
-/

namespace Gatehouse

open Json.Record (Field Value)

/-- A shape of records: the fields, and how a record is made of their values. -/
structure Shape (α : Type) where
  fields : List Field
  build : List Value → Option α

/-- Read a record of a shape. -/
def Shape.read {α : Type} (shape : Shape α) (tokens : List Json.Token) :
    Except Json.Record.Fault α :=
  match Json.Record.read shape.fields tokens with
  | .error fault => .error fault
  | .ok values =>
    match shape.build values with
    | some a => .ok a
    | none => .error .misshapen

/-- A text that may be missing. -/
def optionalText? : Value → Option (Option String)
  | .text s => some (some s)
  | .absent => some none
  | _ => none

/-- A username with its password. -/
structure Login where
  username : String
  password : String
  deriving DecidableEq, Repr

/-- The shape of logins. -/
def Login.shape : Shape Login where
  fields := [⟨"username", .text, false⟩, ⟨"password", .text, false⟩]
  build
    | [.text username, .text password] => some ⟨username, password⟩
    | _ => none

/-- A wish for an account. -/
structure Registration where
  username : String
  password : String
  name : String
  email : Option String
  deriving DecidableEq, Repr

/-- The shape of registrations. -/
def Registration.shape : Shape Registration where
  fields := [⟨"username", .text, false⟩, ⟨"password", .text, false⟩, ⟨"name", .text, false⟩,
    ⟨"email", .optionalText, true⟩]
  build
    | [.text username, .text password, .text name, email] =>
      (optionalText? email).map fun email => ⟨username, password, name, email⟩
    | _ => none

/-- A pair of tokens to be renewed. -/
structure TokenPair where
  access : String
  refresh : String
  deriving DecidableEq, Repr

/-- The shape of pairs of tokens. -/
def TokenPair.shape : Shape TokenPair where
  fields := [⟨"shortLivedToken", .text, false⟩, ⟨"longLivedToken", .text, false⟩]
  build
    | [.text access, .text refresh] => some ⟨access, refresh⟩
    | _ => none

/-- The shape of a record with one text. -/
def textShape (name : String) : Shape String where
  fields := [⟨name, .text, false⟩]
  build
    | [.text s] => some s
    | _ => none

/-- A new name and email. -/
structure ProfileWish where
  name : String
  email : Option String
  deriving DecidableEq, Repr

/-- The shape of profiles. -/
def ProfileWish.shape : Shape ProfileWish where
  fields := [⟨"name", .text, false⟩, ⟨"email", .optionalText, true⟩]
  build
    | [.text name, email] => (optionalText? email).map fun email => ⟨name, email⟩
    | _ => none

/-- An old and a new password. -/
structure PasswordChange where
  old : String
  new : String
  deriving DecidableEq, Repr

/-- The shape of changes of a password. -/
def PasswordChange.shape : Shape PasswordChange where
  fields := [⟨"oldPassword", .text, false⟩, ⟨"newPassword", .text, false⟩]
  build
    | [.text old, .text new] => some ⟨old, new⟩
    | _ => none

end Gatehouse
