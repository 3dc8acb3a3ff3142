/-!
# Media types

A media type is written as two names with a slash between them, and parameters after semicolons. The
second name may end in a suffix after a plus sign. Only the names are kept, in lower case.
-/

namespace Gatehouse.Http

/-- A media type without its parameters. -/
structure MediaType where
  kind : String
  subtype : String
  suffix : Option String
  deriving DecidableEq, Repr

namespace MediaType

/-- The characters of names. -/
def isNameChar (c : Char) : Bool := c.isAlphanum || "!#$%&'*+-.^_`|~".toList.contains c

/-- The characters between quotes. -/
def isQuotable (c : Char) : Bool := 31 < c.toNat && c.toNat ≠ 127

/-- Where the reading of parameters stands. -/
inductive Place where
  /-- Before a name. -/
  | start
  | name
  /-- Right after the equals sign. -/
  | equals
  | value
  /-- Right after the opening quote. -/
  | quote
  | quoted
  /-- After the closing quote. -/
  | closed
  deriving DecidableEq, Repr

/-- Take one character. -/
def Place.step (place : Place) (c : Char) : Option Place :=
  match place with
  | .start => if c = ' ' then some .start else if isNameChar c then some .name else none
  | .name => if c = '=' then some .equals else if isNameChar c then some .name else none
  | .equals => if c = '"' then some .quote else if isNameChar c then some .value else none
  | .value => if c = ';' then some .start else if isNameChar c then some .value else none
  | .quote => if isQuotable c then some .quoted else none
  | .quoted => if c = '"' then some .closed else if isQuotable c then some .quoted else none
  | .closed => if c = ';' then some .start else if c = ' ' then some .closed else none

/-- Parameters may end here. -/
def Place.isEnd : Place → Bool
  | .start | .equals | .value | .closed => true
  | .name | .quote | .quoted => false

/-- A text of parameters is in order. -/
def areParameters (cs : List Char) : Bool := (cs.foldlM Place.step .start).any Place.isEnd

/-- Cut a suffix off a name: what stands after the last plus sign that is not the first character. -/
def cutSuffix (name : List Char) : List Char × Option (List Char) :=
  let after := (name.reverse.takeWhile (· ≠ '+')).reverse
  match name.length - after.length with
  | 0 | 1 => (name, none)
  | n + 1 => (name.take n, some after)

/-- A text in lower case. -/
def lower (cs : List Char) : String := String.ofList (cs.map Char.toLower)

/-- Read a media type. Only without parameters may the second name be empty. -/
def parse? (text : String) : Option MediaType :=
  let kind := text.toList.takeWhile isNameChar
  match text.toList.dropWhile isNameChar with
  | '/' :: rest =>
    let name := rest.takeWhile isNameChar
    let (subtype, suffix) := cutSuffix name
    let inOrder := match rest.dropWhile isNameChar with
      | [] => true
      | ';' :: parameters => !name.isEmpty && areParameters parameters
      | _ => false
    if kind.isEmpty || !inOrder then none
    else some ⟨lower kind, lower subtype, suffix.map lower⟩
  | _ => none

/-- A media type is JSON, by its second name or its suffix. -/
def isJson (m : MediaType) : Bool :=
  m.kind = "application" && (m.subtype = "json" || m.suffix = some "json")

end MediaType

end Gatehouse.Http
