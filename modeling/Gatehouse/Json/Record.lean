import Gatehouse.Json.Reader

/-!
# Records in JSON

A record has named fields of known kinds. It is written as an object, in which unknown entries are
skipped and no field occurs twice, or as an array of the fields' values in order.

A record is read from the front, so **the first fault decides** whether the text is malformed or has
the wrong shape. `cut` splits an object or array into cells without looking into them; the cell at
which the tokens stop making sense is the last. A cell that is skipped may hold strings and numbers
without a value, nested to any depth.
-/

namespace Gatehouse.Json.Record

/-! ### Cells -/

/-- What is expected inside a value that is being skipped. -/
inductive Want where
  | value
  | valueOrClose
  | key
  | keyOrClose
  | colon
  | separator
  deriving DecidableEq, Repr

/-- The value being skipped: which brackets are open (true for objects), and what comes next. -/
structure Skip where
  brackets : List Bool
  want : Want
  deriving Repr

/-- The outcome of a token while a value is skipped. -/
inductive SkipStep where
  | more (s : Skip)
  | done
  | fault

/-- After a value: the end of the whole, or a separator. -/
def Skip.after (brackets : List Bool) : SkipStep :=
  if brackets.isEmpty then .done else .more ⟨brackets, .separator⟩

/-- Begin a value. -/
def Skip.begin (brackets : List Bool) : Token → SkipStep
  | .openBrace => .more ⟨true :: brackets, .keyOrClose⟩
  | .openBracket => .more ⟨false :: brackets, .valueOrClose⟩
  | .null | .bool _ | .string _ | .number _ => Skip.after brackets
  | _ => .fault

/-- Take one token. -/
def Skip.step (s : Skip) (t : Token) : SkipStep :=
  match s.want, s.brackets, t with
  | .value, brackets, t => Skip.begin brackets t
  | .valueOrClose, false :: brackets, .closeBracket => Skip.after brackets
  | .valueOrClose, brackets, t => Skip.begin brackets t
  | .keyOrClose, true :: brackets, .closeBrace => Skip.after brackets
  | .keyOrClose, brackets, .string _ => .more ⟨brackets, .colon⟩
  | .key, brackets, .string _ => .more ⟨brackets, .colon⟩
  | .colon, brackets, .colon => .more ⟨brackets, .value⟩
  | .separator, true :: brackets, .comma => .more ⟨true :: brackets, .key⟩
  | .separator, false :: brackets, .comma => .more ⟨false :: brackets, .value⟩
  | .separator, true :: brackets, .closeBrace => Skip.after brackets
  | .separator, false :: brackets, .closeBracket => Skip.after brackets
  | _, _, _ => .fault

/-- One entry of an object or item of an array: its key, the tokens of its value, and whether these are
a whole value. -/
structure Cell where
  /-- The key's text, if it has one; of no meaning in an array. -/
  key : Option String
  tokens : List Token
  whole : Bool
  deriving Repr

/-- How cutting ended. -/
inductive Ending where
  /-- At the closing bracket, with the tokens after it. -/
  | closed (rest : List Token)
  /-- Before it. -/
  | broken
  deriving Repr

/-- Where cutting stands. -/
inductive Place where
  /-- Before the first cell. -/
  | first
  /-- Before a further cell. -/
  | next
  /-- Before the colon after a key. -/
  | colon (key : Option String)
  /-- Inside a value; its tokens are latest first. -/
  | value (key : Option String) (tokens : List Token) (skip : Skip)
  /-- After a cell. -/
  | after
  deriving Repr

/-- Cut the rest of an object or array into cells. -/
def cutFrom (isObject : Bool) (place : Place) : List Token → List Cell × Ending
  | [] =>
    match place with
    | .colon key => ([⟨key, [], false⟩], .broken)
    | .value key tokens _ => ([⟨key, tokens.reverse, false⟩], .broken)
    | _ => ([], .broken)
  | t :: ts =>
    let inside (key : Option String) (tokens : List Token) (step : SkipStep) :=
      match step with
      | .more s => cutFrom isObject (.value key (t :: tokens) s) ts
      | .done =>
        let (cells, ending) := cutFrom isObject .after ts
        (⟨key, (t :: tokens).reverse, true⟩ :: cells, ending)
      | .fault => ([⟨key, (t :: tokens).reverse, false⟩], .broken)
    let cell : List Cell × Ending :=
      if isObject then
        match t with
        | .string key => cutFrom isObject (.colon key) ts
        | _ => ([], .broken)
      else inside none [] (Skip.begin [] t)
    match place with
    | .first =>
      if t = (if isObject then .closeBrace else .closeBracket) then ([], .closed ts) else cell
    | .next => if !isObject && t = .closeBracket then ([], .broken) else cell
    | .colon key =>
      if t = .colon then cutFrom isObject (.value key [] ⟨[], .value⟩) ts
      else ([⟨key, [], false⟩], .broken)
    | .value key tokens skip => inside key tokens (skip.step t)
    | .after =>
      if t = .comma then cutFrom isObject .next ts
      else if t = (if isObject then .closeBrace else .closeBracket) then ([], .closed ts)
      else ([], .broken)

/-! ### Fields -/

/-- Why a record cannot be read. -/
inductive Fault where
  /-- The text is no JSON. -/
  | malformed
  /-- The text may be JSON, but not of this record. -/
  | misshapen
  deriving DecidableEq, Repr

/-- What a field holds. -/
inductive Kind where
  | text
  /-- A text; null or nothing for none. -/
  | optionalText
  /-- A signed 64-bit integer. -/
  | integer
  /-- A value whose tokens satisfy a condition. -/
  | shaped (accepts : List Token → Bool)
  /-- The same; null or nothing for none. -/
  | optionalShaped (accepts : List Token → Bool)

/-- A field of a record. -/
structure Field where
  name : String
  kind : Kind
  /-- In an array the field may be left out at the end. -/
  mayLack : Bool := false

/-- The value of a field. -/
inductive Value where
  | text (s : String)
  | integer (n : Int)
  | shaped
  | absent
  deriving DecidableEq, Repr

/-- The first token of a value of another kind: whether the text is malformed there. -/
def Token.otherKind : List Token → Fault
  | .null :: _ | .bool _ :: _ | .string (some _) :: _ | .number (some _) :: _ => .misshapen
  | .openBrace :: _ | .openBracket :: _ => .misshapen
  | _ => .malformed

/-- Read the value of a field from a cell. -/
def Kind.read (kind : Kind) (cell : Cell) : Except Fault Value :=
  match kind, cell.tokens with
  | .optionalText, [.null] => .ok .absent
  | .optionalShaped _, [.null] => .ok .absent
  | .text, [.string (some s)] => .ok (.text s)
  | .optionalText, [.string (some s)] => .ok (.text s)
  | .integer, [.number (some (.int n))] =>
    if n < 0x8000000000000000 then .ok (.integer n) else .error .misshapen
  | .shaped accepts, tokens =>
    if !cell.whole then .error .malformed
    else if accepts tokens then .ok .shaped else .error .misshapen
  | .optionalShaped accepts, tokens =>
    if !cell.whole then .error .malformed
    else if accepts tokens then .ok .shaped else .error .misshapen
  | _, tokens => .error (Token.otherKind tokens)

/-- The value of a field that is not there. -/
def Kind.missing? : Kind → Option Value
  | .optionalText | .optionalShaped _ => some .absent
  | _ => none

/-! ### Records -/

/-- The values read so far, by name. -/
abbrev Found := List (String × Value)

/-- Read the cells of an object. -/
def readObject (fields : List Field) (found : Found) : List Cell → Except Fault Found
  | [] => .ok found
  | cell :: cells =>
    match cell.key with
    | none => .error .malformed
    | some key =>
      match fields.find? fun f => f.name = key with
      | none => if cell.whole then readObject fields found cells else .error .malformed
      | some f =>
        if found.any fun e => e.1 = key then .error .misshapen
        else
          match f.kind.read cell with
          | .ok v => readObject fields ((key, v) :: found) cells
          | .error e => .error e

/-- The values of the fields in order. -/
def collect (found : Found) : List Field → Except Fault (List Value)
  | [] => .ok []
  | f :: fs =>
    match (found.lookup f.name).or f.kind.missing? with
    | none => .error .misshapen
    | some v => (collect found fs).map (v :: ·)

/-- Read the cells of an array. -/
def readArray (ending : Ending) : List Field → List Cell → Except Fault (List Value)
  | [], [] => .ok []
  | [], _ :: _ => .error .malformed
  | f :: fs, [] =>
    match ending with
    | .broken => .error .malformed
    | .closed _ =>
      if f.mayLack then (readArray ending fs []).map (f.kind.missing?.getD .absent :: ·)
      else .error .misshapen
  | f :: fs, cell :: cells =>
    match f.kind.read cell with
    | .ok v => (readArray ending fs cells).map (v :: ·)
    | .error e => .error e

/-- Nothing may follow the record. -/
def finish (ending : Ending) (values : Except Fault (List Value)) : Except Fault (List Value) :=
  match values, ending with
  | .error e, _ => .error e
  | .ok _, .broken => .error .malformed
  | .ok vs, .closed rest => if rest.isEmpty then .ok vs else .error .malformed

/-- Read a record. -/
def read (fields : List Field) : List Token → Except Fault (List Value)
  | .openBrace :: ts =>
    let (cells, ending) := cutFrom true .first ts
    match readObject fields [] cells, ending with
    | .error e, _ => .error e
    | .ok _, .broken => .error .malformed
    | .ok found, ending => finish ending (collect found fields)
  | .openBracket :: ts =>
    let (cells, ending) := cutFrom false .first ts
    finish ending (readArray ending fields cells)
  | tokens => .error (Token.otherKind tokens)

end Gatehouse.Json.Record
