import Gatehouse.Json.Basic
import Gatehouse.Json.Token

/-!
# Reading JSON values

`Json.ofTokens?` builds a value from tokens by shifting them onto a stack of open arrays and
objects. A key that occurs twice keeps its first place and its last value. Fewer than 128 arrays
and objects may be open at once, and every string and number must have a value.
-/

namespace Gatehouse.Json

/-- An array or object that is still open. -/
inductive Frame where
  /-- The items so far, latest first. -/
  | array (items : List Json)
  /-- The entries so far, and the key whose value comes next. -/
  | object (entries : Entries) (key : String)
  deriving Repr

/-- What the reader expects next. -/
inductive Expect where
  /-- A value. -/
  | value
  /-- A value, or the end of an array that has just begun. -/
  | valueOrClose
  /-- A key; with `mayClose`, also the end of an object that has just begun. -/
  | key (entries : Entries) (mayClose : Bool)
  /-- The colon after a key. -/
  | colon (entries : Entries) (key : String)
  /-- A comma or the end of the innermost frame, with the value read last. -/
  | separator (last : Json)
  deriving Repr

/-- The open frames, innermost first, and what comes next. -/
structure Machine where
  frames : List Frame
  expect : Expect
  deriving Repr

/-- How many arrays and objects may be open at once. -/
def depthLimit : Nat := 127

namespace Machine

/-- Open an array. -/
def openArray (frames : List Frame) : Option Machine :=
  if frames.length < depthLimit then some ⟨.array [] :: frames, .valueOrClose⟩ else none

/-- Open an object: its frame is pushed with its first key. -/
def openObject (frames : List Frame) : Option Machine :=
  if frames.length < depthLimit then some ⟨frames, .key [] true⟩ else none

/-- Begin a value. -/
def begin (frames : List Frame) : Token → Option Machine
  | .null => some ⟨frames, .separator .null⟩
  | .bool b => some ⟨frames, .separator (.bool b)⟩
  | .string (some s) => some ⟨frames, .separator (.string s)⟩
  | .number (some n) => some ⟨frames, .separator (.number n)⟩
  | .openBracket => openArray frames
  | .openBrace => openObject frames
  | _ => none

/-- Take one token; nothing if it does not fit. -/
def step (m : Machine) (t : Token) : Option Machine :=
  match m.expect, m.frames, t with
  | .value, frames, t => begin frames t
  | .valueOrClose, .array _ :: frames, .closeBracket => some ⟨frames, .separator (.array [])⟩
  | .valueOrClose, frames, t => begin frames t
  | .key entries true, frames, .closeBrace => some ⟨frames, .separator (.object entries)⟩
  | .key entries _, frames, .string (some k) => some ⟨frames, .colon entries k⟩
  | .key _ _, _, _ => none
  | .colon entries k, frames, .colon => some ⟨.object entries k :: frames, .value⟩
  | .colon _ _, _, _ => none
  | .separator v, .array items :: frames, .comma => some ⟨.array (v :: items) :: frames, .value⟩
  | .separator v, .array items :: frames, .closeBracket =>
    some ⟨frames, .separator (.array (v :: items).reverse)⟩
  | .separator v, .object entries k :: frames, .comma => some ⟨frames, .key (Assoc.put k v entries) false⟩
  | .separator v, .object entries k :: frames, .closeBrace =>
    some ⟨frames, .separator (.object (Assoc.put k v entries))⟩
  | .separator _, _, _ => none

/-- Take tokens one after the other. -/
def run (m : Machine) : List Token → Option Machine
  | [] => some m
  | t :: ts => (m.step t).bind fun m => m.run ts

/-- The finished value, when nothing is open. -/
def result? : Machine → Option Json
  | ⟨[], .separator v⟩ => some v
  | _ => none

end Machine

/-- The value that a whole sequence of tokens denotes. -/
def ofTokens? (tokens : List Token) : Option Json :=
  (Machine.run ⟨[], .value⟩ tokens).bind Machine.result?

/-- Read a text as one JSON value. -/
def parse? (text : String) : Option Json := ofTokens? (Token.ofText text)

end Gatehouse.Json
