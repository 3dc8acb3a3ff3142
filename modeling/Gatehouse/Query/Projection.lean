import Gatehouse.Filter.Reader
import Gatehouse.Text.Decimal

/-!
# Projections

A projection flags dotted paths. With any flag other than zero it **includes**: the result holds what
is found at the flagged paths, and the id unless that is flagged zero. With zeros alone it **excludes**:
the result is the document without what is found at the paths. Values that are no objects stay as they
are.
-/

namespace Gatehouse

/-- Paths and their flags, in order. -/
abbrev Projection := List (String × Int)

/-- The key that an inclusion keeps by itself. -/
def Projection.idKey : String := "id"

namespace Json

/-- Write a value at a path, making objects on the way. A value on the way that is no object blocks
it. -/
def setPath (value : Json) : List String → Entries → Entries
  | [], entries => entries
  | [key], entries => Assoc.put key value entries
  | key :: path, entries =>
    match Assoc.get? key entries with
    | none => Assoc.put key (.object (setPath value path [])) entries
    | some (.object child) => Assoc.put key (.object (setPath value path child)) entries
    | some _ => entries

/-- Take out what is found at a path. -/
def removePath : List String → Entries → Entries
  | [], entries => entries
  | [key], entries => Assoc.swapErase key entries
  | key :: path, entries =>
    match Assoc.get? key entries with
    | some (.object child) => Assoc.put key (.object (removePath path child)) entries
    | _ => entries

end Json

namespace Projection

/-- Some flag is not zero. -/
def includes (p : Projection) : Bool := p.any fun e => e.2 != 0

/-- The id is flagged zero. -/
def dropsId (p : Projection) : Bool := p.any fun e => e.1 == idKey && e.2 == 0

/-- Copy what a document holds at a path. -/
def copyPath (source : Json.Entries) (out : Json.Entries) (path : String) : Json.Entries :=
  match Json.lookup path (.object source) with
  | some v => Json.setPath v (Json.segments path) out
  | none => out

/-- The entries that an inclusion starts from. -/
def start (p : Projection) (source : Json.Entries) : Json.Entries :=
  if p.dropsId then []
  else match Assoc.get? idKey source with
    | some id => [(idKey, id)]
    | none => []

/-- The entries of an object that a projection leaves. -/
def entries (p : Projection) (source : Json.Entries) : Json.Entries :=
  if p.includes then
    ((p.filter fun e => e.2 != 0).map (·.1)).foldl (copyPath source) (p.start source)
  else (p.map (·.1)).foldl (fun out path => Json.removePath (Json.segments path) out) source

/-- Project a document. -/
def apply (p : Projection) : Json → Json
  | .object source => .object (p.entries source)
  | v => v

/-- A flag: an integer, or the text of one. -/
def flag? : Json → Option Int
  | .number (.int n) => if n < 0x8000000000000000 then some n else none
  | .string s => Text.integer? s
  | _ => none

/-- Read the text of a fields parameter. -/
def read (text : String) : Except QueryFault Projection := do
  let entries ← readObject "fields" text
  entries.mapM fun (path, v) =>
    match flag? v with
    | some n => .ok (path, n)
    | none => .error (.badProjection path)

end Projection

end Gatehouse
