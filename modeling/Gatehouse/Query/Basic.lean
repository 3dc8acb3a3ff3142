import Gatehouse.Filter.Match
import Gatehouse.Query.Projection
import Gatehouse.Query.Sort

/-!
# Queries

A query is read from five optional texts. Filter, fields and sort are JSON objects, read in this order,
and the first fault refuses the query; limit and skip are numbers, and are dropped where they are none.

`Query.apply` answers a query over documents: filter, sort, skip, limit, project. A limit of zero is no
limit.
-/

namespace Gatehouse

/-- The parameters of a query as they were sent. -/
structure QueryText where
  filter : Option String := none
  sort : Option String := none
  fields : Option String := none
  limit : Option String := none
  skip : Option String := none
  deriving DecidableEq, Repr

/-- A query that has been read. -/
structure Query where
  filter : Option Filter.Expression := none
  sort : Option SortOrder := none
  projection : Option Projection := none
  limit : Option Nat := none
  skip : Option Nat := none
  deriving DecidableEq, Repr

namespace QueryText

/-- A parameter counts as sent if it is not blank. -/
def present (parameter : Option String) : Option String :=
  parameter.filter fun s => !Text.isBlankText s

/-- Read a parameter that is present. -/
def readPresent {α : Type} (read : String → Except QueryFault α) (parameter : Option String) :
    Except QueryFault (Option α) :=
  match present parameter with
  | some text => (read text).map some
  | none => .ok none

/-- Read a query. -/
def read (t : QueryText) : Except QueryFault Query := do
  let filter ← readPresent Filter.read t.filter
  let projection ← readPresent Projection.read t.fields
  let sort ← readPresent SortOrder.read t.sort
  return { filter, sort, projection, limit := t.limit.bind Text.count?, skip := t.skip.bind Text.count? }

/-- A parameter in JSON: a text or null. -/
def ofJsonText? : Option Json → Option (Option String)
  | none | some .null => some none
  | some (.string s) => some (some s)
  | some _ => none

/-- The parameters in JSON: an object, in which `select` may stand for `fields`, or an array of exactly
the five values. -/
def ofJson? : Json → Option QueryText
  | .object entries => do
    let text (key : String) := ofJsonText? (Assoc.get? key entries)
    if Assoc.hasKey "fields" entries && Assoc.hasKey "select" entries then none
    else
      let fields ← if Assoc.hasKey "select" entries then text "select" else text "fields"
      return { filter := ← text "filter", sort := ← text "sort", fields,
               limit := ← text "limit", skip := ← text "skip" }
  | .array [filter, sort, fields, limit, skip] => do
    return { filter := ← ofJsonText? filter, sort := ← ofJsonText? sort,
             fields := ← ofJsonText? fields, limit := ← ofJsonText? limit,
             skip := ← ofJsonText? skip }
  | _ => none

end QueryText

namespace Query

/-- The predicate of a query: its filter's, or the one that every document satisfies. -/
def predicate (q : Query) : Predicate := q.filter.elim .all Filter.Expression.compile

/-- The documents of a page. -/
def page (skip limit : Option Nat) (docs : List Json) : List Json :=
  let rest := docs.drop (skip.getD 0)
  match limit with
  | some (n + 1) => rest.take (n + 1)
  | _ => rest

/-- The documents that satisfy the filter, in the order of the sort keys. -/
def select (q : Query) (docs : List Json) : List Json :=
  let matching := docs.filter fun d => q.predicate.holds d
  match q.sort with
  | some keys => keys.sort matching
  | none => matching

/-- The answer to a query over documents. -/
def apply (q : Query) (docs : List Json) : List Json :=
  let docs := page q.skip q.limit (q.select docs)
  match q.projection with
  | some p => docs.map p.apply
  | none => docs

end Query

end Gatehouse
