/-!
# Ordered tables

A table is a list of keys with values, in the order in which the keys came. `Assoc.put` writes an
entry: a key that is present keeps its place and takes the new value, any other goes to the end.
There are two ways to take an entry out: `Assoc.erase` closes the gap, and `Assoc.swapErase` moves the
**last** entry into it.
-/

namespace Gatehouse.Assoc

variable {α : Type}

/-- The value under a key. -/
def get? (key : String) : List (String × α) → Option α
  | [] => none
  | (k, v) :: rest => if k = key then some v else get? key rest

/-- Whether a key is present. -/
def hasKey (key : String) (entries : List (String × α)) : Bool := (get? key entries).isSome

/-- Write an entry: in place if the key is present, at the end otherwise. -/
def put (key : String) (value : α) : List (String × α) → List (String × α)
  | [] => [(key, value)]
  | (k, v) :: rest => if k = key then (k, value) :: rest else (k, v) :: put key value rest

/-- Take the entries of a key out. -/
def erase (key : String) (entries : List (String × α)) : List (String × α) :=
  entries.filter fun e => e.1 ≠ key

/-- Put the last element of a list at its head. -/
def rotateLast {β : Type} (xs : List β) : List β :=
  match xs.getLast? with
  | none => []
  | some x => x :: xs.dropLast

/-- Take an entry out; the last entry takes its place. -/
def swapErase (key : String) : List (String × α) → List (String × α)
  | [] => []
  | (k, v) :: rest => if k = key then rotateLast rest else (k, v) :: swapErase key rest

end Gatehouse.Assoc
