import Gatehouse.Proofs.Filter.Meaning
import Gatehouse.Proofs.Query.Paging
import Gatehouse.Proofs.Server.Services

/-!
# Listings answer the whole query

A listing answers a query in one of two ways. Where the query neither filters nor sorts, the store cuts the
window and what is left of the query only projects (`Query.apply_projection`); otherwise the accounts are read
from the first on, up to the server's limit, and the query is answered over them. While there are no more
accounts than that limit, both give what the query answers over all of them, and with any number of accounts no
answer is longer than the limits (`Server.listUsers_answers_query`).
-/

namespace Gatehouse

/-- All accounts as others see them, oldest first. -/
def Directory.documents (d : Directory) : List Json := d.users.map (·.user.toJson)

namespace Query

/-! ### Selections -/

/-- A query that neither filters nor sorts selects all documents. -/
theorem select_of_isWindow {q : Query} (h : q.isWindow = true) (docs : List Json) : q.select docs = docs := by
  obtain ⟨hfilter, hsort⟩ := Bool.and_eq_true_iff.mp h
  rw [select, predicate, Option.isNone_iff_eq_none.mp hfilter, Option.isNone_iff_eq_none.mp hsort]
  exact List.filter_eq_self.mpr fun d _ => Predicate.holds_all d

/-- What is left of a query whose window the store has cut. -/
theorem apply_projection (projection : Option Projection) (docs : List Json) :
    apply { projection } docs = projected projection docs := by
  rw [apply_eq, select_of_isWindow rfl]
  rfl

end Query

namespace Directory

/-! ### Windows -/

/-- The store cuts the window of a query: what its skip leaves, up to its limit and that of the server. -/
theorem documents_list_window (d : Directory) (q : Query) (scanLimit : Nat) :
    (d.list (q.window scanLimit)).map User.toJson =
      (Query.limited q.limit (d.documents.drop (q.skip.getD 0))).take scanLimit := by
  have hdocuments : (d.list (q.window scanLimit)).map User.toJson =
      (d.documents.drop (q.window scanLimit).offset).take (q.window scanLimit).limit := by
    rw [list, documents, List.map_map, List.map_take, List.map_drop]
    rfl
  rw [hdocuments, Query.window]
  rcases q.limit with _ | _ | n
  · rfl
  · rfl
  · exact (List.take_take.trans (by rw [Nat.min_comm])).symm

/-- The accounts that are read from the first on. -/
theorem documents_list_first (d : Directory) (scanLimit : Nat) :
    (d.list ⟨0, scanLimit⟩).map User.toJson = d.documents.take scanLimit := by
  rw [list, documents, List.map_map, List.map_take, List.drop_zero]
  rfl

end Directory

namespace Server

/-- **A listing answers the whole query.** While there are no more accounts than the server's limit, it answers
what the query answers over all of them, oldest first; and with any number of accounts, its answer is no longer
than that limit, and than the limit of the query if that is positive. -/
theorem listUsers_answers_query (tokens : TokenConfig) (scanLimit hashCost : Nat) (before : Memory)
    {t : QueryText} {q : Query} (hread : t.read = .ok q) :
    ∃ docs, (inMemory tokens scanLimit hashCost).listUsers t before = (.ok docs, before) ∧
      (before.users.users.length ≤ scanLimit → docs = q.apply before.users.documents) ∧
      docs.length ≤ scanLimit ∧ ∀ n ∈ q.limit, 0 < n → docs.length ≤ n := by
  have hlength : before.users.documents.length = before.users.users.length := List.length_map _
  have htake {docs : List Json} (h : docs.length ≤ before.users.documents.length)
      (hsize : before.users.users.length ≤ scanLimit) : docs.take scanLimit = docs :=
    List.take_of_length_le (by omega)
  rw [listUsers_eq, hread]
  dsimp only
  by_cases hwindow : q.isWindow = true
  · -- the store has cut the window already, and the limit of the server with it
    rw [if_pos hwindow, Query.apply_projection, Directory.documents_list_window]
    generalize hrest : before.users.documents.drop (q.skip.getD 0) = rest
    obtain ⟨hle, hlimit⟩ := Query.length_limited_le q.limit rest
    have hrest_le : rest.length ≤ before.users.documents.length := by
      rw [← hrest, List.length_drop]
      omega
    refine ⟨_, rfl, ?_, ?_, ?_⟩
    · intro hsize
      rw [htake (by omega) hsize, Query.apply_eq, Query.select_of_isWindow hwindow, Query.page_eq, hrest]
    · rw [Query.length_projected]
      exact List.length_take_le _ _
    · intro n hn hpos
      have hlimit := hlimit n hn hpos
      rw [Query.length_projected, List.length_take]
      omega
  · -- the whole query is answered over the accounts that were read
    rw [if_neg hwindow, Directory.documents_list_first]
    obtain ⟨hle, hlimit⟩ := q.length_apply_le (before.users.documents.take scanLimit)
    rw [List.length_take] at hle
    refine ⟨_, rfl, ?_, by omega, hlimit⟩
    intro hsize
    rw [htake (Nat.le_refl _) hsize]

/-- Two accounts, created at some times. -/
def sampleAccounts (first second : Instant) : Memory where
  users :=
    ⟨[⟨⟨"u1", "ada", "Ada", some "ada@x", adminRole, first, first⟩, "h"⟩,
      ⟨⟨"u2", "bob", "Bob", none, userRole, second, second⟩, "h"⟩]⟩

/-- The usernames on the second page of one account each. -/
def sampleQuery : QueryText where
  fields := some "\x7b\"username\":1\x7d"
  limit := some "1"
  skip := some "1"

/-- The sample query asks for a window, which is answered as the query over both accounts. -/
theorem sample_listing_answers_query :
    ∃ (q : Query) (docs : List Json), sampleQuery.read = .ok q ∧ q.isWindow = true ∧
      (inMemory sampleConfig 10 4).listUsers sampleQuery (sampleAccounts ⟨0, 0⟩ ⟨1, 0⟩) =
        (.ok docs, sampleAccounts ⟨0, 0⟩ ⟨1, 0⟩) ∧
      docs = q.apply (sampleAccounts ⟨0, 0⟩ ⟨1, 0⟩).users.documents ∧ docs.length ≤ 1 := by
  have hread : sampleQuery.read =
      .ok { projection := some [("username", 1)], limit := some 1, skip := some 1 } := by decide +kernel
  obtain ⟨docs, hdocs, happly, -, hlimit⟩ :=
    listUsers_answers_query sampleConfig 10 4 (sampleAccounts ⟨0, 0⟩ ⟨1, 0⟩) hread
  exact ⟨_, docs, hread, rfl, hdocs, happly (by decide), hlimit 1 rfl (by decide)⟩

end Server

end Gatehouse
