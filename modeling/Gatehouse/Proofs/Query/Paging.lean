import Gatehouse.Query.Basic

/-!
# Reading an answer page by page

The window of a query cuts its answer and nothing else: whatever the filter, the sort keys and the projection are, a
query with a skip and a limit answers with that window of what it answers without (`Query.apply_paged`). So a client can
read the answer in pages of one size, with one query for each page and one more page to skip each time, until a page is
empty (`Query.ReadsPages`). It comes to an end, and what it has read is the answer, in full pages but for the last one
(`Query.pages_are_answer`).
-/

namespace Gatehouse

namespace Query

/-! ### Pages and projections -/

/-- The first of some documents: as many as a limit says, where there is one. -/
def limited (limit : Option Nat) (docs : List Json) : List Json :=
  match limit with
  | some (n + 1) => docs.take (n + 1)
  | _ => docs

theorem page_eq (skip limit : Option Nat) (docs : List Json) :
    page skip limit docs = limited limit (docs.drop (skip.getD 0)) := by
  rcases limit with _ | _ | _ <;> rfl

theorem length_limited_le (limit : Option Nat) (docs : List Json) :
    (limited limit docs).length ≤ docs.length ∧
      ∀ n ∈ limit, 0 < n → (limited limit docs).length ≤ n := by
  rcases limit with _ | _ | n
  · exact ⟨Nat.le_refl _, fun n hn => absurd hn nofun⟩
  · refine ⟨Nat.le_refl _, ?_⟩
    intro n hn hpos
    obtain rfl := Option.mem_some_iff.mp hn
    exact absurd hpos (Nat.lt_irrefl 0)
  · refine ⟨List.length_take_le' (n + 1) docs, ?_⟩
    intro m hm _
    obtain rfl := Option.mem_some_iff.mp hm
    exact List.length_take_le (n + 1) docs

/-- The last step of every query. -/
def projected (projection : Option Projection) (docs : List Json) : List Json :=
  match projection with
  | some p => docs.map p.apply
  | none => docs

theorem apply_eq (q : Query) (docs : List Json) :
    q.apply docs = projected q.projection (page q.skip q.limit (q.select docs)) := rfl

theorem length_projected (projection : Option Projection) (docs : List Json) :
    (projected projection docs).length = docs.length := by
  cases projection with
  | none => rfl
  | some p => exact List.length_map _

theorem length_select_le (q : Query) (docs : List Json) : (q.select docs).length ≤ docs.length := by
  have hfilter := List.length_filter_le (fun d => q.predicate.holds d) docs
  rw [select]
  cases q.sort with
  | none => exact hfilter
  | some keys =>
    dsimp only
    rw [SortOrder.sort, List.length_mergeSort]
    exact hfilter

/-- An answer is no longer than what the query is answered over, and than its own limit. -/
theorem length_apply_le (q : Query) (docs : List Json) :
    (q.apply docs).length ≤ docs.length ∧ ∀ n ∈ q.limit, 0 < n → (q.apply docs).length ≤ n := by
  have hselect := q.length_select_le docs
  rw [apply_eq, length_projected, page_eq]
  obtain ⟨hle, hlimit⟩ := length_limited_le q.limit ((q.select docs).drop (q.skip.getD 0))
  rw [List.length_drop] at hle
  exact ⟨by omega, hlimit⟩

/-! ### Queries for one page -/

/-- The query for one page of an answer. -/
def paged (q : Query) (skip size : Nat) : Query := { q with skip := some skip, limit := some size }

/-- The query without a window. -/
def whole (q : Query) : Query := { q with skip := none, limit := none }

/-- **The window of a query cuts its answer.** -/
theorem apply_paged (q : Query) (skip limit : Nat) (docs : List Json) :
    (q.paged skip limit).apply docs = limited (some limit) ((q.whole.apply docs).drop skip) := by
  have hselect : (q.paged skip limit).select docs = q.whole.select docs := rfl
  rw [apply_eq, apply_eq, page_eq, hselect]
  change projected q.projection (limited (some limit) ((q.whole.select docs).drop skip)) =
    limited (some limit) ((projected q.projection (q.whole.select docs)).drop skip)
  generalize q.whole.select docs = selected
  cases q.projection with
  | none => rfl
  | some p =>
    cases limit with
    | zero => exact List.map_drop
    | succ n =>
      simp only [projected, limited, List.map_take, List.map_drop]

/-- A page with a size holds the first documents from its place in the answer on. -/
theorem apply_paged_of_pos (q : Query) (skip : Nat) {size : Nat} (hsize : 0 < size) (docs : List Json) :
    (q.paged skip size).apply docs = ((q.whole.apply docs).drop skip).take size := by
  obtain ⟨n, rfl⟩ := Nat.exists_eq_add_one_of_ne_zero (Nat.ne_of_gt hsize)
  rw [apply_paged]
  rfl

/-! ### Reading pages until one is empty -/

/-- The pages of one size that a client reads, from a place in the answer on until a page is empty. -/
inductive ReadsPages (q : Query) (size : Nat) (docs : List Json) : Nat → List (List Json) → Prop where
  | stop {skip : Nat} (hempty : (q.paged skip size).apply docs = []) : ReadsPages q size docs skip []
  | next {skip : Nat} {rest : List (List Json)} (hfilled : (q.paged skip size).apply docs ≠ [])
      (hrest : ReadsPages q size docs (skip + size) rest) :
      ReadsPages q size docs skip ((q.paged skip size).apply docs :: rest)

namespace ReadsPages

variable {q : Query} {size skip : Nat} {docs : List Json} {pages : List (List Json)}

/-- What a client reads is determined. -/
theorem unique {pages' : List (List Json)} (h : q.ReadsPages size docs skip pages)
    (h' : q.ReadsPages size docs skip pages') : pages = pages' := by
  induction h generalizing pages' with
  | stop hempty =>
    cases h' with
    | stop => rfl
    | next hfilled _ => exact absurd hempty hfilled
  | next hfilled _ ih =>
    cases h' with
    | stop hempty => exact absurd hempty hfilled
    | next _ hrest => rw [ih hrest]

/-- Pages of a positive size come to an end, as each leaves less of the answer. -/
theorem exists_pages (q : Query) (docs : List Json) (hsize : 0 < size) (skip : Nat) :
    ∃ pages, q.ReadsPages size docs skip pages := by
  induction hleft : (q.whole.apply docs).length - skip using Nat.strongRecOn generalizing skip with
  | _ left ih =>
    by_cases hempty : (q.paged skip size).apply docs = []
    · exact ⟨[], .stop hempty⟩
    · have hskip : skip < (q.whole.apply docs).length := by
        rw [apply_paged_of_pos q skip hsize, List.take_eq_nil_iff, List.drop_eq_nil_iff] at hempty
        omega
      obtain ⟨rest, hrest⟩ := ih _ (by omega) (skip + size) rfl
      exact ⟨_, .next hempty hrest⟩

/-- Together the pages are what the answer holds from their place on. -/
theorem flatten_eq (hsize : 0 < size) (h : q.ReadsPages size docs skip pages) :
    pages.flatten = (q.whole.apply docs).drop skip := by
  induction h with
  | stop hempty =>
    rw [apply_paged_of_pos q _ hsize, List.take_eq_nil_iff] at hempty
    rcases hempty with hzero | hempty
    · omega
    · rw [hempty, List.flatten_nil]
  | next _ _ ih =>
    rw [List.flatten_cons, ih, apply_paged_of_pos q _ hsize, ← List.drop_drop, List.take_append_drop]

theorem ne_nil_of_mem (h : q.ReadsPages size docs skip pages) : ∀ page ∈ pages, page ≠ [] := by
  induction h with
  | stop => simp
  | next hfilled _ ih =>
    intro page hpage
    rcases List.mem_cons.mp hpage with rfl | hpage
    · exact hfilled
    · exact ih page hpage

theorem length_le_of_mem (hsize : 0 < size) (h : q.ReadsPages size docs skip pages) :
    ∀ page ∈ pages, page.length ≤ size := by
  induction h with
  | stop => simp
  | next _ _ ih =>
    intro page hpage
    rcases List.mem_cons.mp hpage with rfl | hpage
    · rw [apply_paged_of_pos q _ hsize]
      exact List.length_take_le size _
    · exact ih page hpage

/-- A page that is followed by another is full. -/
theorem length_eq_of_mem_dropLast (hsize : 0 < size) (h : q.ReadsPages size docs skip pages) :
    ∀ page ∈ pages.dropLast, page.length = size := by
  induction h with
  | stop => simp
  | next _ hrest ih =>
    intro page hpage
    cases hrest with
    | stop => simp at hpage
    | next hfilled _ =>
      rw [List.dropLast_cons_cons] at hpage
      rcases List.mem_cons.mp hpage with rfl | hpage
      · -- the page behind it is not empty, so this one was not cut short
        rw [apply_paged_of_pos q _ hsize] at hfilled ⊢
        have hnext := List.length_pos_iff.mpr hfilled
        rw [List.length_take, List.length_drop] at hnext ⊢
        omega
      · exact ih page hpage

/-- The last page that is asked for, the empty one, starts less than a page behind the end of the answer. -/
theorem length_mul_le (hsize : 0 < size) (h : q.ReadsPages size docs skip pages) :
    pages.length * size ≤ (q.whole.apply docs).length - skip + (size - 1) := by
  induction h with
  | stop => simp
  | @next skip rest hfilled hrest ih =>
    rw [apply_paged_of_pos q skip hsize] at hfilled
    have hpage := List.length_pos_iff.mpr hfilled
    rw [List.length_take, List.length_drop] at hpage
    rw [List.length_cons, Nat.succ_mul]
    cases hrest with
    | stop =>
      rw [List.length_nil]
      omega
    | next hmore _ =>
      rw [apply_paged_of_pos q _ hsize] at hmore
      have hpage' := List.length_pos_iff.mpr hmore
      rw [List.length_take, List.length_drop] at hpage'
      omega

end ReadsPages

/-- The whole answer has no more documents than were given. -/
theorem length_whole_le (q : Query) (docs : List Json) : (q.whole.apply docs).length ≤ docs.length :=
  (q.whole.length_apply_le docs).1

/-- A client that reads pages of a size in 64 bits never skips a number of documents that is not. -/
theorem ReadsPages.skip_lt {q : Query} {size : Nat} {docs : List Json} {pages : List (List Json)} (hsize : 0 < size)
    (h : q.ReadsPages size docs 0 pages) (hword : size < UInt64.size) (hdocs : 2 * docs.length ≤ UInt64.size) :
    ∀ k ≤ pages.length, k * size < UInt64.size := by
  intro k hk
  have hle := Nat.le_trans (Nat.mul_le_mul_right size hk) (h.length_mul_le hsize)
  have hwhole := q.length_whole_le docs
  by_cases hlarge : docs.length < size
  · -- one page holds all documents
    have hlt : k * size < 2 * size := by omega
    have hk' : k < 2 := Nat.lt_of_mul_lt_mul_right hlt
    have hone : k * size ≤ 1 * size := Nat.mul_le_mul_right size (by omega)
    omega
  · omega

/-- **Reading page by page reads the whole answer.** Whatever a query filters, sorts and projects, its window cuts its
answer, where a limit of zero is none. So a client that asks for pages of a positive size until one is empty reads
the answer of the query without a window: the pages are determined, one behind the other they are that answer, none
is empty, and all but the last are full. The numbers of documents that it skips fit 64 bits if the size does. -/
theorem pages_are_answer (q : Query) (docs : List Json) {size : Nat} (hsize : 0 < size) :
    (∀ skip limit, (q.paged skip limit).apply docs = limited (some limit) ((q.whole.apply docs).drop skip)) ∧
    ∃ pages, (∀ read, q.ReadsPages size docs 0 read ↔ read = pages) ∧
      pages.flatten = q.whole.apply docs ∧
      (∀ page ∈ pages, page ≠ [] ∧ page.length ≤ size) ∧
      (∀ page ∈ pages.dropLast, page.length = size) ∧
      (size < UInt64.size → 2 * docs.length ≤ UInt64.size → ∀ k ≤ pages.length, k * size < UInt64.size) := by
  refine ⟨fun skip limit => q.apply_paged skip limit docs, ?_⟩
  obtain ⟨pages, hpages⟩ := ReadsPages.exists_pages q docs hsize 0
  refine ⟨pages, ?_, ?_, ?_, hpages.length_eq_of_mem_dropLast hsize, hpages.skip_lt hsize⟩
  · intro read
    constructor
    · intro hread
      exact hread.unique hpages
    · rintro rfl
      exact hpages
  · rw [hpages.flatten_eq hsize, List.drop_zero]
  · intro page hpage
    exact ⟨hpages.ne_nil_of_mem page hpage, hpages.length_le_of_mem hsize page hpage⟩

/-- The names of everyone but Bob, youngest first. -/
def sampleRoll : Query where
  filter := some { fields := [⟨"name", .operators [.ne (.string "Bob")]⟩] }
  sort := some [⟨"age", .ascending⟩]
  projection := some [("name", 1)]

/-- Some people, not in the order of their ages. -/
def samplePeople : List Json :=
  [.object [("name", .string "Ann"), ("age", .ofInt 64)], .object [("name", .string "Bob"), ("age", .ofInt 30)],
    .object [("name", .string "Cid"), ("age", .ofInt 17)], .object [("name", .string "Dee"), ("age", .ofInt 30)]]

/-- The roll is read in pages of two. -/
theorem sample_pages_are_answer :
    0 < 2 ∧ ∃ pages, sampleRoll.ReadsPages 2 samplePeople 0 pages ∧
      pages.flatten = sampleRoll.whole.apply samplePeople ∧ ∀ page ∈ pages.dropLast, page.length = 2 := by
  have hsize : 0 < 2 := by decide
  obtain ⟨-, pages, hpages, hflatten, -, hfull, -⟩ := pages_are_answer sampleRoll samplePeople hsize
  exact ⟨hsize, pages, (hpages pages).mpr rfl, hflatten, hfull⟩

end Query

end Gatehouse
