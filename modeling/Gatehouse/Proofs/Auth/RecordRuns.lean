import Mathlib.Data.List.Induction
import Gatehouse.Proofs.Auth.Record

/-!
# Records over time

Operations on the token records in memory, one after the other, starting from no records. What a single one can do
to the record of a subject is said once (`Records.Effect`): it makes one, writes to the one that is there, deletes
it, or leaves it alone. So whatever is asked, and in whatever order, a record that is found has a `Records.Story`:

* an upsert made it, at a time when its subject had none, and it has not been deleted since;
* from its maker it has its id and the time of its creation, and each write since is one version;
* its sealed token is that of the last upsert, and its expiry that of the last write.

`Records.story_run` says that every run keeps this, and `Records.records_have_stories` what follows for the answers.
-/

namespace Gatehouse.Records

/-! ### One operation -/

/-- What may be asked of the records. -/
inductive Operation where
  | upsert (subject : String) (token : Sealed) (expiresAt : Instant) (id : String)
  | extend (subject : String) (expected : Int) (expiresAt : Instant)
  | delete (subject : String)
  deriving DecidableEq, Repr

namespace Operation

/-- The subject that an operation names. -/
def subject : Operation → String
  | upsert subject _ _ _ => subject
  | extend subject _ _ => subject
  | delete subject => subject

/-- The id that is drawn for a new record. -/
def newId? : Operation → Option String
  | upsert _ _ _ id => some id
  | _ => none

/-- It is an upsert for a subject. -/
def Upserts (s : String) (op : Operation) : Prop := ∃ token expiresAt id, op = upsert s token expiresAt id

end Operation

/-- What an operation answers. -/
inductive Reply where
  | written (r : TokenRecord)
  | extended (r : Option TokenRecord)
  | deleted (done : Bool)
  deriving DecidableEq, Repr

/-- An operation, and when it is done. -/
structure Step where
  now : Instant
  op : Operation
  deriving DecidableEq, Repr

/-- Do what is asked. -/
def perform (store : RecordStore) (q : Step) : Reply × RecordStore :=
  match q.op with
  | .upsert subject token expiresAt id =>
    let (r, store) := store.upsert subject token expiresAt q.now id
    (.written r, store)
  | .extend subject expected expiresAt =>
    let (r, store) := store.extend subject expected expiresAt q.now
    (.extended r, store)
  | .delete subject =>
    let (done, store) := store.delete subject
    (.deleted done, store)

/-- A write to a record: its time, the expiry, and the sealed token if it puts a new one in place. -/
structure Write where
  now : Instant
  expiresAt : Instant
  token : Option Sealed
  deriving DecidableEq, Repr

/-- A record after a write. -/
def Write.apply (w : Write) (r : TokenRecord) : TokenRecord :=
  { r with
    token := w.token.getD r.token, expiresAt := w.expiresAt, version := r.version + 1, updatedAt := w.now }

/-- The write to the record of a subject, read off the answer: an extension that is not granted is none. -/
def Step.write? (s : String) (q : Step) (reply : Reply) : Option Write :=
  match q.op, reply with
  | .upsert subject token expiresAt _, _ =>
    if subject = s then some ⟨q.now, expiresAt, some token⟩ else none
  | .extend subject _ expiresAt, .extended (some _) =>
    if subject = s then some ⟨q.now, expiresAt, none⟩ else none
  | _, _ => none

/-- What an operation can do to the record of a subject. -/
inductive Effect (s : String) (q : Step) (reply : Reply) : Option TokenRecord → Option TokenRecord → Prop where
  | created {token : Sealed} {expiresAt : Instant} {id : String} (op : q.op = .upsert s token expiresAt id) :
    Effect s q reply none (some ⟨id, s, token, expiresAt, 1, q.now, q.now⟩)
  | written {w : Write} {r : TokenRecord} (write : q.write? s reply = some w) (kept : q.op ≠ .delete s) :
    Effect s q reply (some r) (some (w.apply r))
  | deleted {found : Option TokenRecord} (op : q.op = .delete s) : Effect s q reply found none
  | other {found : Option TokenRecord} (silent : q.write? s reply = none) (kept : q.op ≠ .delete s) :
    Effect s q reply found found

/-- What an operation does to the record of a subject is one of these. -/
theorem perform_effect (store : RecordStore) (q : Step) (s : String) :
    Effect s q (perform store q).1 (store.find s) ((perform store q).2.find s) := by
  obtain ⟨now, op⟩ := q
  cases op with
  | upsert subject token expiresAt id =>
    dsimp only [perform]
    rw [RecordStore.find_upsert]
    by_cases hs : s = subject
    · subst hs
      rw [if_pos rfl]
      cases store.find s with
      | none => exact .created rfl
      | some r => exact .written (w := ⟨now, expiresAt, some token⟩) (if_pos rfl) nofun
    · rw [if_neg hs]
      exact .other (if_neg (Ne.symm hs)) nofun
  | extend subject expected expiresAt =>
    rw [perform]
    dsimp only
    cases hextend : store.extend subject expected expiresAt now with
    | mk reply after =>
      cases reply with
      | none =>
        obtain rfl := RecordStore.of_extend_eq_none hextend
        exact .other rfl nofun
      | some r' =>
        obtain ⟨r, hfound, -, rfl, rfl⟩ := RecordStore.of_extend_eq_some hextend
        dsimp only
        rw [RecordStore.find_write]
        by_cases hs : s = subject
        · subst hs
          rw [if_pos rfl, hfound]
          exact .written (w := ⟨now, expiresAt, none⟩) (if_pos rfl) nofun
        · rw [if_neg hs]
          exact .other (if_neg (Ne.symm hs)) nofun
  | delete subject =>
    dsimp only [perform]
    rw [RecordStore.find_delete]
    by_cases hs : s = subject
    · subst hs
      rw [if_pos rfl]
      exact .deleted rfl
    · rw [if_neg hs]
      refine .other rfl ?_
      rintro hop
      exact hs (Operation.delete.inj hop).symm

/-! ### One operation after the other -/

/-- The records after some operations. -/
def run (store : RecordStore) (steps : List Step) : RecordStore :=
  steps.foldl (fun store q => (perform store q).2) store

/-- The writes to the record of a subject, in their order. -/
def writes (s : String) (store : RecordStore) : List Step → List Write
  | [] => []
  | q :: steps => (q.write? s (perform store q).1).toList ++ writes s (perform store q).2 steps

theorem run_append (store : RecordStore) (steps more : List Step) :
    run store (steps ++ more) = run (run store steps) more := List.foldl_append

theorem run_concat (store : RecordStore) (steps : List Step) (q : Step) :
    run store (steps ++ [q]) = (perform (run store steps) q).2 := run_append store steps [q]

theorem writes_concat (s : String) (store : RecordStore) (steps : List Step) (q : Step) :
    writes s store (steps ++ [q]) =
      writes s store steps ++ (q.write? s (perform (run store steps) q).1).toList := by
  induction steps generalizing store with
  | nil => exact List.append_nil _
  | cons first steps ih =>
    rw [List.cons_append, writes, ih, writes, List.append_assoc]
    rfl

/-- How a record came to be what it is: `creation` made it, and `later` it was only written to. -/
structure Story (s : String) (earlier : List Step) (creation : Step) (later : List Step) (r : TokenRecord) :
    Prop where
  /-- There was no record before. -/
  vacant : (run {} earlier).find s = none
  made : ∃ token expiresAt, creation.op = .upsert s token expiresAt r.id
  kept : ∀ q ∈ later, q.op ≠ .delete s
  subject : r.subject = s
  createdAt : r.createdAt = creation.now
  /-- Each write since is one version. -/
  version : r.version = 1 + (writes s (run {} (earlier ++ [creation])) later).length
  /-- The sealed token is that of the last upsert. -/
  token : ((writes s (run {} earlier) (creation :: later)).filterMap Write.token).getLast? = some r.token
  /-- The expiry is that of the last write. -/
  expiresAt : (writes s (run {} earlier) (creation :: later)).getLast?.map Write.expiresAt = some r.expiresAt
  updatedAt : (writes s (run {} earlier) (creation :: later)).getLast?.map Write.now = some r.updatedAt

variable {s : String} {earlier later steps : List Step} {creation q : Step} {r : TokenRecord}

namespace Story

/-- A record that was just made. -/
theorem created {token : Sealed} {expiresAt : Instant} {id : String}
    (hvacant : (run {} earlier).find s = none) (hop : creation.op = .upsert s token expiresAt id) :
    Story s earlier creation [] ⟨id, s, token, expiresAt, 1, creation.now, creation.now⟩ := by
  have hwrites : writes s (run {} earlier) [creation] = [⟨creation.now, expiresAt, some token⟩] := by
    simp [writes, Step.write?, hop]
  exact {
    vacant := hvacant
    made := ⟨token, expiresAt, hop⟩
    kept := fun _ h => absurd h List.not_mem_nil
    subject := rfl
    createdAt := rfl
    version := rfl
    token := by rw [hwrites]; rfl
    expiresAt := by rw [hwrites]; rfl
    updatedAt := by rw [hwrites]; rfl }

/-- The writes of one more operation come after those before it. -/
theorem writes_later (s : String) (earlier : List Step) (creation : Step) (later : List Step) (q : Step) :
    writes s (run {} (earlier ++ [creation])) (later ++ [q]) =
        writes s (run {} (earlier ++ [creation])) later ++
          (q.write? s (perform (run {} (earlier ++ creation :: later)) q).1).toList ∧
      writes s (run {} earlier) (creation :: (later ++ [q])) =
        writes s (run {} earlier) (creation :: later) ++
          (q.write? s (perform (run {} (earlier ++ creation :: later)) q).1).toList := by
  have hrun : run (run {} (earlier ++ [creation])) later = run {} (earlier ++ creation :: later) := by
    rw [← run_append, List.append_assoc, List.singleton_append]
  refine ⟨by rw [writes_concat, hrun], ?_⟩
  rw [← List.cons_append, writes_concat, ← run_append]

/-- A write goes on with the story. -/
theorem write (h : Story s earlier creation later r) {w : Write}
    (hwrite : q.write? s (perform (run {} (earlier ++ creation :: later)) q).1 = some w)
    (hkept : q.op ≠ .delete s) : Story s earlier creation (later ++ [q]) (w.apply r) := by
  obtain ⟨hsince, hall⟩ := writes_later s earlier creation later q
  rw [hwrite, Option.toList_some] at hsince hall
  refine ⟨h.vacant, h.made, ?_, h.subject, h.createdAt, ?_, ?_, ?_, ?_⟩
  · intro q' hq'
    rcases List.mem_append.mp hq' with hq' | hq'
    · exact h.kept q' hq'
    · rw [List.mem_singleton.mp hq']
      exact hkept
  · have hversion := h.version
    rw [hsince, List.length_append, List.length_singleton]
    dsimp only [Write.apply]
    omega
  · rw [hall, List.filterMap_append]
    cases htoken : w.token with
    | none => simpa [Write.apply, htoken] using h.token
    | some token => simp [Write.apply, htoken]
  · rw [hall, List.getLast?_concat]
    rfl
  · rw [hall, List.getLast?_concat]
    rfl

/-- What writes nothing, and does not delete, leaves the story as it is. -/
theorem other (h : Story s earlier creation later r)
    (hsilent : q.write? s (perform (run {} (earlier ++ creation :: later)) q).1 = none)
    (hkept : q.op ≠ .delete s) : Story s earlier creation (later ++ [q]) r := by
  obtain ⟨hsince, hall⟩ := writes_later s earlier creation later q
  rw [hsilent, Option.toList_none, List.append_nil] at hsince hall
  refine ⟨h.vacant, h.made, ?_, h.subject, h.createdAt, hsince ▸ h.version, hall ▸ h.token, hall ▸ h.expiresAt,
    hall ▸ h.updatedAt⟩
  intro q' hq'
  rcases List.mem_append.mp hq' with hq' | hq'
  · exact h.kept q' hq'
  · rw [List.mem_singleton.mp hq']
    exact hkept

end Story

/-- What operations leave of a subject: a record with a story; or none, and then every upsert was undone. -/
inductive Tells (steps : List Step) (s : String) : Option TokenRecord → Prop where
  | record {earlier later : List Step} {creation : Step} {r : TokenRecord}
    (split : steps = earlier ++ creation :: later) (story : Story s earlier creation later r) :
    Tells steps s (some r)
  | nothing
    (undone : ∀ earlier q later, steps = earlier ++ q :: later → q.op.Upserts s → ∃ d ∈ later, d.op = .delete s) :
    Tells steps s none

/-- An operation that writes nothing for a subject is no upsert for it. -/
theorem not_upserts_of_write?_eq_none {reply : Reply} (h : q.write? s reply = none) : ¬ q.op.Upserts s := by
  rintro ⟨token, expiresAt, id, hop⟩
  simp [Step.write?, hop] at h

/-- Each operation goes on with the story. -/
theorem Tells.step {found found' : Option TokenRecord} (h : Tells steps s found)
    (hfound : (run {} steps).find s = found)
    (heffect : Effect s q (perform (run {} steps) q).1 found found') : Tells (steps ++ [q]) s found' := by
  -- an upsert among the operations is the last one, or one that came before
  have hundone (hlast : ¬ q.op.Upserts s)
      (hbefore : ∀ earlier u later, steps = earlier ++ u :: later → u.op.Upserts s →
        ∃ d ∈ later ++ [q], d.op = .delete s) :
      Tells (steps ++ [q]) s none := by
    refine .nothing fun earlier u later hsplit hupserts => ?_
    rcases List.eq_nil_or_concat later with rfl | ⟨later', last, rfl⟩
    · obtain ⟨-, hq⟩ := List.append_inj' hsplit rfl
      obtain rfl := List.singleton_inj.mp hq
      exact absurd hupserts hlast
    · rw [List.concat_eq_append, ← List.cons_append, ← List.append_assoc] at hsplit
      obtain ⟨hsteps, hq⟩ := List.append_inj' hsplit rfl
      obtain rfl := List.singleton_inj.mp hq
      rw [List.concat_eq_append]
      exact hbefore earlier u later' hsteps hupserts
  cases heffect with
  | created op =>
    have hsplit : steps ++ [q] = steps ++ q :: [] := rfl
    exact .record hsplit (.created hfound op)
  | written write kept =>
    cases h with
    | record split story =>
      subst split
      exact .record (List.append_assoc ..) (story.write write kept)
  | deleted op =>
    refine hundone ?_ fun _ _ later _ _ => ⟨q, List.mem_append_right later List.mem_cons_self, op⟩
    rintro ⟨token, expiresAt, id, hop⟩
    exact absurd (op.symm.trans hop) nofun
  | other silent kept =>
    cases h with
    | record split story =>
      subst split
      exact .record (List.append_assoc ..) (story.other silent kept)
    | nothing undone =>
      refine hundone (not_upserts_of_write?_eq_none silent) fun earlier u later hsteps hupserts => ?_
      obtain ⟨d, hd, hdelete⟩ := undone earlier u later hsteps hupserts
      exact ⟨d, List.mem_append_left _ hd, hdelete⟩

/-- **Every record has a story**, whatever was asked of the records. -/
theorem story_run (steps : List Step) (s : String) : Tells steps s ((run {} steps).find s) := by
  induction steps using List.reverseRecOn with
  | nil => exact .nothing fun earlier q later h => absurd h (by simp)
  | append_singleton steps q ih =>
    rw [run_concat]
    exact ih.step rfl (perform_effect _ q s)

/-- A subject has a record exactly if there was an upsert for it that was not undone. -/
theorem isSome_find_run_iff : ((run {} steps).find s).isSome = true ↔
    ∃ earlier q later, steps = earlier ++ q :: later ∧ q.op.Upserts s ∧ ∀ d ∈ later, d.op ≠ .delete s := by
  have htells := story_run steps s
  generalize (run {} steps).find s = found at htells
  cases htells with
  | record split story =>
    obtain ⟨token, expiresAt, hop⟩ := story.made
    exact ⟨fun _ => ⟨_, _, _, split, ⟨token, expiresAt, _, hop⟩, story.kept⟩, fun _ => rfl⟩
  | nothing undone =>
    refine ⟨fun h => absurd h (by simp), ?_⟩
    rintro ⟨earlier, q, later, hsplit, hupserts, hkept⟩
    obtain ⟨d, hd, hdelete⟩ := undone earlier q later hsplit hupserts
    exact absurd hdelete (hkept d hd)

/-! ### Times and ids -/

/-- No instant is earlier than itself. -/
theorem before_self (t : Instant) : t.before t = false := by
  simp [Instant.before, Instant.cmp]

/-- A write has the time of the operation that it comes from. -/
theorem exists_of_mem_writes {store : RecordStore} {w : Write} (h : w ∈ writes s store steps) :
    ∃ q ∈ steps, q.now = w.now := by
  induction steps generalizing store with
  | nil => exact absurd h List.not_mem_nil
  | cons q steps ih =>
    rw [writes, List.mem_append, Option.mem_toList] at h
    rcases h with h | h
    · refine ⟨q, List.mem_cons_self, ?_⟩
      obtain ⟨now, op⟩ := q
      simp only [Step.write?] at h
      split at h
      · obtain ⟨-, hw⟩ := Option.ite_none_right_eq_some.mp h
        rw [← Option.some.inj hw]
      · obtain ⟨-, hw⟩ := Option.ite_none_right_eq_some.mp h
        rw [← Option.some.inj hw]
      · cases h
    · obtain ⟨q', hq', hnow⟩ := ih h
      exact ⟨q', List.mem_cons_of_mem _ hq', hnow⟩

namespace Story

/-- While the clock does not go back, no record was written before it was created. -/
theorem updatedAt_not_before (h : Story s earlier creation later r)
    (hclock : (earlier ++ creation :: later).Pairwise fun a b => b.now.before a.now = false) :
    r.updatedAt.before r.createdAt = false := by
  obtain ⟨w, hlast, hnow⟩ := Option.map_eq_some_iff.mp h.updatedAt
  obtain ⟨q, hq, hq_now⟩ := exists_of_mem_writes (List.mem_of_getLast? hlast)
  rw [h.createdAt, ← hnow, ← hq_now]
  rcases List.mem_cons.mp hq with rfl | hq
  · exact before_self q.now
  · obtain ⟨-, hrest, -⟩ := List.pairwise_append.mp hclock
    exact (List.pairwise_cons.mp hrest).1 q hq

/-- If no id is drawn twice, a record has its id from its creation alone. -/
theorem newId?_ne (h : Story s earlier creation later r)
    (hids : ((earlier ++ creation :: later).filterMap (·.op.newId?)).Nodup) :
    ∀ q ∈ earlier ++ later, q.op.newId? ≠ some r.id := by
  intro q hq hdrawn
  obtain ⟨token, expiresAt, hop⟩ := h.made
  have hcreation : creation.op.newId? = some r.id := by
    rw [hop]
    rfl
  have hperm : (earlier ++ creation :: later).Perm (creation :: (earlier ++ later)) := List.perm_middle
  have hnodup := (hperm.filterMap (·.op.newId?)).nodup_iff.mp hids
  rw [List.filterMap_cons] at hnodup
  simp only [hcreation] at hnodup
  exact (List.nodup_cons.mp hnodup).1 (List.mem_filterMap.mpr ⟨q, hq, hdrawn⟩)

end Story

/-! ### What is answered -/

/-- An operation leaves the records of all subjects but its own alone. -/
theorem find_perform_of_ne (store : RecordStore) (q : Step) (hs : s ≠ q.op.subject) :
    (perform store q).2.find s = store.find s := by
  obtain ⟨now, op⟩ := q
  cases op with
  | upsert subject token expiresAt id => exact (RecordStore.find_upsert ..).trans (if_neg hs)
  | extend subject expected expiresAt =>
    rw [perform]
    dsimp only
    cases hextend : store.extend subject expected expiresAt now with
    | mk reply after =>
      cases reply with
      | none => rw [RecordStore.of_extend_eq_none hextend]
      | some r' =>
        obtain ⟨r, -, -, -, rfl⟩ := RecordStore.of_extend_eq_some hextend
        exact (RecordStore.find_write ..).trans (if_neg hs)
  | delete subject => exact (RecordStore.find_delete ..).trans (if_neg hs)

/-- An extension is granted exactly if there is a record with the expected version; then the answer is the record
as it is kept, and otherwise nothing changes. -/
theorem perform_extend (store : RecordStore) (now : Instant) (s : String) (expected : Int) (expiresAt : Instant) :
    (∃ r r', store.find s = some r ∧ r.version = expected ∧
        (perform store ⟨now, .extend s expected expiresAt⟩).1 = .extended (some r') ∧
        (perform store ⟨now, .extend s expected expiresAt⟩).2.find s = some r') ∨
      (¬ ∃ r, store.find s = some r ∧ r.version = expected) ∧
        perform store ⟨now, .extend s expected expiresAt⟩ = (.extended none, store) := by
  rw [perform]
  dsimp only
  rw [RecordStore.extend_eq]
  cases store.find s with
  | none =>
    refine .inr ⟨?_, rfl⟩
    rintro ⟨r, hr, -⟩
    cases hr
  | some r =>
    dsimp only
    by_cases hversion : r.version = expected
    · rw [if_pos hversion]
      refine .inl ⟨r, _, rfl, hversion, rfl, ?_⟩
      exact (RecordStore.find_write ..).trans (if_pos rfl)
    · rw [if_neg hversion]
      refine .inr ⟨?_, rfl⟩
      rintro ⟨r', hr', hversion'⟩
      obtain rfl := Option.some.inj hr'
      exact hversion hversion'

/-- **Every record has its story, and every answer is right.** From no records on, whatever is asked, while the
clock does not go back and no id is drawn twice: a subject has a record exactly if there was an upsert for it that
was not undone, and the record is what its creation and the writes since have made of it. An extension is granted
exactly if the record has the expected version, a deletion says whether there was a record, and what is asked for
one subject changes nothing for another. -/
theorem records_have_stories (steps : List Step) (hclock : steps.Pairwise fun a b => b.now.before a.now = false)
    (hids : (steps.filterMap (·.op.newId?)).Nodup) :
    let store := run {} steps
    (∀ s, (store.find s).isSome = true ↔
      ∃ earlier q later, steps = earlier ++ q :: later ∧ q.op.Upserts s ∧ ∀ d ∈ later, d.op ≠ .delete s) ∧
    (∀ s r, store.find s = some r →
      ∃ earlier creation later, steps = earlier ++ creation :: later ∧ Story s earlier creation later r ∧
        r.updatedAt.before r.createdAt = false ∧ ∀ q ∈ earlier ++ later, q.op.newId? ≠ some r.id) ∧
    (∀ now s token expiresAt id, ∃ r,
      (perform store ⟨now, .upsert s token expiresAt id⟩).1 = .written r ∧
        (perform store ⟨now, .upsert s token expiresAt id⟩).2.find s = some r) ∧
    (∀ now s expected expiresAt,
      (∃ r r', store.find s = some r ∧ r.version = expected ∧
          (perform store ⟨now, .extend s expected expiresAt⟩).1 = .extended (some r') ∧
          (perform store ⟨now, .extend s expected expiresAt⟩).2.find s = some r') ∨
        (¬ ∃ r, store.find s = some r ∧ r.version = expected) ∧
          perform store ⟨now, .extend s expected expiresAt⟩ = (.extended none, store)) ∧
    (∀ now s, (perform store ⟨now, .delete s⟩).1 = .deleted (store.find s).isSome ∧
      (perform store ⟨now, .delete s⟩).2.find s = none) ∧
    ∀ q s, s ≠ q.op.subject → (perform store q).2.find s = store.find s := by
  intro store
  refine ⟨fun s => isSome_find_run_iff, ?_, ?_, perform_extend store, ?_, fun q s => find_perform_of_ne store q⟩
  · intro s r hfound
    have htells := story_run steps s
    rw [show (run {} steps).find s = some r from hfound] at htells
    cases htells with
    | record split story =>
      rw [split] at hclock hids
      exact ⟨_, _, _, split, story, story.updatedAt_not_before hclock, story.newId?_ne hids⟩
  · intro now s token expiresAt id
    exact ⟨_, rfl, (RecordStore.find_upsert ..).trans (if_pos rfl)⟩
  · intro now s
    exact ⟨rfl, (RecordStore.find_delete ..).trans (if_pos rfl)⟩

/-- A record that is made, extended, overwritten and asked for under a stale version, beside another subject's. -/
def sampleSteps : List Step :=
  [⟨⟨0, 0⟩, .upsert "u1" ⟨"a", "iv"⟩ ⟨9, 0⟩ "r1"⟩, ⟨⟨1, 0⟩, .delete "u1"⟩,
    ⟨⟨1, 0⟩, .upsert "u1" ⟨"b", "iv"⟩ ⟨9, 0⟩ "r2"⟩, ⟨⟨2, 0⟩, .upsert "u2" ⟨"c", "iv"⟩ ⟨9, 0⟩ "r3"⟩,
    ⟨⟨3, 0⟩, .extend "u1" 1 ⟨20, 0⟩⟩, ⟨⟨4, 0⟩, .extend "u1" 1 ⟨30, 0⟩⟩,
    ⟨⟨5, 0⟩, .upsert "u1" ⟨"d", "iv"⟩ ⟨10, 0⟩ "r4"⟩]

/-- The record of the sample comes from the second upsert, and was written twice since. -/
theorem sample_records_have_stories :
    (sampleSteps.Pairwise fun a b => b.now.before a.now = false) ∧
      (sampleSteps.filterMap (·.op.newId?)).Nodup ∧
      ∃ earlier creation later r, (run {} sampleSteps).find "u1" = some r ∧
        sampleSteps = earlier ++ creation :: later ∧ Story "u1" earlier creation later r ∧
        r = ⟨"r2", "u1", ⟨"d", "iv"⟩, ⟨10, 0⟩, 3, ⟨1, 0⟩, ⟨5, 0⟩⟩ := by
  have hclock : sampleSteps.Pairwise fun a b => b.now.before a.now = false := by decide
  have hids : (sampleSteps.filterMap (·.op.newId?)).Nodup := by decide
  have hfound : (run {} sampleSteps).find "u1" =
      some ⟨"r2", "u1", ⟨"d", "iv"⟩, ⟨10, 0⟩, 3, ⟨1, 0⟩, ⟨5, 0⟩⟩ := by decide
  obtain ⟨-, hstories, -⟩ := records_have_stories sampleSteps hclock hids
  obtain ⟨earlier, creation, later, hsplit, hstory, -⟩ := hstories "u1" _ hfound
  exact ⟨hclock, hids, earlier, creation, later, _, hfound, hsplit, hstory, rfl⟩

end Gatehouse.Records
