import Gatehouse.Proofs.Auth.Versions

/-!
# What a refresh overwrites

A refresh writes only if the version is still the one that it read. While the subject is not revoked in
between, that is enough: nothing was written since, and the record that is extended is the very record
that was read. But versions start again with the record: after a revoke and a new issue an old read can
meet its version in a record that it never saw, and extend that
(`refresh_extends_what_it_read_iff`, `extends_record_of_new_issue`).
-/

namespace Gatehouse.Interleaving

variable {c : TokenConfig}

/-! ### What a client remembers -/

/-- A move begins a refresh of a client, or ends it. -/
def Move.bounds (client : Nat) : Move → Prop
  | .read i _ _ _ | .write i _ _ => i = client
  | _ => False

/-- What a client remembers is what it read in a world. -/
def Stage.ReadFrom (w : World) : Stage → Prop
  | .idle => True
  | .read _ k _ found => found = w.find k.sub
  | .checked _ _ r => w.find r.subject = some r

/-- The moves of others, and the check of the client itself, leave it with what it read. -/
theorem readFrom_step {w₀ w : World} {client : Nat} {m : Move} (hm : ¬ m.bounds client)
    (h : (w.stage client).ReadFrom w₀) : ((step c w m).2.stage client).ReadFrom w₀ := by
  cases m with
  | issue now s draws =>
    rw [step]
    split <;> exact h
  | revoke s => exact h
  | read i now access token =>
    rw [step]
    split
    · split
      · rw [enter_stage_of_ne _ _ (Ne.symm hm)]
        exact h
      · exact h
    · exact h
  | check i now =>
    by_cases hi : client = i
    · subst hi
      rw [step]
      split
      next a k token found hstage =>
        split
        next r hrecord =>
          obtain ⟨hfound, -, hsub, -⟩ := c.checkRecord_eq_ok_iff.mp hrecord
          rw [hstage] at h
          have hread : found = w₀.find k.sub := h
          rw [enter_stage_self]
          change w₀.find r.subject = some r
          rw [← hsub, ← hread, hfound]
        · rw [enter_stage_self]
          trivial
      · exact h
    · rw [step]
      split
      · split
        · rw [enter_stage_of_ne _ _ hi]
          exact h
        · rw [enter_stage_of_ne _ _ hi]
          exact h
      · exact h
  | write i now accessId =>
    rw [step]
    split
    · split
      · rw [enter_stage_of_ne _ _ (Ne.symm hm)]
        exact h
      · rw [enter_stage_of_ne _ _ (Ne.symm hm)]
        exact h
    · exact h

/-- However many moves others make, a client is left with what it read. -/
theorem readFrom_run {w₀ w : World} {client : Nat} {moves : List Move}
    (hmoves : ∀ m ∈ moves, ¬ m.bounds client) (h : (w.stage client).ReadFrom w₀) :
    ((run c w moves).stage client).ReadFrom w₀ := by
  induction moves generalizing w with
  | nil => exact h
  | cons m moves ih =>
    exact ih (fun m' hm' => hmoves m' (List.mem_cons_of_mem _ hm'))
      (readFrom_step (hmoves m List.mem_cons_self) h)

/-- A client that begins a refresh remembers what it read. -/
theorem readFrom_read {w : World} {client : Nat} (h : w.stage client = .idle) (now : Instant)
    (access token : String) :
    ((step c w (.read client now access token)).2.stage client).ReadFrom w := by
  rw [step_read h]
  split
  · rw [enter_stage_self]
    rfl
  · rw [h]
    trivial

/-- A refresh that is answered had come to its last stage. -/
theorem stage_of_step_eq_refreshed {w : World} {client : Nat} {now t : Instant} {accessId : Uuid}
    {read : TokenRecord} {tokens : IssuedTokens}
    (h : (step c w (.write client now accessId)).1 = .refreshed t read tokens) :
    ∃ k token, w.stage client = .checked k token read := by
  rw [step] at h
  split at h
  next k token r hstage =>
    split at h
    · obtain ⟨-, rfl, -⟩ := Event.refreshed.inj h
      exact ⟨k, token, hstage⟩
    · exact absurd h (by simp)
  · exact absurd h (by simp)

/-! ### Where a record comes from -/

/-- In a log with one more event a subject was revoked before, or is now. -/
theorem revoked_concat {s : String} {log : List Event} {e : Event} :
    Revoked s (log ++ [e]) ↔ Revoked s log ∨ ∃ deleted, e = .revoked s deleted := by
  simp [Revoked, exists_or, eq_comm]

/-- The record of a subject is the one that was there before, or was made by an issue since. It has not
been revoked after that. -/
theorem origin_run {w : World} {s : String} {moves : List Move} {r : TokenRecord}
    (h : (run c w moves).find s = some r) :
    (¬ Revoked s (log c w moves) ∧ ∃ r₀, w.find s = some r₀ ∧ r.id = r₀.id) ∨
    ∃ earlier t x issued later, log c w moves = earlier ++ .issued t x issued :: later ∧
      x.id = s ∧ ¬ Revoked s later ∧ r.id = issued.record.id := by
  induction moves using List.reverseRecOn generalizing r with
  | nil => exact .inl ⟨by simp [Revoked, log], r, h, rfl⟩
  | append_singleton moves m ih =>
    rw [run_concat] at h
    rw [log_concat]
    have heffect := step_effect c (run c w moves) m s
    rw [h] at heffect
    generalize hfound : (run c w moves).find s = found,
      (step c (run c w moves) m).1 = e at heffect ih ⊢
    -- a record that was there before keeps its id, and no event that leaves one is a revoke
    have hkept {r₀ : TokenRecord} (hfound : found = some r₀) (hid : r.id = r₀.id)
        (he : ¬ ∃ deleted, e = .revoked s deleted) :
        (¬ Revoked s (log c w moves ++ [e]) ∧ ∃ r₀, w.find s = some r₀ ∧ r.id = r₀.id) ∨
        ∃ earlier t x issued later,
          log c w moves ++ [e] = earlier ++ .issued t x issued :: later ∧
            x.id = s ∧ ¬ Revoked s later ∧ r.id = issued.record.id := by
      rcases ih hfound with
        ⟨hrevoked, r₁, hr₁, hid'⟩ | ⟨earlier, t, x, issued, later, hlog, hx, hlater, hid'⟩
      · exact .inl ⟨fun h => (revoked_concat.mp h).elim hrevoked he, r₁, hr₁, hid.trans hid'⟩
      · refine .inr ⟨earlier, t, x, issued, later ++ [e], ?_, hx,
          fun h => (revoked_concat.mp h).elim hlater he, hid.trans hid'⟩
        rw [hlog, List.append_assoc, List.cons_append]
    cases heffect with
    | @issued now expiry x draws tokens _ hx hexpiry hrecord =>
      cases found with
      | none => exact .inr ⟨log c w moves, now, x, tokens, [], rfl, hx, by simp [Revoked], rfl⟩
      | some r₀ =>
        refine hkept rfl ?_ (by simp)
        rw [hrecord]
        rfl
    | @refreshed now expiry read r₀ tokens hread hversion hexpiry hrecord =>
      refine hkept rfl ?_ (by simp)
      rw [hrecord]
      rfl
    | other hother =>
      refine hkept rfl rfl ?_
      rintro ⟨deleted, rfl⟩
      exact hother rfl

/-- An event that concerns a subject revokes it or writes its record. -/
theorem Event.revoked_or_write {s : String} {e : Event} (h : e.concerns s) :
    (∃ deleted, e = .revoked s deleted) ∨ ∃ x, e.write? s = some x := by
  cases e with
  | issued now x tokens => exact .inr ⟨_, if_pos h⟩
  | revoked x deleted => exact .inl ⟨deleted, congrArg (Event.revoked · deleted) h⟩
  | refreshed now read tokens => exact .inr ⟨_, if_pos h⟩
  | _ => exact h.elim

/-- Where a subject was neither revoked nor written, nothing concerns it. -/
theorem not_concerns_of_writes_eq_nil {s : String} {log : List Event} (hrevoked : ¬ Revoked s log)
    (hwrites : writes s log = []) : ∀ e ∈ log, ¬ e.concerns s := by
  intro e he hconcerns
  rcases Event.revoked_or_write hconcerns with ⟨deleted, rfl⟩ | ⟨x, hx⟩
  · exact hrevoked ⟨deleted, he⟩
  · have hmem : x ∈ writes s log := List.mem_filterMap.mpr ⟨e, he, hx⟩
    rw [hwrites] at hmem
    exact List.not_mem_nil hmem

/-- **A refresh extends the record that it read, and nothing was written or deleted since, exactly if the
subject was not revoked since.** Otherwise it extends the record of a later issue. -/
theorem refresh_extends_what_it_read_iff {w : World} {client : Nat} (hidle : w.stage client = .idle)
    {now : Instant} {access token : String} {between : List Move}
    (hbetween : ∀ m ∈ between, ¬ m.bounds client) {now' t : Instant} {accessId : Uuid}
    {read : TokenRecord} {tokens : IssuedTokens}
    (hanswer : (step c (run c w (.read client now access token :: between))
      (.write client now' accessId)).1 = .refreshed t read tokens) :
    let events := log c w (.read client now access token :: between)
    w.find read.subject = some read ∧
    ((tokens.record.id = read.id ∧ tokens.record.token = read.token ∧
        ∀ e ∈ events, ¬ e.concerns read.subject) ↔
      ¬ Revoked read.subject events) ∧
    (Revoked read.subject events →
      ∃ earlier t x issued later, events = earlier ++ .issued t x issued :: later ∧
        x.id = read.subject ∧ ¬ Revoked read.subject later ∧
        tokens.record.id = issued.record.id) := by
  intro events
  obtain ⟨k, token', hstage⟩ := stage_of_step_eq_refreshed hanswer
  have hread : w.find read.subject = some read := by
    have hfrom := readFrom_run (c := c) hbetween (readFrom_read (c := c) hidle now access token)
    rw [run] at hstage
    rw [hstage] at hfrom
    exact hfrom
  have hexpiries : (c.expiries? now').isSome = true := by
    rw [Option.isSome_iff_ne_none]
    intro hnone
    rw [step_write_of_overflow hstage hnone] at hanswer
    exact absurd hanswer nofun
  have hsettled := settled_write hstage hexpiries accessId
  rw [hanswer] at hsettled
  cases hsettled with
  | @answered r _ hfound hversion hid htoken =>
  refine ⟨hread, ⟨?_, ?_⟩, ?_⟩
  · rintro ⟨-, -, hnone⟩ ⟨deleted, hmem⟩
    exact hnone _ hmem rfl
  · intro hrevoked
    obtain ⟨r', hr', hledger⟩ := ledger_run (c := c) hread hrevoked
    obtain rfl := Option.some.inj (hfound.symm.trans hr')
    obtain ⟨hwrites, rfl⟩ := hledger.eq_of_version_eq hversion
    exact ⟨hid, htoken, not_concerns_of_writes_eq_nil hrevoked hwrites⟩
  · intro hrevoked
    rcases origin_run (c := c) hfound with
      ⟨hnot, -⟩ | ⟨earlier, t, x, issued, later, hlog, hx, hlater, hid'⟩
    · exact absurd hrevoked hnot
    · exact ⟨earlier, t, x, issued, later, hlog, hx, hlater, hid.trans hid'⟩

/-- What was issued is what is extended, if nothing comes between. -/
theorem extends_what_was_issued :
    ∃ first tokens m,
      sampleConfig.issue Memory.recordAccess sampleSubject ⟨0, 0⟩ sampleDraws {} = (.ok first, m) ∧
      (step sampleConfig
        (run sampleConfig { memory := m }
          [.read 0 ⟨1, 0⟩ first.accessToken first.refreshToken, .check 0 ⟨1, 0⟩])
        (.write 0 ⟨2, 0⟩ ⟨5⟩)).1 = .refreshed ⟨2, 0⟩ first.record tokens ∧
      tokens.record.id = first.record.id := by
  obtain ⟨first, k, m, hfirst, hrecord, hfound, hlog, hmemory, hstage⟩ := sample_read_check
  have hsubject : first.record.subject = sampleSubject.id := by
    rw [hrecord]
    rfl
  have hanswer := step_write (c := sampleConfig) hstage ⟨2, 0⟩ ⟨5⟩
  rw [hmemory, TokenConfig.renew_of_version (sample_expiries 2 (by decide)) (hsubject ▸ hfound)
    rfl ⟨5⟩] at hanswer
  refine ⟨first, _, m, hfirst, congrArg Prod.fst hanswer, ?_⟩
  have hidle : ({ memory := m } : World).stage 0 = .idle := rfl
  have hbetween : ∀ move ∈ [Move.check 0 ⟨1, 0⟩], ¬ move.bounds 0 := by simp [Move.bounds]
  obtain ⟨-, hiff, -⟩ :=
    refresh_extends_what_it_read_iff hidle hbetween (congrArg Prod.fst hanswer)
  refine (hiff.mpr ?_).1
  rw [hlog]
  simp [Revoked]

/-- After a revoke and a new issue, a refresh that had read the old record extends the new one. -/
theorem extends_record_of_new_issue :
    ∃ first tokens m,
      sampleConfig.issue Memory.recordAccess sampleSubject ⟨0, 0⟩ sampleDraws {} = (.ok first, m) ∧
      (step sampleConfig
        (run sampleConfig { memory := m }
          [.read 0 ⟨1, 0⟩ first.accessToken first.refreshToken, .check 0 ⟨1, 0⟩,
            .revoke sampleSubject.id,
            .issue ⟨1, 0⟩ sampleSubject ⟨⟨5⟩, ⟨6⟩, ⟨7⟩, Nonce.ofNat 8⟩])
        (.write 0 ⟨2, 0⟩ ⟨9⟩)).1 = .refreshed ⟨2, 0⟩ first.record tokens ∧
      tokens.record.id ≠ first.record.id := by
  obtain ⟨first, k, m, hfirst, hrecord, -, -, -, hstage⟩ := sample_read_check
  have hsubject : first.record.subject = sampleSubject.id := by
    rw [hrecord]
    rfl
  generalize hread : run sampleConfig { memory := m }
    [.read 0 ⟨1, 0⟩ first.accessToken first.refreshToken, .check 0 ⟨1, 0⟩] = w at hstage
  -- the second issue finds no record, so its own starts again at the first version
  obtain ⟨second, m', hsecond, -, -, hrecord', hfound⟩ :=
    TokenConfig.issue_of_expiries (sample_expiries 1 (by decide)) sampleSubject
      ⟨⟨5⟩, ⟨6⟩, ⟨7⟩, Nonce.ofNat 8⟩
      { w.memory with records := (w.memory.records.delete sampleSubject.id).2 }
  rw [RecordStore.find_delete, if_pos rfl] at hrecord'
  have hw : run sampleConfig { memory := m }
      [.read 0 ⟨1, 0⟩ first.accessToken first.refreshToken, .check 0 ⟨1, 0⟩,
        .revoke sampleSubject.id,
        .issue ⟨1, 0⟩ sampleSubject ⟨⟨5⟩, ⟨6⟩, ⟨7⟩, Nonce.ofNat 8⟩] =
      { w with memory := m' } := by
    have hissued := step_issue (c := sampleConfig)
      (w := (step sampleConfig w (.revoke sampleSubject.id)).2) hsecond
    change (step sampleConfig (step sampleConfig (run sampleConfig { memory := m }
      [.read 0 ⟨1, 0⟩ first.accessToken first.refreshToken, .check 0 ⟨1, 0⟩]) _).2 _).2 = _
    rw [hread, hissued]
    rfl
  have hversion : second.record.version = first.record.version := by
    rw [hrecord, hrecord', RecordStore.upserted, RecordStore.upserted]
  have hanswer := step_write (c := sampleConfig) (w := { w with memory := m' }) hstage ⟨2, 0⟩ ⟨9⟩
  rw [TokenConfig.renew_of_version (sample_expiries 2 (by decide)) (hsubject ▸ hfound) hversion
    ⟨9⟩, ← hw] at hanswer
  refine ⟨first, _, m, hfirst, congrArg Prod.fst hanswer, ?_⟩
  change second.record.id ≠ first.record.id
  rw [hrecord, hrecord', RecordStore.upserted, RecordStore.upserted]
  dsimp only
  decide +kernel

end Gatehouse.Interleaving
