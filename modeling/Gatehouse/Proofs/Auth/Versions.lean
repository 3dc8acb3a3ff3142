import Gatehouse.Proofs.Auth.Interleaving
import Mathlib.Data.List.Induction

/-!
# The version counts the writes

While a subject is not revoked, its record goes through a chain of writes: those of issues, which put a
new sealed token in place, and those of refreshes, which only move the expiry. `Ledger` is the account of
such a chain, and `ledger_run` says that every interleaving keeps it: each successful call is one version,
and no two refreshes succeed from a read of the same version.

A refresh that has checked its record can be late, and then it changes nothing (`settled_write`). It can
also be so late that its expiries lie out of the calendar, and then it has no answer at all
(`step_write_of_overflow`, `calendar_overtakes_refresh`).
-/

namespace Gatehouse.Interleaving

/-- A write to the record of a subject, with the time of the call and the record that it leaves. -/
inductive Write where
  | issue (now : Instant) (record : TokenRecord)
  | refresh (now : Instant) (read record : TokenRecord)

namespace Write

/-- The time of the call. -/
def time : Write → Instant
  | issue now _ | refresh now _ _ => now

/-- The record that a write leaves. -/
def record : Write → TokenRecord
  | issue _ r | refresh _ _ r => r

/-- The record that an issue leaves. -/
def issued? : Write → Option TokenRecord
  | issue _ r => some r
  | refresh _ _ _ => none

/-- The version that a refresh had read. -/
def readVersion? : Write → Option Int
  | issue _ _ => none
  | refresh _ read _ => some read.version

end Write

/-- The write of an event to the record of a subject. -/
def Event.write? (s : String) : Event → Option Write
  | .issued now x tokens => if x.id = s then some (.issue now tokens.record) else none
  | .refreshed now read tokens =>
    if read.subject = s then some (.refresh now read tokens.record) else none
  | _ => none

/-- An event that does not concern a subject writes nothing for it. -/
theorem Event.write?_eq_none {s : String} {e : Event} (h : ¬ e.concerns s) : e.write? s = none := by
  cases e with
  | issued now x tokens => exact if_neg h
  | refreshed now read tokens => exact if_neg h
  | _ => rfl

/-- The writes to the record of a subject, in their order. -/
def writes (s : String) (log : List Event) : List Write := log.filterMap (Event.write? s)

/-- A subject was revoked. -/
def Revoked (s : String) (log : List Event) : Prop := ∃ deleted, Event.revoked s deleted ∈ log

/-- What came of the record `r₀` after some writes: it is the record `r`. -/
structure Ledger (c : TokenConfig) (r₀ : TokenRecord) (ws : List Write) (r : TokenRecord) : Prop where
  id : r.id = r₀.id
  subject : r.subject = r₀.subject
  createdAt : r.createdAt = r₀.createdAt
  /-- Each write is one version. -/
  version : r.version = r₀.version + ws.length
  /-- The sealed token is that of the last issue. -/
  token : r.token = ((ws.filterMap Write.issued?).getLast?.getD r₀).token
  /-- The record is the one that the last call wrote. -/
  record : r = (ws.getLast?.map Write.record).getD r₀
  /-- The last call counted the expiry from its own time. -/
  expiresAt : ∀ w ∈ ws.getLast?, w.time.add? c.refreshLifetime = some r.expiresAt
  /-- Later refreshes had read later versions. -/
  reads : (ws.filterMap Write.readVersion?).Pairwise (· < ·)
  /-- A version from which a refresh succeeded is spent. -/
  spent : ∀ v ∈ ws.filterMap Write.readVersion?, v < r.version

variable {c : TokenConfig} {r₀ r : TokenRecord} {ws : List Write}

/-- Nothing was written. -/
theorem Ledger.nil (c : TokenConfig) (r : TokenRecord) : Ledger c r [] r where
  id := rfl
  subject := rfl
  createdAt := rfl
  version := by simp
  token := rfl
  record := rfl
  expiresAt := by simp
  reads := .nil
  spent := by simp

/-- If the version is the same, nothing was written. -/
theorem Ledger.eq_of_version_eq (h : Ledger c r₀ ws r) (hversion : r.version = r₀.version) :
    ws = [] ∧ r = r₀ := by
  have hwrites : ws = [] := by
    have hlength := h.version
    exact List.length_eq_zero_iff.mp (by omega)
  refine ⟨hwrites, ?_⟩
  rw [h.record, hwrites]
  rfl

/-- An issue writes a new sealed token, and one version. -/
theorem Ledger.issue (h : Ledger c r₀ ws r) {now expiry : Instant}
    (hexpiry : now.add? c.refreshLifetime = some expiry) (s : String) (token : Sealed) (id : String) :
    Ledger c r₀ (ws ++ [.issue now (RecordStore.upserted (some r) s token expiry now id)])
      (RecordStore.upserted (some r) s token expiry now id) := by
  have hversion := h.version
  have hissued {r'} : (ws ++ [Write.issue now r']).filterMap Write.issued? =
      ws.filterMap Write.issued? ++ [r'] := by simp [Write.issued?]
  have hreads {r'} : (ws ++ [Write.issue now r']).filterMap Write.readVersion? =
      ws.filterMap Write.readVersion? := by simp [Write.readVersion?]
  refine ⟨h.id, h.subject, h.createdAt, ?_, ?_, ?_, ?_, ?_, ?_⟩
  · rw [List.length_append, List.length_singleton]
    dsimp only [RecordStore.upserted]
    omega
  · rw [hissued, List.getLast?_concat]
    rfl
  · rw [List.getLast?_concat]
    rfl
  · rw [List.getLast?_concat]
    rintro w ⟨⟩
    exact hexpiry
  · rw [hreads]
    exact h.reads
  · rw [hreads]
    intro v hv
    have hlt := h.spent v hv
    dsimp only [RecordStore.upserted]
    omega

/-- A refresh writes a new expiry, and one version: the one after that which it had read. -/
theorem Ledger.refresh (h : Ledger c r₀ ws r) {now expiry : Instant} {read : TokenRecord}
    (hexpiry : now.add? c.refreshLifetime = some expiry) (hread : r.version = read.version) :
    Ledger c r₀ (ws ++ [.refresh now read (RecordStore.extended r expiry now)])
      (RecordStore.extended r expiry now) := by
  have hversion := h.version
  have hissued {r'} : (ws ++ [Write.refresh now read r']).filterMap Write.issued? =
      ws.filterMap Write.issued? := by simp [Write.issued?]
  have hreads {r'} : (ws ++ [Write.refresh now read r']).filterMap Write.readVersion? =
      ws.filterMap Write.readVersion? ++ [r.version] := by simp [Write.readVersion?, hread]
  refine ⟨h.id, h.subject, h.createdAt, ?_, ?_, ?_, ?_, ?_, ?_⟩
  · rw [List.length_append, List.length_singleton]
    dsimp only [RecordStore.extended]
    omega
  · rw [hissued]
    exact h.token
  · rw [List.getLast?_concat]
    rfl
  · rw [List.getLast?_concat]
    rintro w ⟨⟩
    exact hexpiry
  · rw [hreads, List.pairwise_append]
    refine ⟨h.reads, List.pairwise_singleton _ _, fun v hv v' hv' => ?_⟩
    rw [List.mem_singleton.mp hv']
    exact h.spent v hv
  · rw [hreads]
    intro v hv
    dsimp only [RecordStore.extended]
    rcases List.mem_append.mp hv with hv | hv
    · have hlt := h.spent v hv
      omega
    · rw [List.mem_singleton.mp hv]
      omega

/-- Each move that does not revoke the subject keeps the account. -/
theorem Ledger.step {s : String} {log : List Event} {w : World}
    (h : Ledger c r₀ (writes s log) r) (hfound : w.find s = some r) (m : Move)
    (hrevoked : ¬ Revoked s (log ++ [(step c w m).1])) :
    ∃ r', (step c w m).2.find s = some r' ∧
      Ledger c r₀ (writes s (log ++ [(step c w m).1])) r' := by
  have heffect := step_effect c w m s
  rw [hfound] at heffect
  generalize (Interleaving.step c w m).1 = e, (Interleaving.step c w m).2.find s = found
    at heffect hrevoked ⊢
  rw [writes, List.filterMap_append]
  cases heffect with
  | @issued now expiry x draws tokens _ hx hexpiry hrecord =>
    refine ⟨tokens.record, rfl, ?_⟩
    have hwrite : Event.write? s (.issued now x tokens) = some (.issue now tokens.record) :=
      if_pos hx
    rw [List.filterMap_cons_some hwrite, hrecord]
    exact h.issue hexpiry _ _ _
  | @refreshed now expiry read _ tokens hread hversion hexpiry hrecord =>
    refine ⟨tokens.record, rfl, ?_⟩
    have hwrite : Event.write? s (.refreshed now read tokens) =
        some (.refresh now read tokens.record) := if_pos hread
    rw [List.filterMap_cons_some hwrite, hrecord]
    exact h.refresh hexpiry hversion
  | revoked deleted =>
    exact absurd ⟨deleted, List.mem_append_right _ List.mem_cons_self⟩ hrevoked
  | other hother =>
    refine ⟨r, rfl, ?_⟩
    rw [List.filterMap_cons_none (Event.write?_eq_none hother), List.filterMap_nil, List.append_nil]
    exact h

/-- **Every interleaving keeps the account** of a subject that is not revoked. -/
theorem ledger_run {s : String} {w : World} (hfound : w.find s = some r₀) {moves : List Move}
    (hrevoked : ¬ Revoked s (log c w moves)) :
    ∃ r, (run c w moves).find s = some r ∧ Ledger c r₀ (writes s (log c w moves)) r := by
  induction moves using List.reverseRecOn with
  | nil => exact ⟨r₀, hfound, .nil c r₀⟩
  | append_singleton moves m ih =>
    rw [log_concat] at hrevoked ⊢
    obtain ⟨r, hr, hledger⟩ := ih fun ⟨deleted, h⟩ =>
      hrevoked ⟨deleted, List.mem_append_left _ h⟩
    rw [run_concat]
    exact hledger.step hr m hrevoked

/-! ### Late refreshes -/

/-- A refresh whose checks have passed comes out in one of two ways: it extends the record that is there,
which has the version that was read, or it is late and changes nothing. -/
inductive Settled (w w' : World) (now : Instant) (read : TokenRecord) : Event → Prop where
  | answered {r : TokenRecord} {tokens : IssuedTokens} (hfound : w.find read.subject = some r)
      (hversion : r.version = read.version) (hid : tokens.record.id = r.id)
      (htoken : tokens.record.token = r.token) (hcreatedAt : tokens.record.createdAt = r.createdAt)
      (hwritten : w'.find read.subject = some tokens.record) :
      Settled w w' now read (.refreshed now read tokens)
  | late (hmemory : w'.memory = w.memory) :
      Settled w w' now read (.lost read (.error .concurrentModification))

section Write

variable {w : World} {client : Nat} {k : Claims} {token : String} {read : TokenRecord}

/-- **A refresh whose checks have passed extends its record or is late**, if its expiries lie in the
calendar. -/
theorem settled_write (h : w.stage client = .checked k token read) {now : Instant}
    (hexpiries : (c.expiries? now).isSome = true) (accessId : Uuid) :
    Settled w (step c w (.write client now accessId)).2 now read
      (step c w (.write client now accessId)).1 := by
  rw [step_write h]
  cases hrenew : c.renew Memory.recordAccess k token read now accessId w.memory with
  | mk result memory =>
    cases result with
    | ok tokens =>
      obtain ⟨r, _, _, -, hfound, hversion, rfl, rfl⟩ := TokenConfig.of_renew_eq_ok hrenew
      refine .answered hfound hversion rfl rfl rfl ?_
      exact (RecordStore.find_write _ _ _ _).trans (if_pos rfl)
    | error stop =>
      obtain ⟨rfl, rfl | ⟨-, hnone⟩⟩ := TokenConfig.of_renew_eq_error hrenew
      · exact .late rfl
      · exact absurd hexpiries (by simp [hnone])

/-- Else it has no answer, and changes nothing either. -/
theorem step_write_of_overflow (h : w.stage client = .checked k token read) {now : Instant}
    (hnone : c.expiries? now = none) (accessId : Uuid) :
    step c w (.write client now accessId) = (.lost read .overflow, w.enter client .idle) := by
  rw [step_write h, TokenConfig.renew_eq, hnone]

/-- A refresh that finds another version than it read is late. -/
theorem step_write_of_version_ne (h : w.stage client = .checked k token read) {r : TokenRecord}
    (hfound : w.find read.subject = some r) (hversion : r.version ≠ read.version) {now : Instant}
    (hexpiries : (c.expiries? now).isSome = true) (accessId : Uuid) :
    (step c w (.write client now accessId)).1 = .lost read (.error .concurrentModification) := by
  have hsettled := settled_write h hexpiries accessId
  generalize (step c w (.write client now accessId)).1 = e at hsettled ⊢
  cases hsettled with
  | answered hfound' hversion' =>
    obtain rfl := Option.some.inj (hfound.symm.trans hfound')
    exact absurd hversion' hversion
  | late => rfl

end Write

/-- **The version counts the successful calls**, however issues and refreshes for a subject that is not
revoked are interleaved. A refresh that has passed its checks is one of them, or it is late and changes
nothing, if the expiries counted from its time lie in the calendar. If they do not, it has no answer and
changes nothing. -/
theorem interleaved_writes_add_up {w : World} {s : String} {r₀ : TokenRecord}
    (hfound : w.find s = some r₀) {moves : List Move} (hrevoked : ¬ Revoked s (log c w moves)) :
    (∃ r, (run c w moves).find s = some r ∧ Ledger c r₀ (writes s (log c w moves)) r) ∧
    ∀ before client now accessId later k token read,
      moves = before ++ .write client now accessId :: later →
      (run c w before).stage client = .checked k token read →
      let after := step c (run c w before) (.write client now accessId)
      ((c.expiries? now).isSome = true → Settled (run c w before) after.2 now read after.1) ∧
      (c.expiries? now = none →
        after.1 = .lost read .overflow ∧ after.2.memory = (run c w before).memory) := by
  refine ⟨ledger_run hfound hrevoked, ?_⟩
  rintro before client now accessId later k token read - hstage after
  refine ⟨fun hexpiries => settled_write hstage hexpiries accessId, fun hnone => ?_⟩
  have hafter : after = _ := step_write_of_overflow hstage hnone accessId
  rw [hafter]
  exact ⟨rfl, rfl⟩

/-- An issue comes between the check of a refresh and its write: the issue is the second version, and the
refresh is late. -/
theorem issue_overtakes_refresh :
    ∃ first second m,
      let moves := [.read 0 ⟨1, 0⟩ first.accessToken first.refreshToken, .check 0 ⟨1, 0⟩,
        .issue ⟨1, 0⟩ sampleSubject ⟨⟨5⟩, ⟨6⟩, ⟨7⟩, Nonce.ofNat 8⟩, .write 0 ⟨2, 0⟩ ⟨9⟩]
      sampleConfig.issue Memory.recordAccess sampleSubject ⟨0, 0⟩ sampleDraws {} = (.ok first, m) ∧
      log sampleConfig { memory := m } moves = [.silent, .silent, .issued ⟨1, 0⟩ sampleSubject second,
        .lost first.record (.error .concurrentModification)] ∧
      ∃ r, (run sampleConfig { memory := m } moves).find sampleSubject.id = some r ∧
        r.version = 2 := by
  obtain ⟨first, k, m, hfirst, hrecord, hfound, hlog, hmemory, hstage⟩ := sample_read_check
  have hsubject : first.record.subject = sampleSubject.id := by
    rw [hrecord]
    rfl
  have hfirstVersion : first.record.version = 1 := by rw [hrecord, RecordStore.upserted]
  obtain ⟨second, m', hsecond, -, -, hrecord', hfound'⟩ :=
    TokenConfig.issue_of_expiries (sample_expiries 1 (by decide)) sampleSubject
      ⟨⟨5⟩, ⟨6⟩, ⟨7⟩, Nonce.ofNat 8⟩ m
  have hsecondVersion : second.record.version = first.record.version + 1 := by
    rw [hrecord', hfound]
    rfl
  refine ⟨first, second, m, ?_⟩
  intro moves
  have hmoves : log sampleConfig { memory := m } moves = [.silent, .silent,
      .issued ⟨1, 0⟩ sampleSubject second, .lost first.record (.error .concurrentModification)] := by
    change log sampleConfig _ ([_, _] ++ [_] ++ [_]) = _
    rw [log_concat, log_concat, run_concat, hlog]
    generalize run sampleConfig { memory := m }
      [.read 0 ⟨1, 0⟩ first.accessToken first.refreshToken, .check 0 ⟨1, 0⟩] = w at hmemory hstage
    have hexpiries : (sampleConfig.expiries? ⟨2, 0⟩).isSome = true := by decide
    have hlate := step_write_of_version_ne (w := { w with memory := m' }) hstage
      (hsubject ▸ hfound') (by omega) hexpiries ⟨9⟩
    rw [step_issue (hmemory ▸ hsecond)]
    dsimp only
    rw [hlate]
    rfl
  have hlive : ({ memory := m } : World).find sampleSubject.id = some first.record := hfound
  have hrevoked : ¬ Revoked sampleSubject.id (log sampleConfig { memory := m } moves) := by
    rw [hmoves]
    simp [Revoked]
  obtain ⟨⟨r, hr, hledger⟩, -⟩ := interleaved_writes_add_up hlive hrevoked
  refine ⟨hfirst, hmoves, r, hr, ?_⟩
  have hwrites : writes sampleSubject.id [.silent, .silent, .issued ⟨1, 0⟩ sampleSubject second,
      .lost first.record (.error .concurrentModification)] = [.issue ⟨1, 0⟩ second.record] := rfl
  rw [hledger.version, hmoves, hwrites, hfirstVersion]
  rfl

/-- The last span that can be counted from the start of 1970. -/
def lastSpan : Span := ⟨8210266876799, by decide⟩

/-- A service whose refresh tokens live until the calendar ends. -/
def lastingConfig : TokenConfig := { sampleConfig with refreshLifetime := lastSpan }

/-- The calendar ends between the check of a refresh and its write: the refresh has passed its checks and
is neither answered nor late. -/
theorem calendar_overtakes_refresh :
    ∃ first k m,
      let before := [.read 0 ⟨0, 0⟩ first.accessToken first.refreshToken, .check 0 ⟨0, 0⟩]
      let w := run lastingConfig { memory := m } before
      let after := step lastingConfig w (.write 0 ⟨1, 0⟩ ⟨5⟩)
      lastingConfig.issue Memory.recordAccess sampleSubject ⟨0, 0⟩ sampleDraws {} = (.ok first, m) ∧
      ({ memory := m } : World).find sampleSubject.id = some first.record ∧
      log lastingConfig { memory := m } before = [.silent, .silent] ∧
      w.stage 0 = .checked k first.refreshToken first.record ∧
      after.1 = .lost first.record .overflow ∧
      ¬ Settled w after.2 ⟨1, 0⟩ first.record after.1 := by
  have hexpiries : lastingConfig.expiries? ⟨0, 0⟩ = some (⟨900, 0⟩, ⟨8210266876799, 0⟩) := by decide
  have hnone : lastingConfig.expiries? ⟨1, 0⟩ = none := by decide
  obtain ⟨first, k, m, hfirst, -, hfound, hlog, -, hstage⟩ := issue_read_check hexpiries (by decide)
    (by decide) sampleSubject sampleDraws ⟨0, 0⟩ (by decide) (by decide)
  refine ⟨first, k, m, ?_⟩
  intro before w after
  have hafter : after = _ := step_write_of_overflow hstage hnone ⟨5⟩
  refine ⟨hfirst, hfound, hlog, hstage, congrArg Prod.fst hafter, ?_⟩
  rw [hafter]
  exact nofun

end Gatehouse.Interleaving
