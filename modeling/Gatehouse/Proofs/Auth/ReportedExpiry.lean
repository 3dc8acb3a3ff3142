import Gatehouse.Proofs.Auth.History

/-!
# How long an answer is good

An answer reports the expiry of the subject's record. A refresh moves that expiry forward, but the
refresh token that it hands back is the one of the issue, and so are the claims signed in it. So the
tokens of an answer are taken until the refresh token of the **issue** expires
(`refresh_of_answer_isOk_iff`), which is the expiry reported with the issue and earlier than the one
reported with a later refresh (`refused_before_reported_expiry`).
-/

namespace Gatehouse.Lifecycle

variable {c : TokenConfig} {log : List Entry} {m : Memory}

/-- All is in order with the tokens of the current answer until the refresh token of the current issue
expires. -/
theorem Upholds.accepts {s : String} {issue answer : Instant × IssuedTokens} {r : TokenRecord}
    (h : Upholds c s issue answer r) (hfound : m.records.find s = some r)
    {t expiry accessExpiry : Instant} (hexpiry : issue.1.add? c.refreshLifetime = some expiry)
    (haccessExpiry : answer.1.add? c.accessLifetime = some accessExpiry)
    (hnonneg : 0 ≤ expiry.second) (haccessNonneg : 0 ≤ accessExpiry.second)
    (hfuture : t.second ≤ expiry.second) (halive : t.before r.expiresAt = true) :
    ∃ a k, c.Accepts answer.2.accessToken answer.2.refreshToken t m a k r := by
  obtain ⟨x, id, expiry', rfl, hexpiry', hrefresh⟩ := h.refresh
  obtain ⟨x', id', accessExpiry', hx', haccessExpiry', haccess⟩ := h.access
  obtain rfl := Option.some.inj (hexpiry.symm.trans hexpiry')
  obtain rfl := Option.some.inj (haccessExpiry.symm.trans haccessExpiry')
  refine ⟨Claims.minted x' answer.1 accessExpiry id'.render, Claims.minted x issue.1 expiry id.render,
    ?_, ?_, hfound, hx'.trans h.subject.symm, h.subject.symm, ?_, halive⟩
  · rw [haccess]
    exact (c.verify_minted_eq_ok_iff .access haccessExpiry).mpr ⟨haccessNonneg, by simp, rfl⟩
  · rw [h.token, hrefresh]
    exact (c.verify_minted_eq_ok_iff .refresh hexpiry).mpr ⟨hnonneg, fun _ => hfuture, rfl⟩
  · rw [h.stored, h.token]

/-- **The tokens of the current answer are taken exactly until the refresh token of the current issue
expires.** The expiry that is reported is counted from the answer instead. The two agree if the answer is
the issue itself. -/
theorem refresh_of_answer_isOk_iff (h : History c log m) {s : String} {t₁ : Instant}
    {tokens : IssuedTokens} (hanswer : currentAnswer? s log = some (t₁, tokens)) {t : Instant}
    (halive : t.before tokens.record.expiresAt = true) (accessId : Uuid) :
    ∃ t₀ issued expiry accessExpiry, currentIssue? s log = some (t₀, issued) ∧
      t₀.add? c.refreshLifetime = some expiry ∧ t₁.add? c.accessLifetime = some accessExpiry ∧
      t₁.add? c.refreshLifetime = some tokens.record.expiresAt ∧
      ((c.refresh Memory.recordAccess tokens.accessToken tokens.refreshToken t accessId m).1.isOk =
          true ↔
        t.second ≤ expiry.second ∧ 0 ≤ expiry.second ∧ 0 ≤ accessExpiry.second ∧
          (c.expiries? t).isSome = true) ∧
      (t₀ = t₁ → t.second ≤ expiry.second) := by
  obtain ⟨⟨t₀, issued⟩, r, hissue, hfound, hr⟩ := h.upholds hanswer
  obtain ⟨x, id, expiry, -, hexpiry, hrefresh⟩ := hr.refresh
  obtain ⟨x', id', accessExpiry, -, haccessExpiry, haccess⟩ := hr.access
  have hrecord : tokens.record = r := hr.record
  have hreported : t₁.add? c.refreshLifetime = some tokens.record.expiresAt := by
    rw [hrecord]
    exact hr.expiresAt
  have hsame : t₀ = t₁ → t.second ≤ expiry.second := by
    rintro rfl
    obtain rfl := Option.some.inj (hexpiry.symm.trans hreported)
    exact Instant.second_le_of_before halive
  refine ⟨t₀, issued, expiry, accessExpiry, hissue, hexpiry, haccessExpiry, hreported, ?_, hsame⟩
  rw [TokenConfig.isOk_refresh_iff]
  constructor
  · rintro ⟨⟨a, k, r', haccepts⟩, hexpiries⟩
    have hverify := haccepts.access
    have hverify' := haccepts.refresh
    have htoken : tokens.refreshToken = c.minted .refresh x t₀ expiry id := hr.token.trans hrefresh
    rw [show tokens.accessToken = _ from haccess, c.verify_minted_eq_ok_iff .access haccessExpiry] at hverify
    rw [htoken, c.verify_minted_eq_ok_iff .refresh hexpiry] at hverify'
    exact ⟨hverify'.2.1 rfl, hverify'.1, hverify.1, hexpiries⟩
  · rintro ⟨hfuture, hnonneg, haccessNonneg, hexpiries⟩
    obtain ⟨a, k, haccepts⟩ := hr.accepts hfound hexpiry haccessExpiry hnonneg haccessNonneg hfuture
      (hrecord ▸ halive)
    exact ⟨⟨a, k, r, haccepts⟩, hexpiries⟩

/-- The tokens of an issue are taken a second before they expire. -/
theorem taken_before_expiry :
    ∃ tokens m,
      sampleConfig.issue Memory.recordAccess sampleSubject ⟨0, 0⟩ sampleDraws {} = (.ok tokens, m) ∧
      (sampleConfig.refresh Memory.recordAccess tokens.accessToken tokens.refreshToken ⟨3, 0⟩ ⟨5⟩
        m).1.isOk = true := by
  obtain ⟨tokens, m, hissue, -, -, hrecord, -⟩ :=
    TokenConfig.issue_of_expiries (sample_expiries 0 (by decide)) sampleSubject sampleDraws {}
  refine ⟨tokens, m, hissue, ?_⟩
  have halive : Instant.before ⟨3, 0⟩ tokens.record.expiresAt = true := by
    rw [hrecord, RecordStore.upserted_expiresAt]
    decide
  obtain ⟨t₀, issued, expiry, accessExpiry, hcurrent, hexpiry, haccessExpiry, -, hiff, -⟩ :=
    refresh_of_answer_isOk_iff ((History.start {}).issue hissue) (currentAnswer?_issued _ _ _ _)
      halive ⟨5⟩
  rw [currentIssue?_issued, Option.some.injEq, Prod.mk.injEq] at hcurrent
  obtain ⟨rfl, -⟩ := hcurrent
  obtain rfl : expiry = ⟨4, 0⟩ := Option.some.inj (hexpiry.symm.trans (by decide))
  obtain rfl : accessExpiry = ⟨900, 0⟩ := Option.some.inj (haccessExpiry.symm.trans (by decide))
  exact hiff.mpr (by decide)

/-- The tokens of a refresh are refused as expired, a second before the expiry that it reported: they
were issued six seconds before, for four. -/
theorem refused_before_reported_expiry :
    ∃ issued refreshed m₁ m₂,
      sampleConfig.issue Memory.recordAccess sampleSubject ⟨0, 0⟩ sampleDraws {} = (.ok issued, m₁) ∧
      sampleConfig.refresh Memory.recordAccess issued.accessToken issued.refreshToken ⟨3, 0⟩ ⟨5⟩ m₁ =
        (.ok refreshed, m₂) ∧
      refreshed.record.expiresAt = ⟨7, 0⟩ ∧
      (sampleConfig.refresh Memory.recordAccess refreshed.accessToken refreshed.refreshToken ⟨6, 0⟩ ⟨6⟩
        m₂).1 = .error (.error (.authentication .expired)) := by
  obtain ⟨issued, m₁, hissue, -, htoken, hrecord, -⟩ :=
    TokenConfig.issue_of_expiries (sample_expiries 0 (by decide)) sampleSubject sampleDraws {}
  have hsubject : issued.record.subject = sampleSubject.id := by
    rw [hrecord]
    rfl
  obtain ⟨a, k, haccepts⟩ := TokenConfig.accepts_of_issue hissue hsubject
    (sample_expiries 0 (by decide)) (by decide) (by decide) ⟨3, 0⟩ (by decide) (by decide)
  have hrefresh := TokenConfig.refresh_of_accepts haccepts (sample_expiries 3 (by decide)) ⟨5⟩
  refine ⟨issued, _, m₁, _, hissue, hrefresh, rfl, ?_⟩
  -- the access token is new, but the refresh token is the one that was issued
  have haccess {id} : sampleConfig.verify (sampleConfig.minted .access k.subject ⟨3, 0⟩ ⟨903, 0⟩ id)
      .access false ⟨6, 0⟩ = .ok (Claims.minted k.subject ⟨3, 0⟩ ⟨903, 0⟩ id.render) :=
    (sampleConfig.verify_minted_eq_ok_iff .access (by decide)).mpr ⟨by decide, by decide, rfl⟩
  have hexpired : sampleConfig.verify issued.refreshToken .refresh true ⟨6, 0⟩ = .error .expired := by
    rw [htoken, sampleConfig.verify_minted .refresh (by decide)]
    rfl
  have htokens {id} : sampleConfig.checkTokens
      (sampleConfig.minted .access k.subject ⟨3, 0⟩ ⟨903, 0⟩ id) issued.refreshToken ⟨6, 0⟩ =
        .error (.authentication .expired) := by
    rw [TokenConfig.checkTokens, haccess, hexpired]
    rfl
  exact congrArg Prod.fst (TokenConfig.refresh_of_checkTokens_eq_error htokens)

end Gatehouse.Lifecycle
