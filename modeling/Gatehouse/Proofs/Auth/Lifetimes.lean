import Gatehouse.Proofs.Auth.TokenKinds
import Gatehouse.Proofs.Server.Totality

/-!
# Lifetimes that never overflow

A lifetime is read from the environment as a positive number, and nothing else is asked of it. But a span has an
upper bound (`Span.longest`), and the calendar ends long before the longest span does. So there are two limits:
beyond the one there is no configuration at all, and beyond the other (`TokenConfig.longestLifetime`) there is a
time before the end of the year 9999 at which tokens cannot be signed. Within both limits everything that mints
tokens settles at every such time (`Settings.lifetimes_are_safe_iff`).
-/

namespace Gatehouse

/-! ### Times -/

namespace Instant

/-- The end of the year 9999. -/
def eraEnd : Int := (Date.mk 10000 1 1).dayNumber * secondsPerDay

theorem eraEnd_eq : eraEnd = 253402300800 := by decide

/-- The instant lies between the start of 1970 and the end of 9999. -/
def InEra (t : Instant) : Prop := 0 ≤ t.second ∧ t.second < eraEnd

/-- An instant can be moved forward as long as that does not lead out of the calendar. -/
theorem isSome_add?_iff {t : Instant} {span : Span} (h : 0 < span.seconds) :
    (t.add? span).isSome = true ↔ firstSecond ≤ t.second + span.seconds ∧ t.second + span.seconds < endSecond := by
  have hmoved (nano : Nat) : (if inCalendar ⟨t.second + span.seconds, nano⟩ then
      some (⟨t.second + span.seconds, nano⟩ : Instant) else none).isSome = true ↔
      firstSecond ≤ t.second + span.seconds ∧ t.second + span.seconds < endSecond := by
    simp [inCalendar]
  rw [add?, if_pos h]
  split
  · exact hmoved _
  · exact hmoved _

end Instant

namespace TokenConfig

/-- The longest lifetime whose expiry lies in the calendar whenever a token is minted before the end of the
year 9999. -/
def longestLifetime : Int := Instant.endSecond - Instant.eraEnd

theorem longestLifetime_eq : longestLifetime = 7956864576000 := by
  rw [longestLifetime, Instant.endSecond_eq, Instant.eraEnd_eq]
  rfl

/-- At every time from 1970 to 9999, tokens of both kinds are signed, and issuing and refreshing settle over any
store. -/
structure MintsThroughout (c : TokenConfig) : Prop where
  signs : ∀ now : Instant, now.InEra → ∀ s kind tokenId, (c.sign? s kind now tokenId).isSome = true
  issues : ∀ now : Instant, now.InEra → ∀ {σ : Type} (store : RecordAccess σ) s draws,
    (c.issue store s now draws).Settles
  refreshes : ∀ now : Instant, now.InEra → ∀ {σ : Type} (store : RecordAccess σ) access token accessId,
    (c.refresh store access token now accessId).Settles

variable {c : TokenConfig}

/-- A token is signed exactly if its expiry lies in the calendar. -/
theorem isSome_sign?_iff {s : Subject} {kind : TokenKind} {now : Instant} {tokenId : String} :
    (c.sign? s kind now tokenId).isSome = true ↔ (now.add? (c.lifetime kind)).isSome = true := by
  rw [sign?, Claims.mint?_eq, Option.isSome_map, Option.isSome_map]

/-- Positive lifetimes never overflow before the year 10000 exactly if both are within the limit. -/
theorem mintsThroughout_iff (hpositive : ∀ kind, 0 < (c.lifetime kind).seconds) :
    c.MintsThroughout ↔ ∀ kind, (c.lifetime kind).seconds ≤ longestLifetime := by
  constructor
  · intro h kind
    -- the last second of the era is where the limit is reached
    have hlast : (⟨Instant.eraEnd - 1, 0⟩ : Instant).InEra := by
      rw [Instant.InEra, Instant.eraEnd_eq]
      decide
    have hsigned := h.signs _ hlast ⟨"", "", ""⟩ kind ""
    rw [isSome_sign?_iff, Instant.isSome_add?_iff (hpositive kind)] at hsigned
    dsimp only at hsigned
    rw [longestLifetime]
    omega
  · intro h
    have hexpiries {now : Instant} (hnow : now.InEra) : (c.expiries? now).isSome = true := by
      have hadd (kind : TokenKind) : (now.add? (c.lifetime kind)).isSome = true := by
        have hpos := hpositive kind
        have hbound := h kind
        rw [Instant.InEra] at hnow
        rw [longestLifetime] at hbound
        rw [Instant.isSome_add?_iff hpos, Instant.firstSecond_eq]
        omega
      obtain ⟨access, haccess⟩ := Option.isSome_iff_exists.mp (hadd .access)
      obtain ⟨refresh, hrefresh⟩ := Option.isSome_iff_exists.mp (hadd .refresh)
      exact Option.isSome_of_eq_some (c.expiries?_eq_some_iff.mpr ⟨haccess, hrefresh⟩)
    exact ⟨fun now hnow s kind tokenId => isSome_sign? (hexpiries hnow) s kind tokenId,
      fun now hnow _ store s draws => settles_issue store (hexpiries hnow) s draws,
      fun now hnow _ store access token accessId => settles_refresh store (hexpiries hnow) access token accessId⟩

end TokenConfig

/-! ### Settings -/

namespace Environment

variable {env : Environment} {name : String} {default : Nat}

/-- A variable holds a number beyond a limit. -/
def Exceeds (env : Environment) (name : String) (limit : Int) : Prop :=
  ∃ n, (env.get? name).bind Text.integer? = some n ∧ limit < n

theorem positive_pos (h : 0 < default) : 0 < env.positive name default := by
  rw [positive]
  split
  · split
    · omega
    · exact h
  · exact h

/-- A positive number is within a limit, and the default too, unless the variable holds one beyond it. -/
theorem positive_le_iff {limit : Int} (hdefault : (default : Int) ≤ limit) :
    (env.positive name default : Int) ≤ limit ↔ ¬ env.Exceeds name limit := by
  rw [positive, Exceeds]
  cases (env.get? name).bind Text.integer? with
  | none => simpa using hdefault
  | some n =>
    simp only [Option.some.injEq, exists_eq_left', Int.not_lt]
    split <;> omega

end Environment

/-- A span is that of its seconds. -/
theorem Span.ofSeconds?_eq_some_iff {n : Int} {span : Span} : Span.ofSeconds? n = some span ↔ span.seconds = n := by
  constructor
  · intro h
    obtain ⟨_, hspan⟩ := Option.dite_none_right_eq_some.mp h
    exact congrArg Span.seconds (Option.some.inj hspan).symm
  · rintro rfl
    exact dif_pos span.bounded

/-- As many seconds as a natural number says are a span, unless they are too many. -/
theorem Span.exists_ofSeconds?_iff {n : Nat} : (∃ span, Span.ofSeconds? n = some span) ↔ (n : Int) ≤ Span.longest := by
  simp only [Span.ofSeconds?_eq_some_iff]
  constructor
  · rintro ⟨span, hspan⟩
    exact hspan ▸ span.bounded.2
  · intro h
    exact ⟨⟨n, by rw [Span.longest]; omega, h⟩, rfl⟩

namespace Settings

variable {s : Settings}

/-- The lifetimes of a configuration are those of its settings. -/
theorem lifetimes_of_tokenConfig?_eq_some {c : TokenConfig} (h : s.tokenConfig? = some c) :
    c.accessLifetime.seconds = s.accessSeconds ∧ c.refreshLifetime.seconds = s.refreshSeconds := by
  obtain ⟨access, haccess, h⟩ := Option.bind_eq_some_iff.mp h
  obtain ⟨refresh, hrefresh, h⟩ := Option.bind_eq_some_iff.mp h
  obtain rfl := Option.some.inj h
  exact ⟨Span.ofSeconds?_eq_some_iff.mp haccess, Span.ofSeconds?_eq_some_iff.mp hrefresh⟩

/-- There is a configuration exactly if both lifetimes are spans. -/
theorem exists_tokenConfig?_iff : (∃ c, s.tokenConfig? = some c) ↔
    (s.accessSeconds : Int) ≤ Span.longest ∧ (s.refreshSeconds : Int) ≤ Span.longest := by
  rw [← Span.exists_ofSeconds?_iff, ← Span.exists_ofSeconds?_iff]
  constructor
  · rintro ⟨c, hc⟩
    obtain ⟨access, haccess, hc⟩ := Option.bind_eq_some_iff.mp hc
    obtain ⟨refresh, hrefresh, -⟩ := Option.bind_eq_some_iff.mp hc
    exact ⟨⟨access, haccess⟩, refresh, hrefresh⟩
  · rintro ⟨⟨access, haccess⟩, refresh, hrefresh⟩
    rw [tokenConfig?, haccess, hrefresh]
    exact ⟨_, rfl⟩

section

variable (env : Environment) (dir : DataDirectory) (freshAccess freshRefresh : FreshSecret)

/-- The lifetimes that an environment sets are within a limit, if the defaults are, unless they are given beyond
it. -/
theorem lifetimes_le_iff {limit : Int} (haccess : 900 ≤ limit) (hrefresh : 2592000 ≤ limit) :
    ((ofEnvironment env dir freshAccess freshRefresh).1.accessSeconds : Int) ≤ limit ∧
        ((ofEnvironment env dir freshAccess freshRefresh).1.refreshSeconds : Int) ≤ limit ↔
      ¬ env.Exceeds "JWT_EXPIRES_IN" limit ∧ ¬ env.Exceeds "JWT_REFRESH_EXPIRES_IN" limit :=
  and_congr (Environment.positive_le_iff haccess) (Environment.positive_le_iff hrefresh)

/-- The lifetimes that an environment sets are positive. -/
theorem lifetime_pos {c : TokenConfig}
    (hc : (ofEnvironment env dir freshAccess freshRefresh).1.tokenConfig? = some c) (kind : TokenKind) :
    0 < (c.lifetime kind).seconds := by
  obtain ⟨haccess, hrefresh⟩ := lifetimes_of_tokenConfig?_eq_some hc
  cases kind with
  | access =>
    have hpos : 0 < env.positive "JWT_EXPIRES_IN" 900 := Environment.positive_pos (Nat.zero_lt_succ _)
    rw [TokenConfig.lifetime, haccess]
    exact Int.natCast_pos.mpr hpos
  | refresh =>
    have hpos : 0 < env.positive "JWT_REFRESH_EXPIRES_IN" 2592000 := Environment.positive_pos (Nat.zero_lt_succ _)
    rw [TokenConfig.lifetime, hrefresh]
    exact Int.natCast_pos.mpr hpos

/-- Under the configuration of an environment tokens are minted throughout exactly if both lifetimes are within the
limit. -/
theorem mintsThroughout_iff_of_tokenConfig? {c : TokenConfig}
    (hc : (ofEnvironment env dir freshAccess freshRefresh).1.tokenConfig? = some c) :
    c.MintsThroughout ↔
      ¬ env.Exceeds "JWT_EXPIRES_IN" TokenConfig.longestLifetime ∧
        ¬ env.Exceeds "JWT_REFRESH_EXPIRES_IN" TokenConfig.longestLifetime := by
  obtain ⟨haccess, hrefresh⟩ := lifetimes_of_tokenConfig?_eq_some hc
  have hlimit := TokenConfig.longestLifetime_eq
  rw [TokenConfig.mintsThroughout_iff (lifetime_pos env dir freshAccess freshRefresh hc),
    ← lifetimes_le_iff env dir freshAccess freshRefresh (by omega) (by omega), ← haccess, ← hrefresh]
  constructor
  · intro h
    exact ⟨h .access, h .refresh⟩
  · rintro ⟨h, h'⟩ (_ | _)
    · exact h
    · exact h'

end

/-- **Which lifetimes are safe.** Of an environment there is a configuration exactly if neither lifetime is given
as a number beyond the longest span. Tokens are then signed, issued and refreshed at every time from 1970 to 9999
exactly if neither is given as a number beyond the longest lifetime. -/
theorem lifetimes_are_safe_iff (env : Environment) (dir : DataDirectory) (freshAccess freshRefresh : FreshSecret) :
    let settings := (ofEnvironment env dir freshAccess freshRefresh).1
    ((∃ c, settings.tokenConfig? = some c) ↔
      ¬ env.Exceeds "JWT_EXPIRES_IN" Span.longest ∧ ¬ env.Exceeds "JWT_REFRESH_EXPIRES_IN" Span.longest) ∧
    ((∃ c, settings.tokenConfig? = some c ∧ c.MintsThroughout) ↔
      ¬ env.Exceeds "JWT_EXPIRES_IN" TokenConfig.longestLifetime ∧
        ¬ env.Exceeds "JWT_REFRESH_EXPIRES_IN" TokenConfig.longestLifetime) := by
  intro settings
  have hspan : Span.longest = 9223372036854775 := rfl
  have hlimit := TokenConfig.longestLifetime_eq
  refine ⟨?_, ?_⟩
  · rw [exists_tokenConfig?_iff]
    exact lifetimes_le_iff env dir freshAccess freshRefresh (by omega) (by omega)
  · constructor
    · rintro ⟨c, hc, hmints⟩
      exact (mintsThroughout_iff_of_tokenConfig? env dir freshAccess freshRefresh hc).mp hmints
    · intro hwithin
      obtain ⟨haccess, hrefresh⟩ : (settings.accessSeconds : Int) ≤ TokenConfig.longestLifetime ∧
          (settings.refreshSeconds : Int) ≤ TokenConfig.longestLifetime :=
        (lifetimes_le_iff env dir freshAccess freshRefresh (by omega) (by omega)).mpr hwithin
      obtain ⟨c, hc⟩ : ∃ c, settings.tokenConfig? = some c :=
        exists_tokenConfig?_iff.mpr ⟨by omega, by omega⟩
      exact ⟨c, hc, (mintsThroughout_iff_of_tokenConfig? env dir freshAccess freshRefresh hc).mpr hwithin⟩

/-! ### Samples -/

/-- An environment with a lifetime for access tokens. -/
def sampleLasting (seconds : String) : Environment :=
  ("JWT_EXPIRES_IN", seconds) :: TokenConfig.sampleEnvironment "a" "b"

/-- A lifetime beyond all spans is taken from the environment, and makes that there is no configuration; with the
longest span there is one, under which no access token can be signed in 1970. -/
theorem long_lifetimes_overflow :
    let tokens (seconds : String) :=
      (ofEnvironment (sampleLasting seconds) {} (.ofNat 0) (.ofNat 1)).1.tokenConfig?
    tokens "9223372036854775807" = none ∧
      ∃ c, tokens "9223372036854775" = some c ∧ c.sign? ⟨"ada", "u1", "user"⟩ .access ⟨0, 0⟩ "1" = none := by
  intro tokens
  refine ⟨rfl, ?_⟩
  have hseconds : (ofEnvironment (sampleLasting "9223372036854775") {} (.ofNat 0) (.ofNat 1)).1.accessSeconds =
      9223372036854775 := rfl
  obtain ⟨c, hc⟩ : ∃ c, tokens "9223372036854775" = some c :=
    exists_tokenConfig?_iff.mpr ⟨by rw [hseconds]; decide, by decide⟩
  obtain ⟨hlifetime, -⟩ := lifetimes_of_tokenConfig?_eq_some hc
  rw [hseconds] at hlifetime
  refine ⟨c, hc, ?_⟩
  rw [← Option.not_isSome_iff_eq_none, TokenConfig.isSome_sign?_iff, TokenConfig.lifetime,
    Instant.isSome_add?_iff (by omega), hlifetime, Instant.endSecond_eq]
  rintro ⟨-, hend⟩
  exact absurd hend (by decide)

end Settings

end Gatehouse
