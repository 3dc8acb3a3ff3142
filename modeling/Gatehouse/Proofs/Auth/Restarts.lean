import Gatehouse.Proofs.Text.Blank
import Gatehouse.Proofs.Text.Utf8
import Gatehouse.Settings

/-!
# Secrets across restarts

A secret is looked for in the environment, then in its file (`SecretFile.found?`). Only if it is found in neither is
one drawn, and the file written. The text of the variable counts as it is and the text of the file is trimmed, and both
tests for emptiness are part of that search. So everything else follows from two facts: a secret that is found is the
answer to every call and leaves the file as it is (`SecretFile.resolve_of_found`), and the answer of any call is found
afterwards, unless it had to be kept in the file and the file cannot be written, or cannot be read
(`SecretFile.exists_resolve_eq`).

`SecretFile.secret_outlives_restarts` says what follows for all later calls, `SecretFile.survives_iff` that a secret
survives in no other way, and `Settings.restart_eq_iff` when a server that is started again has the settings that it
had before, the keys of its tokens among them. A variable that is not empty but holds no text does not count, nor does
a file that can be written but not read (`SecretFile.secret_is_lost`).
-/

namespace Gatehouse

/-! ### What is drawn -/

namespace FreshSecret

variable (s : FreshSecret)

theorem text_ne_empty : s.text ≠ "" := by
  intro h
  have hsymbols : s.symbols = [] := String.ofList_eq_empty_iff.mp h
  exact absurd (hsymbols ▸ s.size) (by decide)

/-- A drawn secret is read back from its file as it was written. -/
theorem trimmed_text : Text.Trimmed s.text := by
  have hblank {c : Char} (hc : c ∈ s.symbols) : Text.isBlank c = false :=
    Text.isBlank_of_isAlphanum (s.alphanumeric c hc)
  constructor
  · intro c hc
    rw [text, String.toList_ofList] at hc
    exact hblank (List.mem_of_head? hc)
  · intro c hc
    rw [text, String.toList_ofList] at hc
    exact hblank (List.mem_of_getLast? hc)

/-- Not always the same is drawn. -/
theorem text_zero_ne_text_one : (ofNat 0).text ≠ (ofNat 1).text := by
  intro h
  have hsymbols : draw 64 0 = draw 64 1 := String.ofList_injective h
  exact absurd hsymbols (by decide)

end FreshSecret

/-! ### What is given -/

namespace EnvironmentValue

variable {v : EnvironmentValue}

/-- A value has a text exactly if its bytes spell one. -/
theorem text?_eq_some_iff {s : String} : v.text? = some s ↔ Utf8.decode v.bytes = .ok s := by
  cases v with
  | text t =>
    rw [text?, bytes, Utf8.decode_encode]
    simp
  | raw b noText =>
    constructor
    · exact nofun
    · intro hdecode
      rw [bytes] at hdecode
      rw [hdecode] at noText
      exact absurd noText nofun

/-- The empty value is the empty text. -/
theorem bytes_eq_nil_iff : v.bytes = [] ↔ v.text? = some "" := by
  rw [text?_eq_some_iff, Utf8.decode_eq_ok_iff]
  rfl

end EnvironmentValue

/-! ### What is found -/

namespace SecretFile

variable {f : SecretFile} {given : Option String} {secret : String}

/-- A secret is there: the variable holds text that is not empty, or text that is not blank is read from the file. -/
def Provided (f : SecretFile) (given : Option String) : Prop :=
  (∃ value ∈ given, value ≠ "") ∨ ∃ text ∈ f.read, Text.isBlankText text = false

/-- What is written to the file is read from it later. -/
def Keeps (f : SecretFile) : Prop := f.writable = true ∧ f.readable = true

/-- The variable counts as it is, the text of the file without the blanks around it. -/
theorem found?_eq_some_iff : f.found? given = some secret ↔
    secret ≠ "" ∧ (given = some secret ∨ (∀ value ∈ given, value = "") ∧ ∃ text ∈ f.read, Text.trim text = secret) := by
  have hgiven : given.filter (· ≠ "") = some secret ↔ given = some secret ∧ secret ≠ "" := by
    rw [Option.filter_eq_some_iff, decide_eq_true_eq]
  have hnone : given.filter (· ≠ "") = none ↔ ∀ value ∈ given, value = "" := by
    simp only [Option.filter_eq_none_iff, decide_eq_true_eq, ne_eq, not_not, Option.mem_def]
  have hfile : f.secret = some secret ↔ (∃ text ∈ f.read, Text.trim text = secret) ∧ secret ≠ "" := by
    rw [SecretFile.secret, Option.filter_eq_some_iff, Option.map_eq_some_iff, decide_eq_true_eq]
    rfl
  rw [found?, Option.or_eq_some_iff, hgiven, hnone, hfile]
  constructor
  · rintro (⟨hvalue, hne⟩ | ⟨hempty, hkept, hne⟩)
    · exact ⟨hne, .inl hvalue⟩
    · exact ⟨hne, .inr ⟨hempty, hkept⟩⟩
  · rintro ⟨hne, hvalue | ⟨hempty, hkept⟩⟩
    · exact .inl ⟨hvalue, hne⟩
    · exact .inr ⟨hempty, hkept, hne⟩

/-- **Both tests for emptiness at once**: something is found exactly if the text of the variable is not empty or the
text of the file is not blank. -/
theorem exists_found?_iff : (∃ secret, f.found? given = some secret) ↔ f.Provided given := by
  simp only [found?_eq_some_iff]
  constructor
  · rintro ⟨secret, hne, hgiven | ⟨-, text, htext, rfl⟩⟩
    · exact .inl ⟨secret, hgiven, hne⟩
    · right
      exact ⟨text, htext, Bool.eq_false_iff.mpr fun hblank => hne (Text.trim_eq_empty_iff.mpr hblank)⟩
  · intro h
    by_cases hgiven : ∃ value ∈ given, value ≠ ""
    · obtain ⟨value, hvalue, hne⟩ := hgiven
      exact ⟨value, hne, .inl hvalue⟩
    · obtain ⟨text, htext, hblank⟩ := h.resolve_left hgiven
      push Not at hgiven
      refine ⟨Text.trim text, fun hempty => ?_, .inr ⟨hgiven, text, htext, rfl⟩⟩
      rw [Text.trim_eq_empty_iff, hblank] at hempty
      exact Bool.false_ne_true hempty

theorem found?_eq_none_iff : f.found? given = none ↔ ¬ f.Provided given := by
  rw [← exists_found?_iff, ← Option.ne_none_iff_exists', not_not]

/-! ### One call -/

/-- What is read after a text was written. -/
theorem read_write_of_keeps (h : f.Keeps) (text : String) : (f.write text).read = some text := by
  obtain ⟨hwritable, hreadable⟩ := h
  rw [write, if_pos hwritable, read]
  exact if_pos hreadable

/-- In a file that keeps nothing one reads what one read before. -/
theorem read_write_of_not_keeps (h : ¬ f.Keeps) (text : String) : (f.write text).read = f.read := by
  rw [write]
  split
  next hwritable =>
    have hreadable : ¬ f.readable = true := fun hreadable => h ⟨hwritable, hreadable⟩
    rw [read, read, if_neg hreadable]
    exact if_neg hreadable
  · rfl

/-- A drawn secret is found from then on, if the file keeps it. -/
theorem found?_write_of_keeps (hkeeps : f.Keeps) (h : f.found? given = none) (fresh : FreshSecret) :
    (f.write fresh.text).found? given = some fresh.text := by
  have hgiven : ∀ value ∈ given, value = "" := by
    intro value hvalue
    by_contra hne
    exact found?_eq_none_iff.mp h (.inl ⟨value, hvalue, hne⟩)
  exact found?_eq_some_iff.mpr
    ⟨fresh.text_ne_empty, .inr ⟨hgiven, fresh.text, read_write_of_keeps hkeeps _, fresh.trimmed_text.trim_eq⟩⟩

/-- Else it is not. -/
theorem found?_write_of_not_keeps (hkeeps : ¬ f.Keeps) (text : String) :
    (f.write text).found? given = f.found? given := by
  rw [found?, found?, SecretFile.secret, SecretFile.secret, read_write_of_not_keeps hkeeps]

/-- The answer is never empty. -/
theorem resolve_ne_empty (f : SecretFile) (given : Option String) (fresh : FreshSecret) :
    (f.resolve given fresh).1 ≠ "" := by
  cases hfound : f.found? given with
  | some secret =>
    rw [resolve_of_found hfound]
    exact (found?_eq_some_iff.mp hfound).1
  | none =>
    rw [resolve_of_not_found hfound]
    exact fresh.text_ne_empty

/-- **After any call its answer is found**, unless no secret was there and the file does not keep any. -/
theorem exists_resolve_eq (h : f.Provided given ∨ f.Keeps) (fresh : FreshSecret) :
    ∃ secret kept, f.resolve given fresh = (secret, kept) ∧ kept.found? given = some secret := by
  cases hfound : f.found? given with
  | some secret => exact ⟨secret, f, resolve_of_found hfound fresh, hfound⟩
  | none =>
    have hkeeps : f.Keeps := h.resolve_left (found?_eq_none_iff.mp hfound)
    exact ⟨_, _, resolve_of_not_found hfound fresh, found?_write_of_keeps hkeeps hfound fresh⟩

/-- **When a secret survives.** The next call answers with the same secret, whatever the two would draw, exactly if a
secret is there or the file keeps what is written to it. -/
theorem survives_iff :
    (∀ fresh later, ((f.resolve given fresh).2.resolve given later).1 = (f.resolve given fresh).1) ↔
      f.Provided given ∨ f.Keeps := by
  constructor
  · intro h
    by_contra hlost
    obtain ⟨hprovided, hkeeps⟩ := not_or.mp hlost
    have hnone : f.found? given = none := found?_eq_none_iff.mpr hprovided
    -- nothing is found by the second call either, so each answers with what it draws
    have hsame := h (.ofNat 0) (.ofNat 1)
    rw [resolve_of_not_found hnone, resolve_of_not_found ((found?_write_of_not_keeps hkeeps _).trans hnone)] at hsame
    exact FreshSecret.text_zero_ne_text_one hsame.symm
  · intro h fresh later
    obtain ⟨secret, kept, hresolve, hfound⟩ := exists_resolve_eq h fresh
    rw [hresolve, resolve_of_found hfound]

/-! ### Call after call -/

/-- One call after the other, with what each would draw: the answers, and the file after each. -/
def calls (given : Option String) : SecretFile → List FreshSecret → List (String × SecretFile)
  | _, [] => []
  | f, fresh :: draws => f.resolve given fresh :: calls given (f.resolve given fresh).2 draws

/-- A secret that is found is the answer to all calls, and none of them changes the file. -/
theorem eq_of_mem_calls (h : f.found? given = some secret) {draws : List FreshSecret} {call : String × SecretFile}
    (hcall : call ∈ calls given f draws) : call = (secret, f) := by
  induction draws with
  | nil => exact absurd hcall List.not_mem_nil
  | cons fresh draws ih =>
    rw [calls, resolve_of_found h] at hcall
    rcases List.mem_cons.mp hcall with rfl | hlater
    · rfl
    · exact ih hlater

/-- **A secret outlives restarts.** Every call answers with a secret that is not empty. If the variable holds text that
is not empty, or text that is not blank is read from the file, or the file can be both written and read, then every
later call in the same environment answers with the secret of the first and leaves the file as it is. If the variable
holds text that is not empty, or text that is not blank is read from the file, nothing is ever written: after any
number of calls the file is what it was. -/
theorem secret_outlives_restarts (env : Environment) (name : String) (f : SecretFile) :
    (∀ fresh, (f.resolve (env.get? name) fresh).1 ≠ "") ∧
    (f.Provided (env.get? name) ∨ f.Keeps →
      ∀ fresh, ∃ secret kept, f.resolve (env.get? name) fresh = (secret, kept) ∧
        ∀ draws, ∀ call ∈ calls (env.get? name) kept draws, call = (secret, kept)) ∧
    (f.Provided (env.get? name) → ∀ draws, ∀ call ∈ calls (env.get? name) f draws, call.2 = f) := by
  refine ⟨f.resolve_ne_empty _, ?_, ?_⟩
  · intro h fresh
    obtain ⟨secret, kept, hresolve, hfound⟩ := exists_resolve_eq h fresh
    exact ⟨secret, kept, hresolve, fun _ _ hcall => eq_of_mem_calls hfound hcall⟩
  · intro h draws call hcall
    obtain ⟨secret, hfound⟩ := exists_found?_iff.mpr h
    rw [eq_of_mem_calls hfound hcall]

/-- The variable is empty and the file blank, so that a secret is drawn and kept; or the variable is not set, and the
text of the file counts without the blanks around it. -/
theorem sample_secret_outlives_restarts :
    (∃ kept, ({ text := some " \n" } : SecretFile).resolve (some "") (.ofNat 7) = ((FreshSecret.ofNat 7).text, kept) ∧
      (FreshSecret.ofNat 7).text ≠ "" ∧
        ∀ draws, ∀ call ∈ calls (some "") kept draws, call = ((FreshSecret.ofNat 7).text, kept)) ∧
    ∀ draws, ∀ call ∈ calls none { text := some " s3cret\n" } draws, call.2 = { text := some " s3cret\n" } := by
  constructor
  · obtain ⟨hne, hlasts, -⟩ := secret_outlives_restarts [("JWT_SECRET", "")] "JWT_SECRET" { text := some " \n" }
    obtain ⟨secret, kept, hresolve, hlater⟩ := hlasts (.inr ⟨rfl, rfl⟩) (.ofNat 7)
    obtain rfl : (FreshSecret.ofNat 7).text = secret := congrArg Prod.fst hresolve
    exact ⟨kept, hresolve, hne (.ofNat 7), hlater⟩
  · obtain ⟨-, -, hkept⟩ := secret_outlives_restarts [] "JWT_SECRET" { text := some " s3cret\n" }
    exact hkept (.inr ⟨" s3cret\n", rfl, by decide⟩)

/-! ### What does not count -/

/-- The variable is not empty, but its bytes are no text. -/
def garbledEnvironment : Environment := [("JWT_SECRET", .raw [0x9F, 0xFF, 0x41] rfl)]

/-- The file holds text that is not blank, and can be written but not read. -/
def unreadableFile : SecretFile := ⟨some "s3cret", ⟨false, true⟩⟩

/-- A variable that is not empty but holds no text does not keep a secret from being drawn and written. And with a
file that can be written but not read, whatever it holds, each call answers with what it draws. -/
theorem secret_is_lost :
    ((∃ value ∈ garbledEnvironment.value? "JWT_SECRET", value.bytes ≠ []) ∧
      ({} : SecretFile).resolve (garbledEnvironment.get? "JWT_SECRET") (.ofNat 0) =
        ((FreshSecret.ofNat 0).text, { text := some (FreshSecret.ofNat 0).text })) ∧
    unreadableFile.writable = true ∧ (∃ text ∈ unreadableFile.text, Text.isBlankText text = false) ∧
      ((unreadableFile.resolve none (.ofNat 0)).2.resolve none (.ofNat 1)).1 ≠
        (unreadableFile.resolve none (.ofNat 0)).1 := by
  refine ⟨⟨⟨_, rfl, by decide⟩, resolve_of_not_found rfl _⟩, rfl, ⟨"s3cret", rfl, by decide⟩, ?_⟩
  have hnone : unreadableFile.found? none = none := rfl
  rw [resolve_of_not_found hnone, resolve_of_not_found rfl]
  exact FreshSecret.text_zero_ne_text_one.symm

end SecretFile

/-! ### Starting again -/

namespace Settings

variable {env : Environment} {dir : DataDirectory}

/-- **When a server that is started again has the settings that it had before**, and leaves its directory as it is,
whatever the two starts would draw: exactly if each of its secrets is there or is kept in its file. -/
theorem restart_eq_iff :
    (∀ freshAccess freshRefresh laterAccess laterRefresh,
      ofEnvironment env (ofEnvironment env dir freshAccess freshRefresh).2 laterAccess laterRefresh =
        ofEnvironment env dir freshAccess freshRefresh) ↔
    (dir.accessSecret.Provided (env.get? "JWT_SECRET") ∨ dir.accessSecret.Keeps) ∧
      (dir.refreshSecret.Provided (env.get? "JWT_REFRESH_SECRET") ∨ dir.refreshSecret.Keeps) := by
  constructor
  · intro h
    constructor
    · refine SecretFile.survives_iff.mp fun fresh later => ?_
      exact congrArg (fun start => start.1.accessSecret) (h fresh fresh later later)
    · refine SecretFile.survives_iff.mp fun fresh later => ?_
      exact congrArg (fun start => start.1.refreshSecret) (h fresh fresh later later)
  · rintro ⟨haccess, hrefresh⟩ freshAccess freshRefresh laterAccess laterRefresh
    obtain ⟨access, accessFile, hfirst, hfound⟩ := SecretFile.exists_resolve_eq haccess freshAccess
    obtain ⟨refresh, refreshFile, hfirst', hfound'⟩ := SecretFile.exists_resolve_eq hrefresh freshRefresh
    -- both secrets of the first start are found in the directory that it leaves
    rw [ofEnvironment.eq_def env dir, hfirst, hfirst']
    dsimp only
    rw [ofEnvironment, SecretFile.resolve_of_found hfound, SecretFile.resolve_of_found hfound']

end Settings

end Gatehouse
