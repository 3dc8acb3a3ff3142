import Gatehouse.Text.Blank

/-!
# Signing secrets

A signing secret comes from the environment, else from its file, else it is drawn at random and written to
that file, so that it is the same the next time. A file that can be written need not be one that can be read.
-/

namespace Gatehouse

/-- A secret drawn at random: 64 letters and digits. -/
structure FreshSecret where
  symbols : List Char
  size : symbols.length = 64
  alphanumeric : ∀ c ∈ symbols, c.isAlphanum = true

namespace FreshSecret

/-- The letters and digits. -/
def alphabet : List Char :=
  "ABCDEFGHIJKLMNOPQRSTUVWXYZabcdefghijklmnopqrstuvwxyz0123456789".toList

/-- The letters and digits are such. -/
theorem isAlphanum_of_mem_alphabet {c : Char} (h : c ∈ alphabet) : c.isAlphanum = true :=
  List.all_eq_true.1 (show alphabet.all Char.isAlphanum = true by decide +kernel) c h

/-- The letter or digit of a number. -/
def symbol (n : Nat) : Char :=
  alphabet.get ⟨n % 62, Nat.lt_of_lt_of_eq (Nat.mod_lt n (by decide)) (by decide +kernel)⟩

/-- As many letters and digits, taken from a number. -/
def draw : (count : Nat) → Nat → List Char
  | 0, _ => []
  | count + 1, n => symbol n :: draw count (n / 62)

/-- The number of symbols drawn. -/
theorem length_draw (count n : Nat) : (draw count n).length = count := by
  induction count generalizing n with
  | zero => rfl
  | succ count ih => simp [draw, ih]

/-- What is drawn is letters and digits. -/
theorem isAlphanum_of_mem_draw {count n : Nat} {c : Char} (h : c ∈ draw count n) :
    c.isAlphanum = true := by
  induction count generalizing n with
  | zero => simp [draw] at h
  | succ count ih =>
    rcases List.mem_cons.1 h with rfl | h
    · exact isAlphanum_of_mem_alphabet (List.get_mem _ _)
    · exact ih h

/-- The secret that a number stands for. -/
def ofNat (n : Nat) : FreshSecret :=
  ⟨draw 64 n, length_draw 64 n, fun _ h => isAlphanum_of_mem_draw h⟩

/-- The secret as a text. -/
def text (s : FreshSecret) : String := String.ofList s.symbols

end FreshSecret

/-- What is allowed with a file. -/
structure Permissions where
  readable : Bool := true
  writable : Bool := true
  deriving DecidableEq, Repr

/-- Both are allowed, or neither. -/
instance : Coe Bool Permissions := ⟨fun allowed => ⟨allowed, allowed⟩⟩

/-- The file in which a secret is kept. -/
structure SecretFile where
  /-- The text that the file holds. There is none if there is no file, or its bytes are no text. -/
  text : Option String := none
  /-- What is allowed with the file, or will be with the one that a call makes. -/
  permissions : Permissions := {}
  deriving DecidableEq, Repr

namespace SecretFile

/-- The file can be read. -/
def readable (f : SecretFile) : Bool := f.permissions.readable

/-- The file can be written. -/
def writable (f : SecretFile) : Bool := f.permissions.writable

/-- Read the text, if the file can be read. -/
def read (f : SecretFile) : Option String := if f.readable then f.text else none

/-- Write a text, if the file can be written. -/
def write (f : SecretFile) (text : String) : SecretFile :=
  if f.writable then { f with text := some text } else f

/-- The secret that is read from the file, without blanks around it. -/
def secret (f : SecretFile) : Option String := (f.read.map Text.trim).filter (· ≠ "")

/-- The secret, given the variable of the environment, and the file afterwards. -/
def resolve (f : SecretFile) (given : Option String) (fresh : FreshSecret) :
    String × SecretFile :=
  match given.filter (· ≠ "") with
  | some secret => (secret, f)
  | none =>
    match f.secret with
    | some secret => (secret, f)
    | none => (fresh.text, f.write fresh.text)

/-- The secret that is there before any is drawn: the one in the environment, else the one in the file. -/
def found? (f : SecretFile) (given : Option String) : Option String :=
  (given.filter (· ≠ "")).or f.secret

variable {f : SecretFile} {given : Option String} {secret : String}

/-- A secret that is found is the answer, and the file is left as it is. -/
theorem resolve_of_found (h : f.found? given = some secret) (fresh : FreshSecret) :
    f.resolve given fresh = (secret, f) := by
  rw [found?, Option.or_eq_some_iff] at h
  rcases h with hgiven | ⟨hnone, hfile⟩
  · rw [resolve, hgiven]
  · rw [resolve, hnone]
    dsimp only
    rw [hfile]

/-- Else a secret is drawn, and written to the file. -/
theorem resolve_of_not_found (h : f.found? given = none) (fresh : FreshSecret) :
    f.resolve given fresh = (fresh.text, f.write fresh.text) := by
  obtain ⟨hnone, hfile⟩ := Option.or_eq_none_iff.mp h
  rw [resolve, hnone]
  dsimp only
  rw [hfile]

end SecretFile

end Gatehouse
