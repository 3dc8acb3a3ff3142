import Gatehouse.Json.Printer
import Gatehouse.Json.Token

/-!
# The tokens of written JSON

The scanner, run over what the printer writes, gives the tokens that the value consists of. It is
followed through a string (`scanFrom_quote`, with every escape the printer uses), through an integer of
64 bits (`scanFrom_int`), and through an object whose values are of these two kinds
(`ofText_object`).

A number has no end of its own: the scanner finishes it at the comma or brace that follows. So the
statements on values carry the sign that comes after.
-/

namespace Gatehouse

/-! ### Digits -/

namespace Literal

/-- Further digits never make a number smaller. -/
theorem foldl_digits_ge (acc : Nat) (ds : List Nat) :
    acc ≤ ds.foldl (fun n d => n * 10 + d) acc := by
  induction ds generalizing acc with
  | nil => exact Nat.le_refl acc
  | cons d ds ih => exact Nat.le_trans (by omega) (ih (acc * 10 + d))

/-- Digits that write a number below the limit are all gathered. -/
theorem gather_of_lt {limit acc : Nat} (ds : List Nat)
    (h : ds.foldl (fun n d => n * 10 + d) acc < limit) :
    gather limit acc ds = (ds.foldl (fun n d => n * 10 + d) acc, []) := by
  induction ds generalizing acc with
  | nil => rfl
  | cons d ds ih =>
    have hfirst : acc * 10 + d < limit := Nat.lt_of_le_of_lt (foldl_digits_ge _ ds) h
    rw [gather, if_pos hfirst]
    exact ih h

end Literal

namespace Json

/-- The numbers of decimal digits. -/
def digitValues (cs : List Char) : List Nat := cs.map fun c => c.toNat - '0'.toNat

/-- The digits of a number denote it. -/
theorem foldl_digitValues (n : Nat) :
    (digitValues (Nat.toDigits 10 n)).foldl (fun n d => n * 10 + d) 0 = n := by
  have h := Nat.ofDigitChars_ten_toDigits (n := n)
  rw [Nat.ofDigitChars_eq_foldl] at h
  rw [digitValues, List.foldl_map]
  simpa only [Nat.mul_comm 10] using h

/-- A written number other than zero does not begin with a zero. -/
theorem toDigits_head {n : Nat} (hn : 0 < n) :
    ∃ d cs, Nat.toDigits 10 n = Nat.digitChar d :: cs ∧ 0 < d ∧ d < 10 := by
  induction n using Nat.strongRecOn with
  | ind n ih =>
    by_cases h : n < 10
    · exact ⟨n, [], Nat.toDigits_of_lt_base h, hn, h⟩
    · obtain ⟨d, cs, hcs, hd⟩ := ih (n / 10) (by omega) (by omega)
      refine ⟨d, cs ++ [Nat.digitChar (n % 10)], ?_, hd⟩
      rw [Nat.toDigits_of_base_le (by omega) (by omega), hcs, List.cons_append]

namespace Token

/-- A digit is read as one. -/
theorem digit?_of_isDigit {c : Char} (h : c.isDigit = true) :
    digit? c = some (c.toNat - '0'.toNat) := by
  have hrange : '0' ≤ c ∧ c ≤ '9' := by
    simp only [Char.isDigit, Bool.and_eq_true, decide_eq_true_eq] at h
    exact h
  rw [digit?, if_pos hrange]

/-- One symbol is scanned. -/
theorem scanFrom_cons {state next : State} {tokens : List Token} {symbol : Option Char}
    (h : step state symbol = (tokens, next)) (rest : List (Option Char)) :
    scanFrom state (symbol :: rest) = tokens ++ scanFrom next rest := by
  rw [scanFrom, h]

/-- Digits after the first are gathered onto the whole part. -/
theorem scanFrom_digits {cs : List Char} (hcs : ∀ c ∈ cs, c.isDigit = true) (negative : Bool)
    (ds : List Nat) (rest : List (Option Char)) :
    scanFrom (.number ⟨negative, ds, none, none⟩ .whole) (cs.map some ++ rest) =
      scanFrom (.number ⟨negative, (digitValues cs).reverse ++ ds, none, none⟩ .whole) rest := by
  induction cs generalizing ds with
  | nil => rfl
  | cons c cs ih =>
    have hstep : step (.number ⟨negative, ds, none, none⟩ .whole) (some c) =
        ([], .number ⟨negative, (c.toNat - '0'.toNat) :: ds, none, none⟩ .whole) := by
      simp [step, extendNumber, digit?_of_isDigit (hcs c List.mem_cons_self)]
    rw [List.map_cons, List.cons_append, scanFrom_cons hstep, List.nil_append,
      ih fun c' h => hcs c' (List.mem_cons_of_mem c h)]
    simp [digitValues]

/-- A number is finished by a comma or a closing brace. -/
theorem scanFrom_finish {l : Literal} {part : NumberPart} (hpart : part = .zero ∨ part = .whole)
    {c : Char} (hc : c = ',' ∨ c = '\x7d') (rest : List (Option Char)) :
    scanFrom (.number l part) (some c :: rest) =
      finishNumber l :: scanFrom .between (some c :: rest) := by
  have hextend : extendNumber l part c = none := by
    rcases hpart with rfl | rfl <;> rcases hc with rfl | rfl <;> rfl
  have hdigit : digit? c = none := by rcases hc with rfl | rfl <;> rfl
  have hfinal : part.final = true := by rcases hpart with rfl | rfl <;> rfl
  have hstep : step (.number l part) (some c) =
      (finishNumber l :: (start (some c)).1, (start (some c)).2) := by
    simp [step, hextend, hdigit, hfinal]
  rw [scanFrom_cons hstep, scanFrom]
  rfl

/-- The value of a literal of digits alone. -/
theorem finishNumber_digits (negative : Bool) {n : Nat} (ds : List Nat)
    (hds : ds.foldl (fun n d => n * 10 + d) 0 = n) (hn : n < UInt64.size)
    (hnegative : negative = true → 0 < n ∧ n ≤ 0x8000000000000000) :
    finishNumber ⟨negative, ds.reverse, none, none⟩ =
      .number (some (.int (if negative then -(n : Int) else n))) := by
  have hgather : Literal.gather UInt64.size 0 ds = (n, []) := by
    rw [Literal.gather_of_lt ds (by omega), hds]
  rw [finishNumber, Literal.value?]
  simp only [List.reverse_reverse, hgather]
  cases negative with
  | false => simp
  | true =>
    have := hnegative rfl
    simp [this.1, this.2]

/-- The digits of a positive number, from a state in which its first digit is read. -/
theorem scanFrom_toDigits (negative : Bool) {n : Nat} (hn : 0 < n) (hn' : n ≤ 0x8000000000000000)
    {state : State} (hstate : ∀ d, 0 < d → d < 10 → step state (some (Nat.digitChar d)) =
      ([], .number ⟨negative, [d], none, none⟩ .whole))
    {c : Char} (hc : c = ',' ∨ c = '\x7d') (rest : List (Option Char)) :
    scanFrom state ((Nat.toDigits 10 n).map some ++ some c :: rest) =
      .number (some (.int (if negative then -(n : Int) else n))) ::
        scanFrom .between (some c :: rest) := by
  obtain ⟨d, cs, hcs, hd, hd'⟩ := toDigits_head hn
  have hdigits : ∀ c ∈ cs, c.isDigit = true := fun c h =>
    Nat.isDigit_of_mem_toDigits (b := 10) (n := n) (by omega) (by omega)
      (by rw [hcs]; exact List.mem_cons_of_mem _ h)
  have hvalues : (digitValues cs).reverse ++ [d] = (digitValues (Nat.toDigits 10 n)).reverse := by
    have hfirst : (Nat.digitChar d).toNat - '0'.toNat = d :=
      Nat.toNat_digitChar_sub_48_of_lt_ten hd'
    rw [hcs]
    simp only [digitValues, List.map_cons, List.reverse_cons, hfirst]
  have hsize : n < UInt64.size := Nat.lt_of_le_of_lt hn' (by decide)
  have hfinish := finishNumber_digits negative _ (foldl_digitValues n) hsize
    fun _ => ⟨hn, hn'⟩
  rw [hcs, List.map_cons, List.cons_append, scanFrom_cons (hstate d hd hd'), List.nil_append,
    scanFrom_digits hdigits, scanFrom_finish (.inr rfl) hc, hvalues, hfinish]

/-- A first digit other than zero begins a number. -/
theorem step_between_digit (d : Nat) (hd : 0 < d) (hd' : d < 10) :
    step .between (some (Nat.digitChar d)) = ([], .number ⟨false, [d], none, none⟩ .whole) := by
  match d, hd, hd' with
  | 1, _, _ | 2, _, _ | 3, _, _ | 4, _, _ | 5, _, _ | 6, _, _ | 7, _, _ | 8, _, _ | 9, _, _ => rfl

/-- So it does after a minus sign. -/
theorem step_minus_digit (d : Nat) (hd : 0 < d) (hd' : d < 10) :
    step (.number ⟨true, [], none, none⟩ .start) (some (Nat.digitChar d)) =
      ([], .number ⟨true, [d], none, none⟩ .whole) := by
  match d, hd, hd' with
  | 1, _, _ | 2, _, _ | 3, _, _ | 4, _, _ | 5, _, _ | 6, _, _ | 7, _, _ | 8, _, _ | 9, _, _ => rfl

/-- An integer that fits a signed word of 64 bits. -/
def FitsWord (n : Int) : Prop := -0x8000000000000000 ≤ n ∧ n < 0x8000000000000000

/-- A written integer is read as that integer. -/
theorem scanFrom_int {n : Int} (hn : FitsWord n) {c : Char} (hc : c = ',' ∨ c = '\x7d')
    (rest : List (Option Char)) :
    scanFrom .between ((toString n).toList.map some ++ some c :: rest) =
      .number (some (.int n)) :: scanFrom .between (some c :: rest) := by
  obtain ⟨hlow, hhigh⟩ := hn
  cases n with
  | ofNat m =>
    have htext : (toString (Int.ofNat m)).toList = Nat.toDigits 10 m := Nat.toList_repr
    rw [htext]
    by_cases hm : m = 0
    · subst hm
      have hzero : scanFrom .between (some '0' :: some c :: rest) =
          scanFrom (.number ⟨false, [0], none, none⟩ .zero) (some c :: rest) := rfl
      have hfinish := finishNumber_digits false [0] (n := 0) rfl (by decide) (by simp)
      refine hzero.trans ?_
      rw [scanFrom_finish (.inl rfl) hc]
      exact congrArg (· :: _) hfinish
    · have hm' : m ≤ 0x8000000000000000 := by
        have : (m : Int) < 0x8000000000000000 := hhigh
        omega
      exact scanFrom_toDigits false (by omega) hm' step_between_digit hc rest
  | negSucc m =>
    have htext : (toString (Int.negSucc m)).toList = '-' :: Nat.toDigits 10 (m + 1) := by
      have h : toString (Int.negSucc m) = "-" ++ Nat.repr (m + 1) := rfl
      rw [h, String.toList_append, Nat.toList_repr]
      rfl
    have hsign : step .between (some '-') = ([], .number ⟨true, [], none, none⟩ .start) := rfl
    have hm' : m + 1 ≤ 0x8000000000000000 := by omega
    rw [htext, List.map_cons, List.cons_append, scanFrom_cons hsign]
    exact scanFrom_toDigits true (by omega) hm' step_minus_digit hc rest

/-! ### Strings -/

/-- A hexadecimal digit is read as its value. -/
theorem hexDigit?_hexDigit : ∀ d < 16, hexDigit? (hexDigit d) = some d := by decide

/-- A control character is read from the four digits of its number. -/
theorem scanFrom_control (cs : List Char) {c : Char} (hc : c.toNat < 0x20)
    (rest : List (Option Char)) :
    scanFrom (.string (some cs) none)
        (['\\', 'u', '0', '0', hexDigit (c.toNat / 16), hexDigit (c.toNat % 16)].map some ++ rest) =
      scanFrom (.string (some (c :: cs)) none) rest := by
  have hhigh := hexDigit?_hexDigit (c.toNat / 16) (by omega)
  have hlow := hexDigit?_hexDigit (c.toNat % 16) (by omega)
  have hunit : afterUnit (some cs) none (c.toNat / 16 * 16 + c.toNat % 16) =
      .string (some (c :: cs)) none := by
    have hnumber : c.toNat / 16 * 16 + c.toNat % 16 = c.toNat := by omega
    have hsurrogate₁ : (0xD800 ≤ c.toNat && c.toNat < 0xDC00) = false := by simp; omega
    have hsurrogate₂ : (0xDC00 ≤ c.toNat && c.toNat < 0xE000) = false := by simp; omega
    simp [afterUnit, hnumber, hsurrogate₁, hsurrogate₂, Char.ofNat_toNat]
  have hopen : scanFrom (.string (some cs) none) (some '\\' :: some 'u' :: some '0' :: some '0' ::
        some (hexDigit (c.toNat / 16)) :: some (hexDigit (c.toNat % 16)) :: rest) =
      scanFrom (.hex (some cs) none ⟨0, 2⟩)
        (some (hexDigit (c.toNat / 16)) :: some (hexDigit (c.toNat % 16)) :: rest) := rfl
  have hfirst : step (.hex (some cs) none ⟨0, 2⟩) (some (hexDigit (c.toNat / 16))) =
      ([], .hex (some cs) none ⟨c.toNat / 16, 1⟩) := by
    simp [step, hhigh]
  have hsecond : step (.hex (some cs) none ⟨c.toNat / 16, 1⟩) (some (hexDigit (c.toNat % 16))) =
      ([], .string (some (c :: cs)) none) := by
    simp [step, hlow, hunit]
  refine hopen.trans ?_
  rw [scanFrom_cons hfirst, List.nil_append, scanFrom_cons hsecond, List.nil_append]

/-- Whatever stands for a character in a string is read as it. -/
theorem scanFrom_escapeChar (cs : List Char) (c : Char) (rest : List (Option Char)) :
    scanFrom (.string (some cs) none) ((escapeChar c).map some ++ rest) =
      scanFrom (.string (some (c :: cs)) none) rest := by
  simp only [escapeChar]
  split
  · rfl
  · rfl
  · rfl
  · rfl
  · rfl
  · rfl
  · rfl
  · next hquote hslash _ _ _ _ _ =>
    split
    · next hcontrol => exact scanFrom_control cs hcontrol rest
    · next hprintable =>
      have hstep : step (.string (some cs) none) (some c) =
          ([], .string (some (c :: cs)) none) := by
        simp only [step]
        rw [if_neg hquote, if_neg hslash, if_neg hprintable]
        rfl
      rw [List.map_singleton, List.singleton_append, scanFrom_cons hstep, List.nil_append]

/-- So are the characters of a text. -/
theorem scanFrom_escapeChars (cs s : List Char) (rest : List (Option Char)) :
    scanFrom (.string (some cs) none) ((s.flatMap escapeChar).map some ++ rest) =
      scanFrom (.string (some (s.reverse ++ cs)) none) rest := by
  induction s generalizing cs with
  | nil => rfl
  | cons c s ih =>
    rw [List.flatMap_cons, List.map_append, List.append_assoc, scanFrom_escapeChar, ih,
      List.reverse_cons, List.append_assoc]
    rfl

/-- A quoted string is read as that string. -/
theorem scanFrom_quote (s : String) (rest : List (Option Char)) :
    scanFrom .between ((quote s).toList.map some ++ rest) =
      .string (some s) :: scanFrom .between rest := by
  have hopen : step .between (some '"') = ([], .string (some []) none) := rfl
  have hclose : step (.string (some s.toList.reverse) none) (some '"') =
      ([.string (some s)], .between) := by
    simp [step]
  rw [quote, String.toList_ofList, List.cons_append, List.map_cons, List.cons_append,
    scanFrom_cons hopen, List.nil_append, List.map_append, List.append_assoc, scanFrom_escapeChars,
    List.append_nil, List.map_singleton, List.singleton_append, scanFrom_cons hclose,
    List.singleton_append]

/-! ### Flat objects -/

/-- A value of one token: a string, or an integer of 64 bits. -/
inductive Denotes : Json → Token → Prop where
  | string (s : String) : Denotes (.string s) (.string (some s))
  | int {n : Int} : FitsWord n → Denotes (ofInt n) (.number (some (.int n)))

/-- A value of one token is read as that token. -/
theorem scanFrom_denotes {v : Json} {t : Token} (h : Denotes v t) {c : Char}
    (hc : c = ',' ∨ c = '\x7d') (rest : List (Option Char)) :
    scanFrom .between (v.render.toList.map some ++ some c :: rest) =
      t :: scanFrom .between (some c :: rest) := by
  cases h with
  | string s =>
    rw [render]
    exact scanFrom_quote s _
  | int hn =>
    rw [ofInt, render, Number.render]
    exact scanFrom_int hn hc rest

/-- An object whose values have one token each, and its tokens from the first key on. -/
inductive DenotesEntries : Entries → List Token → Prop where
  | last (k : String) {v : Json} {t : Token} : Denotes v t →
      DenotesEntries [(k, v)] [.string (some k), .colon, t, .closeBrace]
  | more (k : String) {v : Json} {t : Token} {entries : Entries} {tokens : List Token} :
      Denotes v t → DenotesEntries entries tokens →
        DenotesEntries ((k, v) :: entries) (.string (some k) :: .colon :: t :: .comma :: tokens)

/-- One entry is scanned, up to the sign after it. -/
theorem scanFrom_entry (k : String) {v : Json} {t : Token} (h : Denotes v t) {c : Char}
    (hc : c = ',' ∨ c = '\x7d') (rest : List (Option Char)) :
    scanFrom .between ((quote k ++ ":" ++ v.render).toList.map some ++ some c :: rest) =
      .string (some k) :: .colon :: t :: scanFrom .between (some c :: rest) := by
  have hcolon : step .between (some ':') = ([.colon], .between) := rfl
  have htext : (quote k ++ ":" ++ v.render).toList.map some =
      (quote k).toList.map some ++ some ':' :: v.render.toList.map some := by simp
  rw [htext, List.append_assoc, scanFrom_quote, List.cons_append, scanFrom_cons hcolon,
    scanFrom_denotes h hc, List.singleton_append]

/-- Entries are read up to the end of their object. -/
theorem scanFrom_entries {entries : Entries} {tokens : List Token}
    (h : DenotesEntries entries tokens) (rest : List (Option Char)) :
    scanFrom .between ((",".intercalate (renderEntries entries)).toList.map some ++
      some '\x7d' :: rest) = tokens ++ scanFrom .between rest := by
  induction h with
  | last k hv =>
    have hclose : step .between (some '\x7d') = ([.closeBrace], .between) := rfl
    rw [renderEntries, renderEntries, String.intercalate_singleton, scanFrom_entry k hv (.inr rfl),
      scanFrom_cons hclose]
    rfl
  | @more k v t entries tokens hv hentries ih =>
    have hcomma : step .between (some ',') = ([.comma], .between) := rfl
    have hne : renderEntries entries ≠ [] := by cases hentries <;> simp [renderEntries]
    have htext : (",".intercalate (renderEntries ((k, v) :: entries))).toList.map some =
        (quote k ++ ":" ++ v.render).toList.map some ++
          some ',' :: (",".intercalate (renderEntries entries)).toList.map some := by
      rw [renderEntries, String.intercalate_cons_of_ne_nil hne]
      simp
    rw [htext, List.append_assoc, List.cons_append, scanFrom_entry k hv (.inl rfl),
      scanFrom_cons hcomma, ih]
    rfl

/-- **A flat object that is written is read as its tokens.** -/
theorem ofText_object {entries : Entries} {tokens : List Token}
    (h : DenotesEntries entries tokens) :
    ofText (Json.object entries).render = .openBrace :: tokens := by
  have hopen : step .between (some '\x7b') = ([.openBrace], .between) := rfl
  have htext : (Json.object entries).render.toList.map some =
      some '\x7b' :: ((",".intercalate (renderEntries entries)).toList.map some ++ [some '\x7d']) := by
    rw [render]
    simp
  rw [ofText, scan, htext, scanFrom_cons hopen, scanFrom_entries h]
  exact congrArg (Token.openBrace :: ·) (List.append_nil tokens)

end Token

end Json

end Gatehouse
