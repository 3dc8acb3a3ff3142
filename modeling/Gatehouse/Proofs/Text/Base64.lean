import Gatehouse.Proofs.Text.Utf8
import Gatehouse.Text.Base64

/-!
# Base64: what is written is read back

Both formats are **legible**: each of their 64 symbols is one byte, is read as its own number, and is not
the sign that fills. For a legible format the written text is followed group by group: all groups but
the last hold four symbols (`decodeFrom_group`), the last one two, three or four
(`decodeLast_one`, `decodeLast_two`, `decodeLast_three`).

* `decodeText_encode`: reading what is written gives the bytes back;
* `mem_encodeChars`: nothing is written but symbols of the format and the sign that fills.
-/

namespace Gatehouse.Base64

/-- A symbol as a byte. -/
def Format.byte (f : Format) (n : Nat) : UInt8 := (f.symbol n).toNat.toUInt8

/-- A format whose symbols can be told apart as bytes, also from the filling. -/
structure Format.Legible (f : Format) : Prop where
  ascii : ∀ n < 64, (f.symbol n).toNat < 0x80
  value : ∀ n < 64, f.value? (f.byte n) = some n
  fill : ∀ n < 64, f.byte n ≠ fillByte

/-- The usual format is legible. -/
theorem standard_legible : standard.Legible where
  ascii := by decide +kernel
  value := by decide +kernel
  fill := by decide +kernel

/-- The format for addresses is legible. -/
theorem urlSafe_legible : urlSafe.Legible where
  ascii := by decide +kernel
  value := by decide +kernel
  fill := by decide +kernel

/-- A byte is known by its number modulo 256. -/
theorem toUInt8_eq {n : Nat} {a : UInt8} (h : n % 256 = a.toNat) : n.toUInt8 = a := by
  apply UInt8.toNat_inj.mp
  rw [Nat.toUInt8, UInt8.toNat_ofNat']
  exact h

variable {f : Format}

/-! ### What is written, as bytes -/

/-- The filling as bytes. -/
def Format.fillBytes (f : Format) (count : Nat) : List UInt8 :=
  if f.padded then List.replicate count fillByte else []

/-- The filling that is written. -/
theorem encodeChars_fill (count : Nat) : Utf8.encodeChars (f.fill count) = f.fillBytes count := by
  rw [Format.fill, Format.fillBytes]
  split
  · induction count with
    | zero => rfl
    | succ count ih => rw [List.replicate_succ, Utf8.encodeChars_cons, ih]; rfl
  · rfl

/-- Symbols are written as one byte each. -/
theorem encodeChars_symbols (hf : f.Legible) (ns : List Nat) (hns : ∀ n ∈ ns, n < 64)
    (cs : List Char) :
    Utf8.encodeChars (ns.map f.symbol ++ cs) = ns.map f.byte ++ Utf8.encodeChars cs := by
  induction ns with
  | nil => rfl
  | cons n ns ih =>
    have hn : n < 64 := hns n List.mem_cons_self
    have hchar : Utf8.encodeChar (f.symbol n) = [f.byte n] := by
      rw [Utf8.encodeChar]
      exact if_pos (hf.ascii n hn)
    rw [List.map_cons, List.cons_append, Utf8.encodeChars_cons, hchar,
      ih fun m hm => hns m (List.mem_cons_of_mem n hm)]
    rfl

/-! ### The last group -/

/-- The last group takes its symbols one after the other. -/
theorem scanLast_bytes (hf : f.Legible) (offset : Nat) (ns : List Nat) (hns : ∀ n ∈ ns, n < 64)
    (values : List (UInt8 × Nat)) (first index : Nat) (bs : List UInt8) :
    scanLast f offset ⟨values, 0, first⟩ index (ns.map f.byte ++ bs) =
      scanLast f offset ⟨(ns.map fun n => (f.byte n, n)).reverse ++ values, 0, first⟩
        (index + ns.length) bs := by
  induction ns generalizing values index with
  | nil => rfl
  | cons n ns ih =>
    have hn : n < 64 := hns n List.mem_cons_self
    have hread : f.read (offset + index) (f.byte n) = .ok n := by rw [Format.read, hf.value n hn]
    rw [List.map_cons, List.cons_append, scanLast, if_neg (hf.fill n hn), if_neg (by simp), hread]
    dsimp only
    rw [ih fun m hm => hns m (List.mem_cons_of_mem n hm)]
    simp [Nat.add_comm, Nat.add_left_comm]

/-- The last group takes the filling after two or more symbols. -/
theorem scanLast_replicate (offset : Nat) (g : LastGroup) {index : Nat} (h : 2 ≤ index)
    (count : Nat) :
    ∃ first, scanLast f offset g index (List.replicate count fillByte) =
      .ok ⟨g.values, g.fillCount + count, first⟩ := by
  induction count generalizing g index with
  | zero => exact ⟨g.firstFill, rfl⟩
  | succ count ih =>
    rw [List.replicate_succ, scanLast, if_pos rfl, if_neg (by omega)]
    dsimp only
    obtain ⟨first, hfirst⟩ := ih ⟨g.values, g.fillCount + 1, _⟩ (show 2 ≤ index + 1 by omega)
    exact ⟨first, by rw [hfirst, Nat.add_assoc, Nat.add_comm 1 count]⟩

/-- The last group holds the symbols written, and as much filling as the format wants. -/
theorem decodeLast_symbols (hf : f.Legible) (offset : Nat) (ns : List Nat)
    (hns : ∀ n ∈ ns, n < 64) (hlength : 2 ≤ ns.length) (count : Nat) :
    ∃ first, decodeLast f offset (ns.map f.byte ++ f.fillBytes count) =
      finishLast f offset
        ⟨(ns.map fun n => (f.byte n, n)).reverse, if f.padded then count else 0, first⟩ := by
  rw [decodeLast, Format.fillBytes, scanLast_bytes hf offset ns hns, List.append_nil, Nat.zero_add]
  split
  · obtain ⟨first, hfirst⟩ := scanLast_replicate (f := f) offset
      ⟨(ns.map fun n => (f.byte n, n)).reverse, 0, 0⟩ hlength count
    exact ⟨first, by rw [hfirst, Nat.zero_add]; rfl⟩
  · exact ⟨0, rfl⟩

/-- One byte makes a last group of two symbols. -/
theorem decodeLast_one (hf : f.Legible) (offset : Nat) (a : UInt8) {n : Nat} (hn : n = a.toNat) :
    decodeLast f offset ([n / 4, n % 4 * 0x10].map f.byte ++ f.fillBytes 2) = .ok [a] := by
  have ha : a.toNat < 256 := a.toNat_lt
  obtain ⟨first, h⟩ := decodeLast_symbols hf offset [n / 4, n % 4 * 0x10]
    (by simp; omega) (by simp) 2
  have hspare : (n / 4 * 0x40 + n % 4 * 0x10) % 0x10 = 0 := by omega
  have hbyte : ((n / 4 * 0x40 + n % 4 * 0x10) / 0x10).toUInt8 = a := toUInt8_eq (by omega)
  rw [h]
  by_cases hp : f.padded <;> simp [finishLast, hp, hspare, ← hbyte]

/-- Two bytes make a last group of three symbols. -/
theorem decodeLast_two (hf : f.Legible) (offset : Nat) (a b : UInt8) {n : Nat}
    (hn : n = a.toNat * 0x100 + b.toNat) :
    decodeLast f offset ([n / 0x400, n / 0x10 % 0x40, n % 0x10 * 4].map f.byte ++ f.fillBytes 1) =
      .ok [a, b] := by
  have ha : a.toNat < 256 := a.toNat_lt
  have hb : b.toNat < 256 := b.toNat_lt
  obtain ⟨first, h⟩ := decodeLast_symbols hf offset [n / 0x400, n / 0x10 % 0x40, n % 0x10 * 4]
    (by simp; omega) (by simp) 1
  have hspare : ((n / 0x400 * 0x40 + n / 0x10 % 0x40) * 0x40 + n % 0x10 * 4) % 4 = 0 := by omega
  have hbyte₁ : (((n / 0x400 * 0x40 + n / 0x10 % 0x40) * 0x40 + n % 0x10 * 4) / 0x400).toUInt8 = a :=
    toUInt8_eq (by omega)
  have hbyte₂ : (((n / 0x400 * 0x40 + n / 0x10 % 0x40) * 0x40 + n % 0x10 * 4) / 4).toUInt8 = b :=
    toUInt8_eq (by omega)
  rw [h]
  by_cases hp : f.padded <;> simp [finishLast, hp, hspare, ← hbyte₁, ← hbyte₂]

/-- Three bytes make four symbols. -/
theorem group_bytes {a b c : UInt8} {n m : Nat}
    (hn : n = a.toNat * 0x10000 + b.toNat * 0x100 + c.toNat)
    (hm : m = n / 0x40000 * 0x40000 + n / 0x1000 % 0x40 * 0x1000 + n / 0x40 % 0x40 * 0x40 +
      n % 0x40) :
    (m / 0x10000).toUInt8 = a ∧ (m / 0x100).toUInt8 = b ∧ m.toUInt8 = c := by
  have ha : a.toNat < 256 := a.toNat_lt
  have hb : b.toNat < 256 := b.toNat_lt
  have hc : c.toNat < 256 := c.toNat_lt
  have hmn : m = n := by omega
  exact ⟨toUInt8_eq (by omega), toUInt8_eq (by omega), toUInt8_eq (by omega)⟩

/-- Three bytes may make the last group. -/
theorem decodeLast_three (hf : f.Legible) (offset : Nat) (a b c : UInt8) {n : Nat}
    (hn : n = a.toNat * 0x10000 + b.toNat * 0x100 + c.toNat) :
    decodeLast f offset
      ([n / 0x40000, n / 0x1000 % 0x40, n / 0x40 % 0x40, n % 0x40].map f.byte) = .ok [a, b, c] := by
  have ha : a.toNat < 256 := a.toNat_lt
  have hb : b.toNat < 256 := b.toNat_lt
  have hc : c.toNat < 256 := c.toNat_lt
  obtain ⟨first, h⟩ := decodeLast_symbols hf offset
    [n / 0x40000, n / 0x1000 % 0x40, n / 0x40 % 0x40, n % 0x40] (by simp; omega) (by simp) 0
  obtain ⟨h₁, h₂, h₃⟩ := group_bytes (m := ((n / 0x40000 * 0x40 + n / 0x1000 % 0x40) * 0x40 +
    n / 0x40 % 0x40) * 0x40 + n % 0x40) hn (by omega)
  have hfill : f.fillBytes 0 = [] := by
    rw [Format.fillBytes]
    split <;> rfl
  rw [hfill, List.append_nil] at h
  rw [h]
  by_cases hp : f.padded <;> simp [finishLast, hp, ← h₁, ← h₂, ← h₃]

/-! ### Reading back -/

/-- At most four bytes are a last group. -/
theorem decodeFrom_short (offset : Nat) (bs : List UInt8) (hne : bs ≠ []) (hlen : bs.length ≤ 4) :
    decodeFrom f offset bs = decodeLast f offset bs := by
  match bs, hne, hlen with
  | [_], _, _ | [_, _], _, _ | [_, _, _], _, _ | [_, _, _, _], _, _ => rfl
  | _ :: _ :: _ :: _ :: _ :: _, _, hlen =>
    simp only [List.length_cons] at hlen
    omega

/-- A group that others follow. -/
theorem decodeFrom_group (hf : f.Legible) (offset : Nat) (a b c : UInt8) {n : Nat}
    (hn : n = a.toNat * 0x10000 + b.toNat * 0x100 + c.toNat) {bs : List UInt8} (hne : bs ≠ [])
    {bytes : List UInt8} (hbs : decodeFrom f (offset + 4) bs = .ok bytes) :
    decodeFrom f offset
      ([n / 0x40000, n / 0x1000 % 0x40, n / 0x40 % 0x40, n % 0x40].map f.byte ++ bs) =
        .ok (a :: b :: c :: bytes) := by
  have ha : a.toNat < 256 := a.toNat_lt
  have hb : b.toNat < 256 := b.toNat_lt
  have hc : c.toNat < 256 := c.toNat_lt
  have hread (offset : Nat) {m : Nat} (hm : m < 64) : f.read offset (f.byte m) = .ok m := by
    rw [Format.read, hf.value m hm]
  obtain ⟨e, rest, rfl⟩ := List.exists_cons_of_ne_nil hne
  obtain ⟨h₁, h₂, h₃⟩ := group_bytes hn rfl
  simp only [List.map_cons, List.map_nil, List.cons_append, List.nil_append, decodeFrom]
  rw [hread _ (by omega), hread _ (by omega), hread _ (by omega), hread _ (by omega)]
  dsimp only
  rw [hbs, h₁, h₂, h₃]

/-- Some bytes are written as some bytes. -/
theorem encodeChars_ne_nil {bytes : List UInt8} (h : bytes ≠ []) :
    Utf8.encodeChars (encodeChars f bytes) ≠ [] := by
  have hchar (c : Char) : Utf8.encodeChar c ≠ [] := by
    unfold Utf8.encodeChar
    dsimp only
    split
    · simp
    split
    · simp
    split <;> simp
  match bytes, h with
  | [_], _ | [_, _], _ | _ :: _ :: _ :: _, _ =>
    rw [encodeChars, Utf8.encodeChars_cons]
    exact List.append_ne_nil_of_left_ne_nil (hchar _) _

/-- Three bytes are written as four symbols. -/
theorem encodeChars_three (hf : f.Legible) (a b c : UInt8) (rest : List UInt8) {n : Nat}
    (hn : n = a.toNat * 0x10000 + b.toNat * 0x100 + c.toNat) :
    Utf8.encodeChars (encodeChars f (a :: b :: c :: rest)) =
      [n / 0x40000, n / 0x1000 % 0x40, n / 0x40 % 0x40, n % 0x40].map f.byte ++
        Utf8.encodeChars (encodeChars f rest) := by
  have ha : a.toNat < 256 := a.toNat_lt
  have hb : b.toNat < 256 := b.toNat_lt
  have hc : c.toNat < 256 := c.toNat_lt
  rw [encodeChars, ← hn]
  exact encodeChars_symbols hf [n / 0x40000, n / 0x1000 % 0x40, n / 0x40 % 0x40, n % 0x40]
    (by simp; omega) _

/-- Two bytes at the end are written as three symbols. -/
theorem encodeChars_two (hf : f.Legible) (a b : UInt8) {n : Nat}
    (hn : n = a.toNat * 0x100 + b.toNat) :
    Utf8.encodeChars (encodeChars f [a, b]) =
      [n / 0x400, n / 0x10 % 0x40, n % 0x10 * 4].map f.byte ++ f.fillBytes 1 := by
  have ha : a.toNat < 256 := a.toNat_lt
  have hb : b.toNat < 256 := b.toNat_lt
  rw [encodeChars, ← hn, ← encodeChars_fill]
  exact encodeChars_symbols hf [n / 0x400, n / 0x10 % 0x40, n % 0x10 * 4] (by simp; omega) _

/-- One byte at the end is written as two symbols. -/
theorem encodeChars_one (hf : f.Legible) (a : UInt8) {n : Nat} (hn : n = a.toNat) :
    Utf8.encodeChars (encodeChars f [a]) = [n / 4, n % 4 * 0x10].map f.byte ++ f.fillBytes 2 := by
  have ha : a.toNat < 256 := a.toNat_lt
  rw [encodeChars, ← hn, ← encodeChars_fill]
  exact encodeChars_symbols hf [n / 4, n % 4 * 0x10] (by simp; omega) _

/-- The filling is no longer than the places it fills. -/
theorem length_fillBytes_le (f : Format) (count : Nat) : (f.fillBytes count).length ≤ count := by
  rw [Format.fillBytes]
  split <;> simp

/-- Reading groups gives back what was written in groups. -/
theorem decodeFrom_encodeChars (hf : f.Legible) (offset : Nat) (bytes : List UInt8) :
    decodeFrom f offset (Utf8.encodeChars (encodeChars f bytes)) = .ok bytes := by
  fun_induction encodeChars f bytes generalizing offset with
  | case1 a b c rest n ih =>
    have hwritten := encodeChars_three hf a b c rest rfl
    rw [encodeChars] at hwritten
    rw [hwritten]
    by_cases hrest : rest = []
    · subst hrest
      rw [decodeFrom_short _ _ (by simp) (by simp [encodeChars])]
      exact decodeLast_three hf offset a b c rfl
    · exact decodeFrom_group hf offset a b c rfl (encodeChars_ne_nil hrest) (ih (offset + 4))
  | case2 a b n =>
    have hfill := length_fillBytes_le f 1
    have hwritten := encodeChars_two hf a b rfl
    rw [encodeChars] at hwritten
    rw [hwritten, decodeFrom_short _ _ (by simp) (by simp; omega)]
    exact decodeLast_two hf offset a b rfl
  | case3 a =>
    have hfill := length_fillBytes_le f 2
    have hwritten := encodeChars_one hf a rfl
    rw [encodeChars] at hwritten
    rw [hwritten, decodeFrom_short _ _ (by simp) (by simp; omega)]
    exact decodeLast_one hf offset a rfl
  | case4 => rfl

/-- No written text ends in a group of a single symbol. -/
theorem length_encodeChars_mod (hf : f.Legible) (bytes : List UInt8) :
    (Utf8.encodeChars (encodeChars f bytes)).length % 4 ≠ 1 := by
  match bytes with
  | [] => simp [encodeChars]
  | [a] =>
    rw [encodeChars_one hf a rfl, List.length_append, List.length_map]
    rw [Format.fillBytes]
    split <;> simp
  | [a, b] =>
    rw [encodeChars_two hf a b rfl, List.length_append, List.length_map]
    rw [Format.fillBytes]
    split <;> simp
  | a :: b :: c :: rest =>
    have ih := length_encodeChars_mod hf rest
    rw [encodeChars_three hf a b c rest rfl, List.length_append, List.length_map]
    simp only [List.length_cons, List.length_nil]
    omega

/-- What is written is read back, as bytes. -/
theorem decode_encodeChars (hf : f.Legible) (bytes : List UInt8) :
    decode f (Utf8.encodeChars (encodeChars f bytes)) = .ok bytes := by
  have hlength := length_encodeChars_mod hf bytes
  have hread := decodeFrom_encodeChars hf 0 bytes
  rw [decode]
  split
  · simp only [hlength, decide_false, Bool.false_and, Bool.false_eq_true, if_false, hread]
  · next h =>
    rw [List.getLast?_eq_none_iff.mp h] at hread
    exact hread

/-- **What is written is read back.** -/
theorem decodeText_encode (hf : f.Legible) (bytes : List UInt8) :
    decodeText f (encode f bytes) = .ok bytes := by
  rw [decodeText, encode, Utf8.encode, String.toList_ofList]
  exact decode_encodeChars hf bytes

/-- A written text has symbols of the format, and signs that fill. -/
theorem mem_encodeChars {c : Char} {bytes : List UInt8} (h : c ∈ encodeChars f bytes) :
    c ∈ f.symbols ∨ c = '=' := by
  have hsymbol (n : Nat) : f.symbol n ∈ f.symbols ∨ f.symbol n = '=' := by
    rw [Format.symbol, List.getD_eq_getElem?_getD]
    cases hget : f.symbols[n]? with
    | none => exact .inr rfl
    | some c => exact .inl (List.mem_of_getElem? hget)
  have hfill (count : Nat) (hc : c ∈ f.fill count) : c = '=' := by
    rw [Format.fill] at hc
    split at hc
    · exact List.eq_of_mem_replicate hc
    · simp at hc
  fun_induction encodeChars f bytes with
  | case1 a b d rest n ih =>
    simp only [List.mem_cons] at h
    rcases h with rfl | rfl | rfl | rfl | h
    · exact hsymbol _
    · exact hsymbol _
    · exact hsymbol _
    · exact hsymbol _
    · exact ih h
  | case2 a b n =>
    simp only [List.mem_cons] at h
    rcases h with rfl | rfl | rfl | h
    · exact hsymbol _
    · exact hsymbol _
    · exact hsymbol _
    · exact .inr (hfill 1 h)
  | case3 a =>
    simp only [List.mem_cons] at h
    rcases h with rfl | rfl | h
    · exact hsymbol _
    · exact hsymbol _
    · exact .inr (hfill 2 h)
  | case4 => simp at h

end Gatehouse.Base64
