import Gatehouse.Proofs.Text.Base64
import Gatehouse.Proofs.Traversal

/-!
# Base64: what is read was written

A sequence of bytes has one written form, and no other text is read as it. A text with a foreign symbol,
with filling where none belongs or without it where it does, or with spare bits that are not zero, is
refused, so whatever is read can be followed back group by group: the groups before the last
(`eq_encodeChars_of_decodeFrom`), and in the last the symbols and the filling (`of_scanLast_eq_ok`), of which
there are as many as the format wants (`eq_encodeChars_of_finishLast`).

* `decode_eq_ok_iff`, `decodeText_eq_ok_iff`: a text is read as some bytes exactly if it is what is written for
  them.
-/

namespace Gatehouse.Base64

/-- A legible format with no more symbols than numbers below 64. -/
structure Format.Exact (f : Format) : Prop extends f.Legible where
  size : f.symbols.length = 64

theorem standard_exact : standard.Exact := ⟨standard_legible, rfl⟩

theorem urlSafe_exact : urlSafe.Exact := ⟨urlSafe_legible, rfl⟩

variable {f : Format}

/-- A byte that is read as a number is the symbol of that number. -/
theorem of_read_eq_ok (hf : f.Exact) {offset n : Nat} {b : UInt8} (h : f.read offset b = .ok n) :
    n < 64 ∧ f.byte n = b := by
  have hvalue : f.value? b = some n := by
    rw [Format.read] at h
    split at h
    next m hm => rw [hm, Except.ok.inj h]
    next => cases h
  obtain ⟨hn, hsymbol, -⟩ := List.findIdx?_eq_some_iff_getElem.mp hvalue
  refine ⟨hf.size ▸ hn, ?_⟩
  rw [Format.byte, Format.symbol, List.getD_eq_getElem?_getD, List.getElem?_eq_getElem hn, Option.getD_some,
    of_decide_eq_true hsymbol]
  exact UInt8.ofNat_toNat

/-! ### The last group -/

/-- What the last group has taken: symbols, and then filling alone. -/
theorem of_scanLast_eq_ok (hf : f.Exact) {offset index : Nat} {bs : List UInt8} {g g' : LastGroup}
    (h : scanLast f offset g index bs = .ok g') :
    ∃ (ns : List Nat) (count : Nat), (∀ n ∈ ns, n < 64) ∧
      bs = ns.map f.byte ++ List.replicate count fillByte ∧
      g'.values = (ns.map fun n => (f.byte n, n)).reverse ++ g.values ∧
      g'.fillCount = g.fillCount + count ∧ (0 < g.fillCount → ns = []) := by
  induction bs generalizing g index with
  | nil =>
    obtain rfl := Except.ok.inj h
    exact ⟨[], 0, by simp, rfl, rfl, rfl, fun _ => rfl⟩
  | cons b bs ih =>
    rw [scanLast] at h
    split at h
    next hfill =>
      split at h
      · cases h
      obtain ⟨ns, count, -, hbs, hvalues, hcount, hnone⟩ := ih h
      obtain rfl := hnone (Nat.succ_pos _)
      refine ⟨[], count + 1, by simp, ?_, hvalues, by rw [hcount]; dsimp only; omega, fun _ => rfl⟩
      rw [hbs, hfill, List.replicate_succ]
      rfl
    next =>
      split at h
      · cases h
      next hfirst =>
      split at h
      next n hread =>
        obtain ⟨hn, hbyte⟩ := of_read_eq_ok hf hread
        obtain ⟨ns, count, hns, hbs, hvalues, hcount, -⟩ := ih h
        refine ⟨n :: ns, count, List.forall_mem_cons.mpr ⟨hn, hns⟩, ?_, ?_, hcount,
          fun hpos => absurd hpos hfirst⟩
        · rw [hbs, List.map_cons, hbyte, List.cons_append]
        · rw [hvalues, List.map_cons, List.reverse_cons, hbyte, List.append_assoc]
          rfl
      next => cases h

/-- The filling is as the format wants it. -/
theorem replicate_eq_fillBytes {symbols count : Nat} (missing : Nat) (hsymbols : symbols + missing = 4)
    (hlength : symbols + count ≤ 4) (hpos : 0 < symbols)
    (h : ¬ if f.padded then (count + symbols) % 4 ≠ 0 else 0 < count) :
    List.replicate count fillByte = f.fillBytes missing := by
  rw [Format.fillBytes]
  cases hp : f.padded with
  | true =>
    rw [hp, if_pos rfl] at h
    rw [if_pos rfl, show count = missing by omega]
  | false =>
    rw [hp, if_neg Bool.false_ne_true] at h
    rw [if_neg Bool.false_ne_true, show count = 0 by omega, List.replicate_zero]

/-- What two, three or four symbols give as a last group. -/
theorem finishLast_two (offset count first x y : Nat) (a b : UInt8) :
    finishLast f offset ⟨[(b, y), (a, x)], count, first⟩ =
      if (if f.padded then (count + 2) % 4 ≠ 0 else 0 < count) then .error .padding
      else if (x * 0x40 + y) % 0x10 = 0 then .ok [((x * 0x40 + y) / 0x10).toUInt8]
      else .error (.lastSymbol b (offset + 1)) := by
  simp [finishLast]

theorem finishLast_three (offset count first x y z : Nat) (a b c : UInt8) :
    finishLast f offset ⟨[(c, z), (b, y), (a, x)], count, first⟩ =
      if (if f.padded then (count + 3) % 4 ≠ 0 else 0 < count) then .error .padding
      else if ((x * 0x40 + y) * 0x40 + z) % 4 = 0 then
        .ok [(((x * 0x40 + y) * 0x40 + z) / 0x400).toUInt8, (((x * 0x40 + y) * 0x40 + z) / 4).toUInt8]
      else .error (.lastSymbol c (offset + 2)) := by
  simp [finishLast]

theorem finishLast_four (offset count first x y z w : Nat) (a b c d : UInt8) :
    finishLast f offset ⟨[(d, w), (c, z), (b, y), (a, x)], count, first⟩ =
      if (if f.padded then (count + 4) % 4 ≠ 0 else 0 < count) then .error .padding
      else .ok [((((x * 0x40 + y) * 0x40 + z) * 0x40 + w) / 0x10000).toUInt8,
        ((((x * 0x40 + y) * 0x40 + z) * 0x40 + w) / 0x100).toUInt8,
        (((x * 0x40 + y) * 0x40 + z) * 0x40 + w).toUInt8] := by
  simp [finishLast]

/-- The bits of four symbols are those of three bytes. -/
theorem symbols_of_group {x y z w n : Nat} (hx : x < 64) (hy : y < 64) (hz : z < 64) (hw : w < 64)
    (hn : n = ((x * 0x40 + y) * 0x40 + z) * 0x40 + w) :
    n = (n / 0x10000).toUInt8.toNat * 0x10000 + (n / 0x100).toUInt8.toNat * 0x100 + n.toUInt8.toNat ∧
      x = n / 0x40000 ∧ y = n / 0x1000 % 0x40 ∧ z = n / 0x40 % 0x40 ∧ w = n % 0x40 := by
  have hfirst : (n / 0x10000).toUInt8.toNat = n / 0x10000 % 256 := UInt8.toNat_ofNat'
  have hsecond : (n / 0x100).toUInt8.toNat = n / 0x100 % 256 := UInt8.toNat_ofNat'
  have hthird : n.toUInt8.toNat = n % 256 := UInt8.toNat_ofNat'
  omega

/-- Symbols and filling that make a last group are what is written for its bytes. -/
theorem eq_encodeChars_of_finishLast (hf : f.Exact) {offset count first : Nat} {ns : List Nat}
    {bytes : List UInt8} (hns : ∀ n ∈ ns, n < 64) (hlength : ns.length + count ≤ 4)
    (h : finishLast f offset ⟨(ns.map fun n => (f.byte n, n)).reverse, count, first⟩ = .ok bytes) :
    ns.map f.byte ++ List.replicate count fillByte = Utf8.encodeChars (encodeChars f bytes) := by
  match ns with
  | [] => cases h
  | [_] => cases h
  | [x, y] =>
    have hx : x < 64 := hns x (by simp)
    have hy : y < 64 := hns y (by simp)
    rw [show ([x, y].map fun n => (f.byte n, n)).reverse = [(f.byte y, y), (f.byte x, x)] from rfl,
      finishLast_two] at h
    generalize hn : x * 0x40 + y = n at h
    obtain ⟨hfill, h⟩ := ite_error_eq_ok_iff.mp h
    obtain ⟨hspare, rfl⟩ := ite_ok_eq_ok_iff.mp h
    have hbyte : (n / 0x10).toUInt8.toNat = n / 0x10 % 256 := UInt8.toNat_ofNat'
    have hxy : x = n / 0x10 / 4 ∧ y = n / 0x10 % 4 * 0x10 := by omega
    rw [encodeChars_one hf.toLegible _ (show n / 0x10 = _ by omega),
      replicate_eq_fillBytes 2 rfl hlength (by simp) hfill, ← hxy.1, ← hxy.2]
  | [x, y, z] =>
    have hx : x < 64 := hns x (by simp)
    have hy : y < 64 := hns y (by simp)
    have hz : z < 64 := hns z (by simp)
    rw [show ([x, y, z].map fun n => (f.byte n, n)).reverse =
      [(f.byte z, z), (f.byte y, y), (f.byte x, x)] from rfl, finishLast_three] at h
    generalize hn : (x * 0x40 + y) * 0x40 + z = n at h
    obtain ⟨hfill, h⟩ := ite_error_eq_ok_iff.mp h
    obtain ⟨hspare, rfl⟩ := ite_ok_eq_ok_iff.mp h
    have hfirst : (n / 0x400).toUInt8.toNat = n / 0x400 % 256 := UInt8.toNat_ofNat'
    have hsecond : (n / 4).toUInt8.toNat = n / 4 % 256 := UInt8.toNat_ofNat'
    have hbytes : n / 4 = (n / 0x400).toUInt8.toNat * 0x100 + (n / 4).toUInt8.toNat := by omega
    have hxyz : x = n / 4 / 0x400 ∧ y = n / 4 / 0x10 % 0x40 ∧ z = n / 4 % 0x10 * 4 := by omega
    rw [encodeChars_two hf.toLegible _ _ hbytes, replicate_eq_fillBytes 1 rfl hlength (by simp) hfill, ← hxyz.1,
      ← hxyz.2.1, ← hxyz.2.2]
  | [x, y, z, w] =>
    obtain rfl : count = 0 := by
      simp only [List.length_cons, List.length_nil] at hlength
      omega
    rw [show ([x, y, z, w].map fun n => (f.byte n, n)).reverse =
      [(f.byte w, w), (f.byte z, z), (f.byte y, y), (f.byte x, x)] from rfl, finishLast_four] at h
    generalize hn : ((x * 0x40 + y) * 0x40 + z) * 0x40 + w = n at h
    obtain rfl := Except.ok.inj (ite_error_eq_ok_iff.mp h).2
    obtain ⟨hbytes, hx, hy, hz, hw⟩ := symbols_of_group (hns x (by simp)) (hns y (by simp)) (hns z (by simp))
      (hns w (by simp)) hn.symm
    rw [encodeChars_three hf.toLegible _ _ _ [] hbytes, ← hx, ← hy, ← hz, ← hw]
    rfl
  | _ :: _ :: _ :: _ :: _ :: _ =>
    simp only [List.length_cons] at hlength
    omega

/-! ### All groups -/

/-- A last group that is read is what is written for its bytes. -/
theorem eq_encodeChars_of_decodeLast (hf : f.Exact) {offset : Nat} {bs bytes : List UInt8}
    (hlength : bs.length ≤ 4) (h : decodeLast f offset bs = .ok bytes) :
    bs = Utf8.encodeChars (encodeChars f bytes) := by
  obtain ⟨g, hg, hfinish⟩ := bind_eq_ok_iff.mp h
  obtain ⟨ns, count, hns, rfl, hvalues, hcount, -⟩ := of_scanLast_eq_ok hf hg
  obtain ⟨values, fillCount, first⟩ := g
  obtain rfl : values = (ns.map fun n => (f.byte n, n)).reverse := hvalues.trans (List.append_nil _)
  obtain rfl : fillCount = count := hcount.trans (Nat.zero_add _)
  rw [List.length_append, List.length_map, List.length_replicate] at hlength
  exact eq_encodeChars_of_finishLast hf hns hlength hfinish

/-- Groups that are read are what is written for their bytes. -/
theorem eq_encodeChars_of_decodeFrom (hf : f.Exact) {offset : Nat} {bs bytes : List UInt8}
    (h : decodeFrom f offset bs = .ok bytes) : bs = Utf8.encodeChars (encodeChars f bytes) := by
  match bs with
  | [] =>
    obtain rfl := Except.ok.inj h
    rfl
  | [_] | [_, _] | [_, _, _] | [_, _, _, _] => exact eq_encodeChars_of_decodeLast hf (by simp) h
  | a :: b :: c :: d :: e :: rest =>
    rw [decodeFrom] at h
    split at h
    next x y z w hx hy hz hw =>
      split at h
      next bytes' hrest =>
        obtain ⟨hx', rfl⟩ := of_read_eq_ok hf hx
        obtain ⟨hy', rfl⟩ := of_read_eq_ok hf hy
        obtain ⟨hz', rfl⟩ := of_read_eq_ok hf hz
        obtain ⟨hw', rfl⟩ := of_read_eq_ok hf hw
        obtain ⟨n, hn⟩ : ∃ n, n = x * 0x40000 + y * 0x1000 + z * 0x40 + w := ⟨_, rfl⟩
        rw [← hn] at h
        obtain rfl := Except.ok.inj h
        have hgroup : n = ((x * 0x40 + y) * 0x40 + z) * 0x40 + w := by omega
        obtain ⟨hbytes, hx, hy, hz, hw⟩ := symbols_of_group hx' hy' hz' hw' hgroup
        rw [encodeChars_three hf.toLegible _ _ _ bytes' hbytes, ← hx, ← hy, ← hz, ← hw,
          ← eq_encodeChars_of_decodeFrom hf hrest]
        rfl
      · cases h
    · cases h
    · cases h
    · cases h
    · cases h
termination_by bs.length

/-- **Bytes are read from their one written form**, and from nothing else. -/
theorem decode_eq_ok_iff (hf : f.Exact) {bs bytes : List UInt8} :
    decode f bs = .ok bytes ↔ bs = Utf8.encodeChars (encodeChars f bytes) := by
  refine ⟨fun h => ?_, fun h => h ▸ decode_encodeChars hf.toLegible bytes⟩
  rw [decode] at h
  split at h
  · split at h
    · cases h
    · exact eq_encodeChars_of_decodeFrom hf h
  next hlast =>
    obtain rfl := Except.ok.inj h
    exact List.getLast?_eq_none_iff.mp hlast

/-- A text that is read is what is written for its bytes. -/
theorem decodeText_eq_ok_iff (hf : f.Exact) {text : String} {bytes : List UInt8} :
    decodeText f text = .ok bytes ↔ text = encode f bytes := by
  rw [decodeText, decode_eq_ok_iff hf]
  refine ⟨fun h => ?_, fun h => by rw [h, encode, Utf8.encode, String.toList_ofList]⟩
  have hread : Utf8.decode (Utf8.encode text) = Utf8.decode (Utf8.encode (encode f bytes)) := by
    rw [h, encode, Utf8.encode, String.toList_ofList]
  rw [Utf8.decode_encode, Utf8.decode_encode] at hread
  exact Except.ok.inj hread

end Gatehouse.Base64
