import Gatehouse.Crypto.Bcrypt
import Gatehouse.Proofs.Text.Base64

/-!
# Written hashes are read back

A hash has 22 symbols of salt and 31 of digest, none of them a dollar sign, so it is taken apart into the very
parts that it was made of (`parse_written`). Whoever compares a password with a hash that was made therefore
gets an answer, and the answer says whether the digests agree (`verify_of_hash_eq_ok`): the faults are left for
texts that are no hashes.
-/

namespace Gatehouse

namespace Base64

/-- Without filling, a text has as many symbols as hold the bits of its bytes. -/
theorem length_encodeChars {f : Format} (hf : f.padded = false) (bytes : List UInt8) :
    (encodeChars f bytes).length = (4 * bytes.length + 2) / 3 := by
  fun_induction encodeChars f bytes with
  | case1 a b c rest n ih =>
    simp only [List.length_cons, ih]
    omega
  | case2 a b n => simp [Format.fill, hf]
  | case3 a => simp [Format.fill, hf]
  | case4 => rfl

end Base64

namespace Crypto.Bcrypt

/-- The format of hashes is legible. -/
theorem format_legible : format.Legible where
  ascii := by decide +kernel
  value := by decide +kernel
  fill := by decide +kernel

/-- Words are encrypted in pairs. -/
theorem length_encryptPairs (keys : Array UInt32) (ws : List UInt32) :
    (encryptPairs keys ws).length = ws.length / 2 * 2 := by
  fun_induction encryptPairs keys ws with
  | case1 l r rest l' r' hpair ih =>
    simp only [List.length_cons, ih]
    omega
  | case2 ws h =>
    match ws, h with
    | [], _ | [_], _ => simp
    | l :: r :: rest, h => exact absurd rfl (h l r rest)

/-- A digest has 23 bytes. -/
theorem length_digest (cost : Nat) (salt : Bytes) (password : String) :
    (digest cost salt password).length = 23 := by
  have hmagic : magic.length = 6 := by decide +kernel
  have hbytes (ws : List UInt32) : (ws.flatMap Sha256.wordBytes).length = 4 * ws.length := by
    induction ws with
    | nil => rfl
    | cons w ws ih =>
      rw [List.flatMap_cons, List.length_append, ih, List.length_cons, Sha256.wordBytes]
      simp only [List.length_cons, List.length_nil]
      omega
  rw [digest, List.length_take, hbytes, length_encryptPairs, hmagic]
  rfl

/-! ### The characters of a hash -/

/-- A character that takes one byte and does not part a hash. -/
structure Inner (c : Char) : Prop where
  size : c.utf8Size = 1
  noDollar : c ≠ '$'

/-- Salt and digest are written in such characters. -/
theorem inner_of_mem_encodeChars {c : Char} {bytes : Bytes} (h : c ∈ Base64.encodeChars format bytes) :
    Inner c := by
  have hsymbols : format.symbols.all (fun c => c.utf8Size == 1 && c != '$') = true := by decide +kernel
  rcases Base64.mem_encodeChars h with hsymbol | rfl
  · have hc := List.all_eq_true.mp hsymbols c hsymbol
    rw [Bool.and_eq_true, beq_iff_eq, bne_iff_ne] at hc
    exact ⟨hc.1, hc.2⟩
  · exact ⟨by decide, by decide⟩

/-- Such characters are as many bytes as they are characters. -/
theorem utf8ByteSize_ofList {cs : List Char} (h : ∀ c ∈ cs, Inner c) :
    (String.ofList cs).utf8ByteSize = cs.length := by
  induction cs with
  | nil => rfl
  | cons c cs ih =>
    have hsplit : String.ofList (c :: cs) = String.singleton c ++ String.ofList cs := by
      rw [String.singleton_eq_ofList, ← String.ofList_append]
      rfl
    rw [hsplit, String.utf8ByteSize_append, String.utf8ByteSize_singleton, (h c List.mem_cons_self).size,
      ih fun d hd => h d (List.mem_cons_of_mem c hd), List.length_cons, Nat.add_comm]

/-- Such characters are cut after as many bytes as they are. -/
theorem splitBytes?_append {before : List Char} (h : ∀ c ∈ before, Inner c) (after : List Char) :
    splitBytes? before.length (before ++ after) = some (before, after) := by
  induction before with
  | nil => rw [List.length_nil, List.nil_append, splitBytes?]
  | cons c before ih =>
    have hsize := (h c List.mem_cons_self).size
    have hrest := ih fun d hd => h d (List.mem_cons_of_mem c hd)
    rw [List.length_cons, List.cons_append, splitBytes?, hsize, if_pos (Nat.le_add_left 1 _), Nat.add_sub_cancel,
      hrest]
    rfl

/-! ### Reading a hash -/

/-- A cost that is allowed is read back, and nothing parts it. -/
theorem cost?_twoDigits {cost : Nat} (h : costAllowed cost = true) :
    cost? (twoDigits cost) = some cost ∧ '$' ∉ (twoDigits cost).toList ∧ twoDigits cost ≠ "" := by
  have hall : ∀ n < 32, costAllowed n = true →
      cost? (twoDigits n) = some n ∧ '$' ∉ (twoDigits n).toList ∧ twoDigits n ≠ "" := by decide +kernel
  have hbounds := h
  rw [costAllowed, Bool.and_eq_true, decide_eq_true_eq, decide_eq_true_eq] at hbounds
  exact hall cost (by omega) h

/-- A hash has a version, a cost and the symbols after them. -/
theorem parts_eq {cost : Nat} (h : costAllowed cost = true) {symbols : List Char}
    (hsymbols : ∀ c ∈ symbols, Inner c) (hne : symbols ≠ []) :
    parts ("$2b$" ++ twoDigits cost ++ "$" ++ String.ofList symbols) =
      ["2b", twoDigits cost, String.ofList symbols] := by
  obtain ⟨-, hcost, hcost_ne⟩ := cost?_twoDigits h
  have hinner : '$' ∉ symbols := fun hmem => (hsymbols '$' hmem).noDollar rfl
  have hlist : ("$2b$" ++ twoDigits cost ++ "$" ++ String.ofList symbols).toList =
      [] ++ '$' :: (['2', 'b'] ++ '$' :: ((twoDigits cost).toList ++ '$' :: symbols)) := by
    simp [String.toList_append, String.toList_ofList]
  have hrest : String.ofList symbols ≠ "" := by
    intro hempty
    rw [← String.ofList_nil, String.ofList_inj] at hempty
    exact hne hempty
  rw [parts, hlist, List.splitOn_append_cons_self_of_not_mem List.not_mem_nil,
    List.splitOn_append_cons_self_of_not_mem (by decide), List.splitOn_append_cons_self_of_not_mem hcost,
    List.splitOn_eq_singleton hinner]
  simp [String.ofList_toList, hcost_ne, hrest]

/-- What was hashed is taken apart into the cost, the salt and the digest. -/
theorem parse_written {cost : Nat} (h : costAllowed cost = true) (salt : Salt) (password : String) :
    parse ("$2b$" ++ twoDigits cost ++ "$" ++ Base64.encode format salt.bytes ++
        Base64.encode format (digest cost salt.bytes password)) =
      .ok ⟨cost, Base64.encode format salt.bytes, Base64.encode format (digest cost salt.bytes password)⟩ := by
  obtain ⟨hcost, -, -⟩ := cost?_twoDigits h
  generalize hsalt : Base64.encodeChars format salt.bytes = before
  generalize hdigest : Base64.encodeChars format (digest cost salt.bytes password) = after
  have hbefore : before.length = 22 := by
    rw [← hsalt, Base64.length_encodeChars rfl, salt.size]
  have hafter : after.length = 31 := by
    rw [← hdigest, Base64.length_encodeChars rfl, length_digest]
  have hinner_before : ∀ c ∈ before, Inner c := by
    intro c hc
    rw [← hsalt] at hc
    exact inner_of_mem_encodeChars hc
  have hinner : ∀ c ∈ before ++ after, Inner c := by
    intro c hc
    rcases List.mem_append.mp hc with hc | hc
    · exact hinner_before c hc
    · rw [← hdigest] at hc
      exact inner_of_mem_encodeChars hc
  have hne : before ++ after ≠ [] := by
    intro hnil
    have hlength := congrArg List.length hnil
    rw [List.length_append, hbefore] at hlength
    simp at hlength
  have hsize : (String.ofList (before ++ after)).utf8ByteSize = 53 := by
    rw [utf8ByteSize_ofList hinner, List.length_append, hbefore, hafter]
  have hcut := splitBytes?_append hinner_before after
  rw [hbefore] at hcut
  have htext (start : String) :
      start ++ String.ofList before ++ String.ofList after = start ++ String.ofList (before ++ after) := by
    rw [String.append_assoc, ← String.ofList_append]
  rw [parse, Base64.encode, Base64.encode, hsalt, hdigest, htext, parts_eq h hinner hne]
  have hversion : (!versions.contains "2b") = false := by decide
  dsimp only
  rw [hversion, if_neg Bool.false_ne_true, hcost]
  dsimp only
  rw [hsize, if_neg (by simp), String.toList_ofList, hcut]

/-- Once the parts of a hash are read, what remains is to compare the digests. -/
theorem verify_of_parse {hash candidate : String} {w : Written} {salt expected : Bytes}
    (hw : parse hash = .ok w) (hsalt : readBase64 w.salt = .ok salt) (hcost : costAllowed w.cost = true)
    (hexpected : readBase64 w.digest = .ok expected) :
    verify candidate hash = .ok (decide (digest w.cost salt candidate = expected)) := by
  rw [verify, hw]
  simp only [bind, Except.bind, hsalt, hcost, hexpected, Bool.not_true, Bool.false_eq_true, if_false, pure,
    Except.pure]

/-- **Every password can be compared with a hash that was made**, and has it exactly if the digests agree. -/
theorem verify_of_hash_eq_ok {cost : Nat} {salt : Salt} {password hash : String}
    (h : Bcrypt.hash cost salt password = .ok hash) (candidate : String) :
    verify candidate hash =
      .ok (decide (digest cost salt.bytes candidate = digest cost salt.bytes password)) := by
  rw [Bcrypt.hash] at h
  split at h
  next hcost =>
    obtain rfl := Except.ok.inj h
    have hread (bytes : Bytes) : readBase64 (Base64.encode format bytes) = .ok bytes := by
      rw [readBase64, Base64.decodeText_encode format_legible]
      rfl
    have hwritten := parse_written hcost salt password
    rw [verify_of_parse hwritten (hread salt.bytes) hcost (hread (digest cost salt.bytes password))]
  next => exact absurd h nofun

/-! ### What counts of a password -/

/-- What a digest is made of, as far as the password goes: eighteen words of its key, which is repeated until there
are that many. -/
def material (password : String) : List UInt32 := Blowfish.keyWords (key password).toArray

variable {password password' : String}

/-- Passwords of the same material have the same digests. -/
theorem digest_congr (h : material password = material password') (cost : Nat) (salt : Bytes) :
    digest cost salt password = digest cost salt password' := by
  have hsubkeys : Blowfish.subkeys cost salt (key password) = Blowfish.subkeys cost salt (key password') := by
    rw [Blowfish.subkeys, Blowfish.subkeys]
    rw [material, material] at h
    rw [h]
  rw [digest, digest, hsubkeys]

/-- Of a password that is long enough, not even the zero byte after it counts. -/
theorem key_of_le_length (h : keySize ≤ (Utf8.encode password).length) :
    key password = (Utf8.encode password).take keySize := by
  rw [key, List.take_append_of_le_length h]

/-- **Long passwords that begin alike are of the same material.** -/
theorem material_eq_of_take_eq (h : keySize ≤ (Utf8.encode password).length)
    (h' : keySize ≤ (Utf8.encode password').length)
    (htake : (Utf8.encode password).take keySize = (Utf8.encode password').take keySize) :
    material password = material password' := by
  rw [material, key_of_le_length h, htake, ← key_of_le_length h', material]

end Crypto.Bcrypt

end Gatehouse
