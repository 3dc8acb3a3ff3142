import Mathlib.Data.List.Forall2

/-!
# Readers that succeed

A reader answers with a value or with a fault, and reads a list until the first fault. What is known of a
list that was read as a whole is known entry by entry (`exists_of_mem_mapM_ok`, `mapM_eq_ok_iff`), and what
each entry keeps the list keeps (`map_of_mapM_ok`).
-/

namespace Gatehouse

variable {ε α β γ : Type}

theorem bind_eq_ok_iff {x : Except ε α} {f : α → Except ε β} {b : β} :
    x.bind f = .ok b ↔ ∃ a, x = .ok a ∧ f a = .ok b := by
  cases x with
  | error e => simp [Except.bind]
  | ok a => simp [Except.bind]

/-- Two readers one after the other fail if the first does, or else the second. -/
theorem of_bind_eq_error {x : Except ε α} {f : α → Except ε β} {e : ε} (h : x.bind f = .error e) :
    x = .error e ∨ ∃ a, x = .ok a ∧ f a = .error e := by
  cases x with
  | error e' => exact .inl (congrArg _ (Except.error.inj h))
  | ok a => exact .inr ⟨a, rfl, h⟩

theorem map_eq_ok_iff {x : Except ε α} {f : α → β} {b : β} :
    x.map f = .ok b ↔ ∃ a, x = .ok a ∧ f a = b := by
  cases x with
  | error e => simp [Except.map]
  | ok a => simp [Except.map]

/-- A check that is passed, and what comes after it. -/
theorem ite_error_eq_ok_iff {p : Prop} [Decidable p] {e : ε} {x : Except ε α} {a : α} :
    (if p then .error e else x) = .ok a ↔ ¬ p ∧ x = .ok a := by
  by_cases hp : p <;> simp [hp]

/-- A value under a condition. -/
theorem ite_ok_eq_ok_iff {p : Prop} [Decidable p] {e : ε} {a b : α} :
    (if p then .ok a else .error e) = (.ok b : Except ε α) ↔ p ∧ a = b := by
  by_cases hp : p <;> simp [hp]

/-- A reader succeeds whatever becomes of its value. -/
theorem exists_map_eq_ok_iff {x : Except ε α} {f : α → β} : (∃ b, x.map f = .ok b) ↔ ∃ a, x = .ok a := by
  simp only [map_eq_ok_iff]
  exact ⟨fun ⟨_, a, ha, _⟩ => ⟨a, ha⟩, fun ⟨a, ha⟩ => ⟨f a, a, ha, rfl⟩⟩

/-- A list that was read: its first entry, then the rest. -/
theorem mapM_cons_eq_ok_iff {f : α → Except ε β} {x : α} {xs : List α} {ys : List β} :
    (x :: xs).mapM f = .ok ys ↔ ∃ y rest, f x = .ok y ∧ xs.mapM f = .ok rest ∧ y :: rest = ys := by
  rw [List.mapM_cons]
  change (f x).bind (fun y => (xs.mapM f).bind fun rest => .ok (y :: rest)) = _ ↔ _
  simp only [bind_eq_ok_iff, Except.ok.injEq]
  grind

/-- A list is read exactly if each of its entries is, in order. -/
theorem mapM_eq_ok_iff {f : α → Except ε β} {xs : List α} {ys : List β} :
    xs.mapM f = .ok ys ↔ List.Forall₂ (fun x y => f x = .ok y) xs ys := by
  induction xs generalizing ys with
  | nil =>
    rw [List.forall₂_nil_left_iff]
    exact ⟨fun h => (Except.ok.inj h).symm, fun h => h ▸ rfl⟩
  | cons x xs ih =>
    rw [mapM_cons_eq_ok_iff, List.forall₂_cons_left_iff]
    simp only [ih]
    constructor
    · rintro ⟨y, rest, hy, hrest, rfl⟩
      exact ⟨y, rest, hy, hrest, rfl⟩
    · rintro ⟨y, rest, hy, hrest, rfl⟩
      exact ⟨y, rest, hy, hrest, rfl⟩

/-- Partners for all entries of a list can be found one by one. -/
theorem exists_forall₂_iff {R : α → β → Prop} {xs : List α} :
    (∃ ys, List.Forall₂ R xs ys) ↔ ∀ x ∈ xs, ∃ y, R x y := by
  induction xs with
  | nil => simp
  | cons x xs ih =>
    rw [List.forall_mem_cons, ← ih]
    constructor
    · rintro ⟨_, hys⟩
      obtain ⟨y, rest, hy, hrest, rfl⟩ := List.forall₂_cons_left_iff.mp hys
      exact ⟨⟨y, hy⟩, rest, hrest⟩
    · rintro ⟨⟨y, hy⟩, ys, hys⟩
      exact ⟨y :: ys, .cons hy hys⟩

/-- Partners that two functions send to the same values are sent to the same list. -/
theorem map_eq_of_forall₂ {R : α → β → Prop} {f : α → γ} {g : β → γ} (hsame : ∀ x y, R x y → g y = f x)
    {xs : List α} {ys : List β} (h : List.Forall₂ R xs ys) : ys.map g = xs.map f := by
  induction h with
  | nil => rfl
  | cons hxy _ ih => rw [List.map_cons, List.map_cons, hsame _ _ hxy, ih]

/-- A list is read into a state exactly if each of its entries is accepted, where that does not depend on
the state. -/
theorem exists_foldlM_eq_ok_iff {f : β → α → Except ε β} {P : α → Prop}
    (hstep : ∀ b x, (∃ next, f b x = .ok next) ↔ P x) {xs : List α} {b : β} :
    (∃ final, xs.foldlM f b = .ok final) ↔ ∀ x ∈ xs, P x := by
  induction xs generalizing b with
  | nil => exact ⟨fun _ _ h => absurd h List.not_mem_nil, fun _ => ⟨b, rfl⟩⟩
  | cons x xs ih =>
    rw [List.forall_mem_cons, ← hstep b]
    constructor
    · rintro ⟨final, hfinal⟩
      obtain ⟨next, hnext, hrest⟩ := bind_eq_ok_iff.mp hfinal
      exact ⟨⟨next, hnext⟩, ih.mp ⟨final, hrest⟩⟩
    · rintro ⟨⟨next, hnext⟩, hrest⟩
      obtain ⟨final, hfinal⟩ := (ih (b := next)).mpr hrest
      exact ⟨final, bind_eq_ok_iff.mpr ⟨next, hnext, hfinal⟩⟩

/-- Whatever was read in a list was read from some entry. -/
theorem exists_of_mem_mapM_ok {f : α → Except ε β} {xs : List α} {ys : List β} (h : xs.mapM f = .ok ys)
    {y : β} (hy : y ∈ ys) : ∃ x ∈ xs, f x = .ok y := by
  induction xs generalizing ys with
  | nil =>
    obtain ⟨⟩ := h
    exact absurd hy List.not_mem_nil
  | cons x xs ih =>
    obtain ⟨first, rest, hfirst, hrest, rfl⟩ := mapM_cons_eq_ok_iff.mp h
    obtain rfl | hy := List.mem_cons.mp hy
    · exact ⟨x, List.mem_cons_self, hfirst⟩
    · obtain ⟨x', hx', hread⟩ := ih hrest hy
      exact ⟨x', List.mem_cons_of_mem x hx', hread⟩

/-- What every entry keeps when it is read, the list keeps in order. -/
theorem map_of_mapM_ok {f : α → Except ε β} {before : α → γ} {after : β → γ}
    (hkeep : ∀ x y, f x = .ok y → after y = before x) {xs : List α} {ys : List β} (h : xs.mapM f = .ok ys) :
    ys.map after = xs.map before := by
  induction xs generalizing ys with
  | nil =>
    obtain ⟨⟩ := h
    rfl
  | cons x xs ih =>
    obtain ⟨first, rest, hfirst, hrest, rfl⟩ := mapM_cons_eq_ok_iff.mp h
    rw [List.map_cons, List.map_cons, hkeep x first hfirst, ih hrest]

end Gatehouse
