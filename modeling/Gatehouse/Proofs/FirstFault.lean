import Gatehouse.Proofs.Traversal

/-!
# The first of several faults

What is read can have faults at many places. Which places have which faults is told by a relation, without the
reader and without an order of reading. A reader **reports** these faults if it succeeds where there are none,
and otherwise fails for the one whose place comes first (`Reports`, `IsFirst`). So the cause of a failure depends
on nothing that comes later: relations that agree up to a place have the same first fault there
(`IsFirst.congr`).

Places in nested lists are lists of indices, outermost first, in lexicographic order. A reader that goes through a
list reports the faults of the entries, each under its index (`Reports.mapM`, `Reports.foldlM`).
-/

namespace Gatehouse

variable {ι ε α β γ : Type}

section Order

variable [LT ι]

/-- A fault at a place, before which there is none. No other cause stands at that place. -/
structure IsFirst (faults : ι → ε → Prop) (place : ι) (cause : ε) : Prop where
  fault : faults place cause
  others : ∀ other cause', faults other cause' → other = place ∧ cause' = cause ∨ place < other

/-- A reader fails for the first fault, and succeeds where there is none. -/
structure Reports (x : Except ε α) (faults : ι → ε → Prop) : Prop where
  first : ∀ e, x = .error e → ∃ place, IsFirst faults place e
  clean : ∀ a, x = .ok a → ∀ place e, ¬ faults place e

variable {faults faults' : ι → ε → Prop}

/-- Of two first faults both are the same. -/
theorem IsFirst.cause_unique [Std.Asymm (α := ι) (· < ·)] {i j : ι} {e e' : ε} (h : IsFirst faults i e)
    (h' : IsFirst faults j e') : e = e' := by
  rcases h.others j e' h'.fault with ⟨-, he⟩ | hlt
  · exact he.symm
  · rcases h'.others i e h.fault with ⟨-, he⟩ | hgt
    · exact he
    · exact absurd hgt (Std.Asymm.asymm _ _ hlt)

/-- **What comes later does not matter**: where the same faults stand up to a place, the first fault at that place
is the same. -/
theorem IsFirst.congr [Std.Irrefl (α := ι) (· < ·)] {i : ι} {e : ε} (h : IsFirst faults i e)
    (hsame : ∀ j e', ¬ i < j → (faults j e' ↔ faults' j e')) : IsFirst faults' i e where
  fault := (hsame i e (Std.Irrefl.irrefl i)).mp h.fault
  others j e' hj := by
    by_cases hlt : i < j
    · exact .inr hlt
    · exact h.others j e' ((hsame j e' hlt).mpr hj)

namespace Reports

variable {x : Except ε α}

/-- A failure for the first fault. -/
theorem of_isFirst {i : ι} {e : ε} (h : IsFirst faults i e) : Reports (.error e : Except ε α) faults where
  first e' he := ⟨i, Except.error.inj he ▸ h⟩
  clean a ha := absurd ha (by simp)

/-- A success without faults. -/
theorem of_clean {a : α} (h : ∀ i e, ¬ faults i e) : Reports (.ok a : Except ε α) faults where
  first e he := absurd he (by simp)
  clean _ _ := h

/-- The same faults in other words. -/
theorem congr (h : Reports x faults) (hsame : ∀ i e, faults i e ↔ faults' i e) : Reports x faults' where
  first e he := by
    obtain ⟨i, hfault, hothers⟩ := h.first e he
    exact ⟨i, (hsame i e).mp hfault, fun j e' hj => hothers j e' ((hsame j e').mpr hj)⟩
  clean a ha i e hi := h.clean a ha i e ((hsame i e).mpr hi)

/-- What becomes of the value does not matter. -/
theorem map (h : Reports x faults) (f : α → β) : Reports (x.map f) faults := by
  cases x with
  | error e =>
    obtain ⟨i, hfirst⟩ := h.first e rfl
    exact of_isFirst hfirst
  | ok a => exact of_clean (h.clean a rfl)

/-- **A reader fails exactly for the first fault.** -/
theorem eq_error_iff [Std.Asymm (α := ι) (· < ·)] (h : Reports x faults) {e : ε} :
    x = .error e ↔ ∃ i, IsFirst faults i e := by
  refine ⟨h.first e, ?_⟩
  rintro ⟨i, hfirst⟩
  cases x with
  | ok a => exact absurd hfirst.fault (h.clean a rfl i e)
  | error e' =>
    obtain ⟨j, hfirst'⟩ := h.first e' rfl
    rw [hfirst.cause_unique hfirst']

/-- A reader succeeds exactly where there is no fault. -/
theorem exists_ok_iff (h : Reports x faults) : (∃ a, x = .ok a) ↔ ∀ i e, ¬ faults i e := by
  constructor
  · rintro ⟨a, ha⟩
    exact h.clean a ha
  · intro hclean
    cases x with
    | ok a => exact ⟨a, rfl⟩
    | error e =>
      obtain ⟨i, hfirst⟩ := h.first e rfl
      exact absurd hfirst.fault (hclean i e)

end Reports

end Order

/-! ### Lists -/

/-- The faults of the entries of a list, each under the index of its entry. -/
inductive FaultsIn (faults : γ → List Nat → ε → Prop) (xs : List γ) : List Nat → ε → Prop
  | entry {i : Nat} {x : γ} {place : List Nat} {e : ε} (found : xs[i]? = some x) (fault : faults x place e) :
      FaultsIn faults xs (i :: place) e

/-- Faults are found in entries whichever way these are made. -/
theorem faultsIn_map_iff {faults : γ → List Nat → ε → Prop} {f : β → γ} {xs : List β} {place : List Nat} {e : ε} :
    FaultsIn faults (xs.map f) place e ↔ FaultsIn (fun x => faults (f x)) xs place e := by
  constructor
  · rintro ⟨found, fault⟩
    rw [List.getElem?_map, Option.map_eq_some_iff] at found
    obtain ⟨x, found, rfl⟩ := found
    exact .entry found fault
  · rintro ⟨found, fault⟩
    exact .entry (by rw [List.getElem?_map, found, Option.map_some]) fault

/-- Of two lists that differ in an entry and in what comes after it, the faults of the one are faults of the other
up to a place inside this entry. -/
theorem FaultsIn.of_agree {faults faults' : γ → List Nat → ε → Prop} {before after after' : List γ} {x y : γ}
    {place : List Nat} (hbefore : ∀ c ∈ before, ∀ j e, faults c j e → faults' c j e)
    (hplace : ∀ j e, ¬ place < j → faults x j e → faults' y j e) {j : List Nat} {e : ε}
    (hj : ¬ before.length :: place < j) (h : FaultsIn faults (before ++ x :: after) j e) :
    FaultsIn faults' (before ++ y :: after') j e := by
  cases h with
  | @entry i c inner _ found fault =>
    rcases Nat.lt_trichotomy i before.length with hi | rfl | hi
    · rw [List.getElem?_append_left hi] at found
      refine .entry ?_ (hbefore c (List.mem_of_getElem? found) inner e fault)
      rw [List.getElem?_append_left hi, found]
    · obtain rfl : x = c := by simpa using found
      refine .entry (x := y) (by simp) (hplace inner e ?_ fault)
      intro hlt
      exact hj (List.cons_lt_cons_iff.mpr (.inr ⟨rfl, hlt⟩))
    · exact absurd (List.cons_lt_cons_iff.mpr (.inl hi)) hj

section List

variable {faults : γ → List Nat → ε → Prop} {c : γ} {cs : List γ}

/-- The first fault of the first entry is the first of all. -/
theorem IsFirst.head {place : List Nat} {e : ε} (h : IsFirst (faults c) place e) :
    IsFirst (FaultsIn faults (c :: cs)) (0 :: place) e where
  fault := .entry rfl h.fault
  others _ e' hother := by
    cases hother with
    | @entry i _ other _ found fault =>
      cases i with
      | zero =>
        obtain rfl := Option.some.inj found
        rcases h.others other e' fault with ⟨rfl, rfl⟩ | hlt
        · exact .inl ⟨rfl, rfl⟩
        · exact .inr (List.cons_lt_cons_iff.mpr (.inr ⟨rfl, hlt⟩))
      | succ i => exact .inr (List.cons_lt_cons_iff.mpr (.inl i.succ_pos))

/-- After an entry without faults the first fault is that of the others, which move on by one. -/
theorem IsFirst.tail {i : Nat} {place : List Nat} {e : ε} (hclean : ∀ place e, ¬ faults c place e)
    (h : IsFirst (FaultsIn faults cs) (i :: place) e) : IsFirst (FaultsIn faults (c :: cs)) ((i + 1) :: place) e where
  fault := by
    cases h.fault with
    | entry found fault => exact .entry found fault
  others _ e' hother := by
    cases hother with
    | @entry j _ other _ found fault =>
      cases j with
      | zero => exact absurd (Option.some.inj found ▸ fault) (hclean other e')
      | succ j =>
        rcases h.others (j :: other) e' (.entry found fault) with ⟨hsame, he⟩ | hlt
        · obtain ⟨rfl, rfl⟩ := List.cons.inj hsame
          exact .inl ⟨rfl, he⟩
        · refine .inr (List.cons_lt_cons_iff.mpr ?_)
          rcases List.cons_lt_cons_iff.mp hlt with hindex | ⟨rfl, hplace⟩
          · exact .inl (Nat.succ_lt_succ hindex)
          · exact .inr ⟨rfl, hplace⟩

namespace Reports

theorem nil {a : α} : Reports (.ok a : Except ε α) (FaultsIn faults []) :=
  of_clean fun _ _ h => by
    cases h with
    | entry found _ => simp at found

/-- First the faults of the first entry, and then those of the others. -/
theorem cons {x : Except ε α} {f : α → Except ε β} (hx : Reports x (faults c))
    (hf : ∀ a, x = .ok a → Reports (f a) (FaultsIn faults cs)) :
    Reports (x.bind f) (FaultsIn faults (c :: cs)) := by
  cases x with
  | error e =>
    obtain ⟨place, hfirst⟩ := hx.first e rfl
    exact of_isFirst hfirst.head
  | ok a =>
    have hclean := hx.clean a rfl
    have hrest := hf a rfl
    change Reports (f a) _
    cases hfa : f a with
    | ok b =>
      refine of_clean ?_
      intro _ e h
      cases h with
      | @entry i _ place _ found fault =>
        cases i with
        | zero => exact hclean place e (Option.some.inj found ▸ fault)
        | succ i => exact hrest.clean b hfa (i :: place) e (.entry found fault)
    | error e =>
      obtain ⟨place, hfirst⟩ := hrest.first e hfa
      cases place with
      | nil => cases hfirst.fault
      | cons i place => exact of_isFirst (hfirst.tail hclean)

/-- **A list is read until the first fault of an entry.** -/
theorem mapM {f : γ → Except ε α} (h : ∀ c ∈ cs, Reports (f c) (faults c)) :
    Reports (cs.mapM f) (FaultsIn faults cs) := by
  induction cs with
  | nil => exact nil
  | cons c cs ih =>
    have hrest := ih fun c' hc' => h c' (List.mem_cons_of_mem c hc')
    rw [List.mapM_cons]
    exact cons (h c List.mem_cons_self) fun a _ => hrest.map (a :: ·)

/-- A list is read into a state until the first fault of an entry, where the faults do not depend on the
state. -/
theorem foldlM {f : β → γ → Except ε β} (h : ∀ b, ∀ c ∈ cs, Reports (f b c) (faults c)) (b : β) :
    Reports (cs.foldlM f b) (FaultsIn faults cs) := by
  induction cs generalizing b with
  | nil => exact nil
  | cons c cs ih =>
    rw [List.foldlM_cons]
    exact cons (h b c List.mem_cons_self) fun b' _ => ih (fun b c' hc' => h b c' (List.mem_cons_of_mem c hc')) b'

end Reports

end List

end Gatehouse
