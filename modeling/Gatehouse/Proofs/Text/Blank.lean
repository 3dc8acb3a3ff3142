import Gatehouse.Text.Blank
import Mathlib.Data.List.DropRight

/-!
# Trimmed texts

What is left of a text after trimming neither begins nor ends with a blank (`Text.trimmed_trim`). Such a text is
left as it is (`Text.Trimmed.trim_eq`), and nothing is left exactly of a blank text (`Text.trim_eq_empty_iff`).
-/

namespace Gatehouse.Text

/-- No blanks stand around a text. -/
structure Trimmed (s : String) : Prop where
  first : ∀ c ∈ s.toList.head?, isBlank c = false
  last : ∀ c ∈ s.toList.getLast?, isBlank c = false

/-- A list from its first character on that is not blank does not begin with a blank. -/
theorem isBlank_of_head?_trimStart {cs : List Char} {c : Char} (h : (trimStart cs).head? = some c) :
    isBlank c = false := by
  have hhead := List.head?_dropWhile_not isBlank cs
  rw [trimStart] at h
  rw [h] at hhead
  simpa using hhead

theorem trimEnd_prefix (cs : List Char) : trimEnd cs <+: cs := List.rdropWhile_prefix isBlank cs

/-- **Trimming leaves no blanks around a text.** -/
theorem trimmed_trim (s : String) : Trimmed (trim s) := by
  constructor
  · intro c hc
    rw [trim, String.toList_ofList] at hc
    -- the end that is cut off does not hold the first character
    obtain ⟨blanks, hblanks⟩ := trimEnd_prefix (trimStart s.toList)
    have hfirst : (trimStart s.toList).head? = some c := by
      rw [← hblanks, List.head?_append, Option.mem_def.mp hc, Option.some_or]
    exact isBlank_of_head?_trimStart hfirst
  · intro c hc
    rw [trim, String.toList_ofList, trimEnd, List.getLast?_reverse] at hc
    exact isBlank_of_head?_trimStart hc

/-- A text without blanks around it is what is left of it. -/
theorem Trimmed.trim_eq {s : String} (h : Trimmed s) : trim s = s := by
  have hstart : trimStart s.toList = s.toList := by
    refine List.dropWhile_eq_self_iff.mpr fun hlength => ?_
    have hfirst : s.toList.head? = some s.toList[0] :=
      List.head?_eq_getElem?.trans (List.getElem?_eq_getElem hlength)
    rw [h.first _ hfirst]
    exact Bool.false_ne_true
  have hend : trimEnd s.toList = s.toList := by
    refine List.rdropWhile_eq_self_iff.mpr fun hne => ?_
    rw [h.last _ (List.getLast?_eq_some_getLast hne)]
    exact Bool.false_ne_true
  rw [trim, hstart, hend, String.ofList_toList]

theorem trimStart_eq_nil_iff {cs : List Char} : trimStart cs = [] ↔ ∀ c ∈ cs, isBlank c = true :=
  List.dropWhile_eq_nil_iff

theorem trimEnd_eq_nil_iff {cs : List Char} : trimEnd cs = [] ↔ ∀ c ∈ cs, isBlank c = true :=
  List.rdropWhile_eq_nil_iff

/-- **Nothing is left of a text exactly if it is blank.** -/
theorem trim_eq_empty_iff {s : String} : trim s = "" ↔ isBlankText s = true := by
  have htwice : trimStart (trimStart s.toList) = trimStart s.toList :=
    List.dropWhile_idempotent isBlank s.toList
  calc trim s = ""
      ↔ trimEnd (trimStart s.toList) = [] := String.ofList_eq_empty_iff
    _ ↔ trimStart (trimStart s.toList) = [] := trimEnd_eq_nil_iff.trans trimStart_eq_nil_iff.symm
    _ ↔ ∀ c ∈ s.toList, isBlank c = true := by rw [htwice, trimStart_eq_nil_iff]
    _ ↔ isBlankText s = true := List.all_eq_true.symm

end Gatehouse.Text
