import Gatehouse.Proofs.Query.Inclusion

/-!
# What an exclusion removes

An exclusion takes out what is found at its paths, one path after the other. One path may lie inside another, in either
order, and may lead nowhere. After each of them the object is the document without what the paths so far lead to
(`Projection.Prunes`): at these places and inside them nothing is found, and at any other place the same as in the
document, or an object for an object. That tells all but the order of entries, so the order of the paths matters to
nothing else (`Projection.apply_removes_excluded`).

What a projection leaves is left alone by the same projection (`Projection.apply_twice`): an inclusion finds at its
paths what it found there in the document, and an exclusion finds nothing to take out.
-/

namespace Gatehouse

namespace Projection

open Json (follow lookup segments removePath DistinctKeys Apart Alike Reordered)

/-! ### Documents without some places -/

/-- What is found before and after something was taken out elsewhere: the same, or an object each, above it. -/
inductive Thins (above : Prop) : Option Json → Option Json → Prop where
  | same (v : Option Json) : Thins above v v
  | object (habove : above) (entries entries' : Json.Entries) :
      Thins above (some (.object entries)) (some (.object entries'))

namespace Thins

variable {above above' : Prop} {u v w : Option Json}

theorem mono (h : Thins above v w) (himp : above → above') : Thins above' v w := by
  cases h with
  | same => exact .same v
  | object habove entries entries' => exact .object (himp habove) entries entries'

/-- Out of an object that is left something more may be taken. -/
theorem thin_object {child : Json.Entries} (h : Thins above v (some (.object child))) (habove : above')
    (child' : Json.Entries) : Thins above' v (some (.object child')) := by
  cases h with
  | same => exact .object habove child child'
  | object _ entries => exact .object habove entries child'

theorem eq_of_not_above (h : Thins above v w) (hnot : ¬ above) : w = v := by
  cases h with
  | same => rfl
  | object habove => exact absurd habove hnot

theorem eq_of_leaf (h : Thins above v w) (hleaf : ∀ entries, v ≠ some (.object entries)) : w = v := by
  cases h with
  | same => rfl
  | object _ entries => exact absurd rfl (hleaf entries)

theorem exists_object {entries : Json.Entries} (h : Thins above v w) (hobject : v = some (.object entries)) :
    ∃ entries', w = some (.object entries') := by
  cases h with
  | same => exact ⟨entries, hobject⟩
  | object _ _ entries' => exact ⟨entries', rfl⟩

/-- What comes of the same value is alike. -/
theorem alike (h : Thins above u v) (h' : Thins above' u w) : Alike v w := by
  cases h with
  | same =>
    cases h' with
    | same => exact .inl rfl
    | object _ entries entries' => exact .inr ⟨entries, entries', rfl, rfl⟩
  | object _ entries entries' =>
    cases h' with
    | same => exact .inr ⟨entries', entries, rfl, rfl⟩
    | object _ _ entries'' => exact .inr ⟨entries', entries'', rfl, rfl⟩

end Thins

/-- An object is a document without what lies at some places. -/
structure Prunes (source : Json.Entries) (places : List (List String)) (out : Json.Entries) : Prop where
  /-- Every object has each of its keys once. -/
  distinct : DistinctKeys (.object out)
  /-- At the places and inside them nothing is found. -/
  gone : ∀ place ∈ places, ∀ rest, follow (place ++ rest) (.object out) = none
  /-- At any other site the same is found, or an object for an object above a place. -/
  others : ∀ site, (∀ place ∈ places, ¬ place <+: site) →
    Thins (∃ place ∈ places, site <+: place) (follow site (.object source)) (follow site (.object out))

namespace Prunes

variable {source out : Json.Entries} {places : List (List String)}

theorem empty (hkeys : DistinctKeys (.object source)) : Prunes source [] source where
  distinct := hkeys
  gone := nofun
  others _ _ := .same _

/-- **One more place.** -/
theorem remove (h : Prunes source places out) {place : List String} (hplace : place ≠ []) :
    Prunes source (places ++ [place]) (removePath place out) where
  distinct := Json.distinctKeys_removePath h.distinct place
  gone := by
    intro other hother rest
    rcases List.mem_append.mp hother with hbefore | hlast
    · exact Json.follow_removePath_eq_none h.distinct hplace (h.gone other hbefore rest)
    · obtain rfl := List.mem_singleton.mp hlast
      exact Json.follow_removePath_append h.distinct hplace rest
  others := by
    intro site hsite
    have hlast : place ∈ places ++ [place] := List.mem_append_right places List.mem_cons_self
    have hbefore := h.others site fun other hother => hsite other (List.mem_append_left [place] hother)
    have hmore : (∃ other ∈ places, site <+: other) → ∃ other ∈ places ++ [place], site <+: other :=
      fun ⟨other, hother, habove⟩ => ⟨other, List.mem_append_left [place] hother, habove⟩
    obtain ⟨rest, rfl⟩ | ⟨rest, hrest, rfl⟩ | hapart := Json.inside_or_above_or_apart place site
    · exact absurd (List.prefix_append place rest) (hsite place hlast)
    · cases hfound : follow (site ++ rest) (.object out) with
      | none =>
        rw [Json.removePath_eq_self hfound]
        exact hbefore.mono hmore
      | some v =>
        obtain ⟨child, hchild, -⟩ := Json.exists_object_above hrest hfound
        rw [Json.follow_removePath_above hrest hchild]
        rw [hchild] at hbefore
        exact hbefore.thin_object ⟨site ++ rest, hlast, List.prefix_append site rest⟩ _
    · rw [Json.follow_removePath_of_apart hapart h.distinct]
      exact hbefore.mono hmore

/-- All the paths. -/
theorem foldl (h : Prunes source places out) (paths : List String) : Prunes source (places ++ paths.map segments)
    (paths.foldl (fun out path => removePath (segments path) out) out) := by
  induction paths generalizing places out with
  | nil => simpa using h
  | cons path paths ih => simpa using ih (h.remove (Json.segments_ne_nil path))

/-- What is left is known but for the order of entries. -/
theorem reordered (h : Prunes source places out) {places' : List (List String)} {out' : Json.Entries}
    (h' : Prunes source places' out') (hplaces : ∀ place, place ∈ places' ↔ place ∈ places) :
    Reordered (.object out) (.object out') := by
  refine .of_follow h.distinct h'.distinct fun site => ?_
  by_cases hinside : ∃ place ∈ places, place <+: site
  · obtain ⟨place, hplace, rest, rfl⟩ := hinside
    rw [h.gone place hplace, h'.gone place ((hplaces place).mpr hplace)]
    exact .inl rfl
  · have houtside : ∀ place ∈ places, ¬ place <+: site := fun place hplace hbegins => hinside ⟨place, hplace, hbegins⟩
    have houtside' : ∀ place ∈ places', ¬ place <+: site := fun place hplace =>
      houtside place ((hplaces place).mp hplace)
    exact (h.others site houtside).alike (h'.others site houtside')

end Prunes

/-! ### Exclusions -/

theorem includes_eq_false_iff {p : Projection} : p.includes = false ↔ ∀ e ∈ p, e.2 = 0 := by
  simp [includes]

/-- An exclusion takes out one of its paths after the other. -/
theorem entries_of_excludes {p : Projection} (h : p.includes = false) (source : Json.Entries) :
    p.entries source = (p.map (·.1)).foldl (fun out path => removePath (segments path) out) source := by
  rw [entries, if_neg (Bool.eq_false_iff.mp h)]

theorem prunes_entries {p : Projection} (h : p.includes = false) {source : Json.Entries}
    (hkeys : DistinctKeys (.object source)) : Prunes source ((p.map (·.1)).map segments) (p.entries source) := by
  rw [entries_of_excludes h]
  exact (Prunes.empty hkeys).foldl (p.map (·.1))

/-- **An exclusion removes exactly what is excluded**, however its paths overlap. Nothing is found at an excluded path,
nor inside it. At any other place an object stays an object and every other value stays what it is; and where the place
is not above an excluded path either, it holds what it holds in the document. The same paths in another order, or
repeated, leave the same but for the order of entries. -/
theorem apply_removes_excluded {p : Projection} (h : ∀ e ∈ p, e.2 = 0) {source : Json.Entries}
    (hkeys : DistinctKeys (.object source)) :
    ∃ out, p.apply (.object source) = .object out ∧ DistinctKeys (.object out) ∧
      (∀ e ∈ p, lookup e.1 (.object out) = none ∧ ∀ rest, follow (segments e.1 ++ rest) (.object out) = none) ∧
      (∀ site, (∀ e ∈ p, Apart (segments e.1) site) → follow site (.object out) = follow site (.object source)) ∧
      (∀ site, (∀ e ∈ p, ¬ segments e.1 <+: site) →
        (∀ child, follow site (.object source) = some (.object child) →
          ∃ child', follow site (.object out) = some (.object child')) ∧
        ((∀ child, follow site (.object source) ≠ some (.object child)) →
          follow site (.object out) = follow site (.object source))) ∧
      ∀ q : Projection, (∀ e ∈ q, e.2 = 0) → (∀ path, path ∈ q.map (·.1) ↔ path ∈ p.map (·.1)) →
        Reordered (.object out) (q.apply (.object source)) := by
  have hprunes := prunes_entries (includes_eq_false_iff.mpr h) hkeys
  have hplaces {P : List String → Prop} : (∀ place ∈ (p.map (·.1)).map segments, P place) ↔ ∀ e ∈ p, P (segments e.1) :=
    List.forall_mem_map.trans List.forall_mem_map
  refine ⟨p.entries source, rfl, hprunes.distinct, ?_, ?_, ?_, ?_⟩
  · intro e he
    have hgone := hplaces.mp hprunes.gone e he
    refine ⟨?_, hgone⟩
    rw [lookup, ← List.append_nil (segments e.1), hgone]
  · intro site hapart
    have hnot_above : ∀ place ∈ (p.map (·.1)).map segments, ¬ site <+: place :=
      hplaces.mpr fun e he => (hapart e he).2
    refine (hprunes.others site (hplaces.mpr fun e he => (hapart e he).1)).eq_of_not_above ?_
    rintro ⟨place, hplace, habove⟩
    exact hnot_above place hplace habove
  · intro site houtside
    have hothers := hprunes.others site (hplaces.mpr houtside)
    exact ⟨fun child hchild => hothers.exists_object hchild, hothers.eq_of_leaf⟩
  · intro q hzero hsame
    refine hprunes.reordered (prunes_entries (includes_eq_false_iff.mpr hzero) hkeys) fun place => ?_
    simp only [List.mem_map (f := segments), hsame]

/-- Paths inside one another, one inside a text, one that leads nowhere, and one of them twice. -/
def sampleExclusion : Projection := [("a.b", 0), ("a.b.c", 0), ("d", 0), ("t.x", 0), ("e.f", 0), ("d", 0)]

/-- A document for the sample exclusion. -/
def samplePruned : Json.Entries :=
  [("d", .ofInt 4), ("a", .object [("b", .object [("c", .null)]), ("k", .ofInt 1)]), ("t", .string "text"),
    ("z", .bool true)]

theorem distinctKeys_samplePruned : DistinctKeys (.object samplePruned) := by
  have hinner : DistinctKeys (.object [("c", .null)]) := by
    refine .object (by decide) ?_
    rintro e (_ | ⟨_, ⟨⟩⟩)
    exact .null
  have hchild : DistinctKeys (.object [("b", .object [("c", .null)]), ("k", .ofInt 1)]) := by
    refine .object (by decide) ?_
    rintro e (_ | ⟨_, _ | ⟨_, ⟨⟩⟩⟩)
    · exact hinner
    · exact .number _
  refine .object (by decide) ?_
  rintro e (_ | ⟨_, _ | ⟨_, _ | ⟨_, _ | ⟨_, ⟨⟩⟩⟩⟩⟩)
  · exact .number _
  · exact hchild
  · exact .string _
  · exact .bool _

/-- The sample exclusion leaves an object above its paths, the text that blocks one of them, and what lies apart; from the
last path to the first it leaves the same in another order. -/
theorem sample_apply_removes_excluded :
    (∀ e ∈ sampleExclusion, e.2 = 0) ∧ DistinctKeys (.object samplePruned) ∧
    ∃ out, sampleExclusion.apply (.object samplePruned) = .object out ∧
      lookup "a.b" (.object out) = none ∧ (∃ child, lookup "a" (.object out) = some (.object child)) ∧
      lookup "t" (.object out) = some (.string "text") ∧ lookup "a.k" (.object out) = some (.ofInt 1) ∧
      Reordered (.object out) (Projection.apply sampleExclusion.reverse (.object samplePruned)) := by
  have hflags : ∀ e ∈ sampleExclusion, e.2 = 0 := by decide
  obtain ⟨out, hout, -, hgone, hapart, hothers, horder⟩ := apply_removes_excluded hflags distinctKeys_samplePruned
  refine ⟨hflags, distinctKeys_samplePruned, out, hout, (hgone ("a.b", 0) (by decide)).1, ?_, ?_, ?_, ?_⟩
  · exact (hothers ["a"] (by decide)).1 _ rfl
  · exact ((hothers ["t"] (by decide)).2 nofun).trans rfl
  · exact (hapart ["a", "k"] (by decide)).trans rfl
  · refine horder _ (by decide) fun path => ?_
    rw [List.map_reverse, List.mem_reverse]

/-! ### Projecting again -/

/-- Copying a path depends on what the document holds there. -/
theorem copyPath_congr {source source' : Json.Entries} {path : String}
    (h : lookup path (.object source') = lookup path (.object source)) (out : Json.Entries) :
    copyPath source' out path = copyPath source out path := by
  rw [copyPath, copyPath, h]

/-- An inclusion finds at its paths what it found there in the document. -/
theorem lookup_entries {p : Projection} (h : p.includes = true) (source : Json.Entries) {path : String}
    (hpath : path ∈ p.paths) : lookup path (.object (p.entries source)) = lookup path (.object source) := by
  rw [entries_of_includes h]
  exact ((Copies.empty source).foldl p.paths).kept _ (List.mem_map_of_mem hpath)

/-- Taking out what is not there changes nothing. -/
theorem foldl_removePath_eq_self {paths : List String} {out : Json.Entries}
    (h : ∀ path ∈ paths, lookup path (.object out) = none) :
    paths.foldl (fun out path => removePath (segments path) out) out = out := by
  induction paths with
  | nil => rfl
  | cons path paths ih =>
    obtain ⟨hpath, hpaths⟩ := List.forall_mem_cons.mp h
    rw [List.foldl_cons, Json.removePath_eq_self hpath, ih hpaths]

/-- **Projecting again changes nothing**, not even the order of entries, whatever the projection. -/
theorem apply_twice (p : Projection) {v : Json} (h : v.DistinctKeys) : p.apply (p.apply v) = p.apply v := by
  cases v with
  | object source =>
    have hentries : p.entries (p.entries source) = p.entries source := by
      cases hincludes : p.includes with
      | true =>
        rw [entries_of_includes hincludes (p.entries source)]
        conv_rhs => rw [entries_of_includes hincludes]
        exact List.foldl_ext _ _ _ fun out path hpath => copyPath_congr (lookup_entries hincludes source hpath) out
      | false =>
        rw [entries_of_excludes hincludes (p.entries source)]
        refine foldl_removePath_eq_self fun path hpath => ?_
        have hgone := (prunes_entries hincludes h).gone (segments path) (List.mem_map_of_mem hpath) []
        rwa [List.append_nil] at hgone
    exact congrArg Json.object hentries
  | null | bool | number | string | array => rfl

/-- The last entry has come into the place of the first one, and stays there. -/
theorem sample_apply_twice :
    DistinctKeys (.object samplePruned) ∧
    sampleExclusion.apply (sampleExclusion.apply (.object samplePruned)) =
      .object [("z", .bool true), ("a", .object [("k", .ofInt 1)]), ("t", .string "text")] :=
  ⟨distinctKeys_samplePruned, (apply_twice sampleExclusion distinctKeys_samplePruned).trans rfl⟩

end Projection

end Gatehouse
