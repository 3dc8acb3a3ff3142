import Gatehouse.Proofs.Json.Paths

/-!
# What an inclusion keeps

An inclusion copies what is found at its paths, one path after the other, into an object that holds the id at most. Two
paths may be the same, and one may lie inside the other, in either order. After each of them the object is the part of
the document that the paths so far lead to (`Projection.Copies`). Nothing in a part can block a path that leads
somewhere in the document (`Projection.Copies.admits`), and what is kept above a path holds already what that leads to.
So the part grows by one path (`Projection.Copies.copyPath`), and in the end holds what every path leads to and nothing
else (`Projection.apply_keeps_included`).
-/

namespace Gatehouse

namespace Projection

open Json (follow lookup segments)

/-! ### Parts of a document -/

/-- What may be found at a site in the part of a document that some places lead to: at a place and inside it what the
document holds, above a place that leads somewhere an object, and the whole part. -/
inductive Stems (source : Json.Entries) (places : List (List String)) (site : List String) : Json → Prop where
  | inside {place : List String} {v : Json} (hplace : place ∈ places) (hbegins : place <+: site)
      (hv : follow site (.object source) = some v) : Stems source places site v
  | above {place : List String} {child : Json.Entries} (hplace : place ∈ places) (hbegins : site <+: place)
      (hleads : follow place (.object source) ≠ none) : Stems source places site (.object child)
  | whole {child : Json.Entries} (hsite : site = []) : Stems source places site (.object child)

/-- An object is the part of a document that some places lead to. -/
structure Copies (source : Json.Entries) (places : List (List String)) (out : Json.Entries) : Prop where
  /-- The places lead to what they lead to in the document. -/
  kept : ∀ place ∈ places, follow place (.object out) = follow place (.object source)
  /-- Nothing else is found. -/
  stems : ∀ site v, follow site (.object out) = some v → Stems source places site v

/-- More places, more that may be found. -/
theorem Stems.mono {source : Json.Entries} {places places' : List (List String)} {site : List String} {v : Json}
    (h : Stems source places site v) (hplaces : places ⊆ places') : Stems source places' site v := by
  cases h with
  | inside hplace hbegins hv => exact .inside (hplaces hplace) hbegins hv
  | above hplace hbegins hleads => exact .above (hplaces hplace) hbegins hleads
  | whole hsite => exact .whole hsite

/-- Where something is found in a part, there is something in the document. -/
theorem Stems.leads {source : Json.Entries} {places : List (List String)} {site : List String} {v : Json}
    (h : Stems source places site v) : follow site (.object source) ≠ none := by
  cases h with
  | inside _ _ hv => exact Option.ne_none_iff_exists'.mpr ⟨v, hv⟩
  | above _ hbegins hleads =>
    obtain ⟨rest, rfl⟩ := hbegins
    rw [Json.follow_append] at hleads
    intro hnone
    exact hleads (by rw [hnone, Option.bind_none])
  | whole hsite =>
    subst hsite
    exact Option.some_ne_none _

namespace Copies

variable {source out : Json.Entries} {places : List (List String)}

/-- Nothing is a part of every document. -/
theorem empty (source : Json.Entries) : Copies source [] [] where
  kept := nofun
  stems := by
    intro site v hv
    cases site with
    | nil =>
      obtain rfl := Option.some.inj hv
      exact .whole rfl
    | cons key site => exact absurd hv nofun

/-- **A part of a document blocks no place that leads somewhere in the document.** -/
theorem admits (h : Copies source places out) {place : List String} {w : Json}
    (hw : follow place (.object source) = some w) : Json.Admits place out := by
  rintro before rest rfl hrest v hv
  cases h.stems before v hv with
  | inside _ _ hsource =>
    obtain ⟨child, hchild, -⟩ := Json.exists_object_above hrest hw
    exact ⟨child, Option.some.inj (hsource.symm.trans hchild)⟩
  | above => exact ⟨_, rfl⟩
  | whole => exact ⟨_, rfl⟩

/-- A place that leads nowhere adds nothing. -/
theorem nowhere (h : Copies source places out) {place : List String} (hnone : follow place (.object source) = none) :
    Copies source (places ++ [place]) out where
  kept := by
    intro other hother
    rcases List.mem_append.mp hother with hbefore | hlast
    · exact h.kept other hbefore
    · obtain rfl := List.mem_singleton.mp hlast
      rw [hnone, Option.eq_none_iff_forall_ne_some]
      intro v hv
      exact (h.stems other v hv).leads hnone
  stems := by
    intro site v hv
    exact (h.stems site v hv).mono (List.subset_append_left places [place])

/-- A place that leads somewhere adds what it leads to. -/
theorem write (h : Copies source places out) {place : List String} {w : Json} (hplace : place ≠ [])
    (hw : follow place (.object source) = some w) : Copies source (places ++ [place]) (Json.setPath w place out) := by
  have hadmits : Json.Admits place out := h.admits hw
  have hlast : place ∈ places ++ [place] := List.mem_append_right places List.mem_cons_self
  have hinside (rest : List String) :
      follow (place ++ rest) (.object (Json.setPath w place out)) = follow (place ++ rest) (.object source) := by
    rw [Json.follow_setPath_append hadmits hplace, Json.follow_append, hw, Option.bind_some]
  constructor
  case kept =>
    intro other hother
    rcases List.mem_append.mp hother with hbefore | hnew
    · obtain ⟨rest, rfl⟩ | ⟨rest, -, rfl⟩ | hapart := Json.inside_or_above_or_apart place other
      · exact hinside rest
      · -- what is kept above the place holds the value already
        have hthere : follow (other ++ rest) (.object out) = some w := by
          rw [Json.follow_append, h.kept other hbefore, ← Json.follow_append, hw]
        rw [Json.setPath_self hthere, h.kept other hbefore]
      · rw [Json.follow_setPath_of_apart hapart, h.kept other hbefore]
    · obtain rfl := List.mem_singleton.mp hnew
      simpa using hinside []
  case stems =>
    intro site v hv
    obtain ⟨rest, rfl⟩ | ⟨rest, hrest, rfl⟩ | hapart := Json.inside_or_above_or_apart place site
    · rw [hinside rest] at hv
      exact .inside hlast (List.prefix_append place rest) hv
    · obtain ⟨child, hchild⟩ := Json.exists_follow_setPath hadmits hrest w
      obtain rfl := Option.some.inj (hchild.symm.trans hv)
      exact .above hlast (List.prefix_append site rest) (Option.ne_none_iff_exists'.mpr ⟨w, hw⟩)
    · rw [Json.follow_setPath_of_apart hapart] at hv
      exact (h.stems site v hv).mono (List.subset_append_left places [place])

/-- **One more path.** -/
theorem copyPath (h : Copies source places out) (path : String) :
    Copies source (places ++ [segments path]) (copyPath source out path) := by
  rw [Projection.copyPath]
  split
  next w hw => exact h.write (Json.segments_ne_nil path) hw
  next hnone => exact h.nowhere hnone

/-- All the paths. -/
theorem foldl (h : Copies source places out) (paths : List String) :
    Copies source (places ++ paths.map segments) (paths.foldl (Projection.copyPath source) out) := by
  induction paths generalizing places out with
  | nil => simpa using h
  | cons path paths ih => simpa using ih (h.copyPath path)

/-! What is found, where the places are given as paths. -/

variable {paths : List String}

/-- Values other than objects are those of the document. -/
theorem leaves (h : Copies source (paths.map segments) out) (site : List String) (v : Json)
    (hv : follow site (.object out) = some v) (hleaf : ∀ child, v ≠ .object child) :
    follow site (.object source) = some v ∧ ∃ path ∈ paths, segments path <+: site := by
  cases h.stems site v hv with
  | inside hplace hbegins hsource =>
    obtain ⟨path, hpath, rfl⟩ := List.mem_map.mp hplace
    exact ⟨hsource, path, hpath, hbegins⟩
  | above => exact absurd rfl (hleaf _)
  | whole => exact absurd rfl (hleaf _)

/-- Each site is inside a path or above it. -/
theorem comparable (h : Copies source (paths.map segments) out) (site : List String) (hsite : site ≠ [])
    (hfound : follow site (.object out) ≠ none) :
    ∃ path ∈ paths, lookup path (.object source) ≠ none ∧ (segments path <+: site ∨ site <+: segments path) := by
  obtain ⟨v, hv⟩ := Option.ne_none_iff_exists'.mp hfound
  cases h.stems site v hv with
  | inside hplace hbegins hsource =>
    obtain ⟨path, hpath, rfl⟩ := List.mem_map.mp hplace
    refine ⟨path, hpath, ?_, .inl hbegins⟩
    obtain ⟨rest, rfl⟩ := hbegins
    rw [Json.follow_append] at hsource
    obtain ⟨w, hw, -⟩ := Option.bind_eq_some_iff.mp hsource
    exact Option.ne_none_iff_exists'.mpr ⟨w, hw⟩
  | above hplace hbegins hleads =>
    obtain ⟨path, hpath, rfl⟩ := List.mem_map.mp hplace
    exact ⟨path, hpath, hleads, .inr hbegins⟩
  | whole hroot => exact absurd hroot hsite

theorem keys (h : Copies source (paths.map segments) out) (key : String) (hkey : key ∈ out.map (·.1)) :
    ∃ path ∈ paths, (segments path).head? = some key := by
  have hfound : follow [key] (.object out) ≠ none := by
    obtain ⟨v, hv⟩ := Option.isSome_iff_exists.mp (Assoc.hasKey_iff.mpr hkey)
    rw [Json.follow_cons_object, hv]
    exact Option.some_ne_none _
  obtain ⟨path, hpath, -, hcomparable⟩ := h.comparable [key] (List.cons_ne_nil key []) hfound
  refine ⟨path, hpath, ?_⟩
  obtain ⟨first, rest, hsegments⟩ := List.exists_cons_of_ne_nil (Json.segments_ne_nil path)
  rw [hsegments, List.cons_prefix_cons, List.cons_prefix_cons] at hcomparable
  rcases hcomparable with ⟨rfl, -⟩ | ⟨rfl, -⟩ <;> rw [hsegments, List.head?_cons]

end Copies

/-! ### Inclusions -/

/-- The paths that an inclusion keeps: the id, unless that is dropped, and the included ones. -/
def paths (p : Projection) : List String :=
  (if p.dropsId then [] else [idKey]) ++ (p.filter fun e => e.2 != 0).map (·.1)

theorem includes_iff {p : Projection} : p.includes = true ↔ ∃ e ∈ p, e.2 ≠ 0 := by
  simp [includes]

theorem dropsId_eq_false_iff {p : Projection} : p.dropsId = false ↔ (idKey, 0) ∉ p := by
  simp only [dropsId, List.any_eq_false, Bool.and_eq_true, beq_iff_eq]
  constructor
  · intro h hmem
    exact h _ hmem ⟨rfl, rfl⟩
  · rintro h e he ⟨hpath, hflag⟩
    exact h (by rwa [← hpath, ← hflag])

theorem mem_paths_of_flag {p : Projection} {e : String × Int} (he : e ∈ p) (hflag : e.2 ≠ 0) : e.1 ∈ p.paths :=
  List.mem_append_right _ (List.mem_map.mpr ⟨e, List.mem_filter.mpr ⟨he, by simpa using hflag⟩, rfl⟩)

theorem idKey_mem_paths {p : Projection} (h : (idKey, 0) ∉ p) : idKey ∈ p.paths := by
  rw [paths, dropsId_eq_false_iff.mpr h]
  exact List.mem_cons_self

/-- An inclusion copies one of its paths after the other, the id first. -/
theorem entries_of_includes {p : Projection} (h : p.includes = true) (source : Json.Entries) :
    p.entries source = p.paths.foldl (copyPath source) [] := by
  have hstart : p.start source = (if p.dropsId then [] else [idKey]).foldl (copyPath source) [] := by
    have hlookup : lookup idKey (.object source) = Assoc.get? idKey source := Option.bind_fun_some _
    rw [start]
    split
    · rfl
    · rw [List.foldl_cons, List.foldl_nil, copyPath, hlookup]
      cases Assoc.get? idKey source <;> rfl
  rw [entries, if_pos h, hstart, paths, List.foldl_append]

/-- Only the flags other than zero and the flags of the id are looked at. -/
theorem paths_filter (p : Projection) : Projection.paths (p.filter fun e => e.2 != 0 || e.1 == idKey) = p.paths := by
  have hdrops : Projection.dropsId (p.filter fun e => e.2 != 0 || e.1 == idKey) = p.dropsId := by
    rw [dropsId, dropsId, List.any_filter]
    congr 1
    funext e
    cases e.1 == idKey <;> simp
  rw [paths, paths, hdrops, List.filter_filter]
  congr 3
  funext e
  cases e.2 != 0 <;> rfl

/-- **An inclusion keeps exactly what is included**, however its paths overlap. Every included path leads to what it
leads to in the document, and so does the id unless that is dropped. Values other than objects are those of the document
and lie at a path of the projection or inside it; whatever is found lies inside such a path, or above one that leads
somewhere; keys are the first ones of the paths. Other flags of zero count for nothing. -/
theorem apply_keeps_included {p : Projection} (h : ∃ e ∈ p, e.2 ≠ 0) (source : Json.Entries) :
    ∃ out, p.apply (.object source) = .object out ∧
      (∀ e ∈ p, e.2 ≠ 0 → lookup e.1 (.object out) = lookup e.1 (.object source)) ∧
      ((idKey, 0) ∉ p → lookup idKey (.object out) = lookup idKey (.object source)) ∧
      (∀ site v, follow site (.object out) = some v → (∀ child, v ≠ .object child) →
        follow site (.object source) = some v ∧ ∃ path ∈ p.paths, segments path <+: site) ∧
      (∀ site ≠ [], follow site (.object out) ≠ none → ∃ path ∈ p.paths,
        lookup path (.object source) ≠ none ∧ (segments path <+: site ∨ site <+: segments path)) ∧
      (∀ key ∈ out.map (·.1), ∃ path ∈ p.paths, (segments path).head? = some key) ∧
      Projection.apply (p.filter fun e => e.2 != 0 || e.1 == idKey) (.object source) = .object out := by
  have hincludes : p.includes = true := includes_iff.mpr h
  have hcopies : Copies source (p.paths.map segments) (p.entries source) := by
    rw [entries_of_includes hincludes]
    exact (Copies.empty source).foldl p.paths
  have hkept : ∀ path ∈ p.paths, lookup path (.object (p.entries source)) = lookup path (.object source) :=
    fun path hpath => hcopies.kept _ (List.mem_map_of_mem hpath)
  refine ⟨p.entries source, rfl, ?_, ?_, hcopies.leaves, hcopies.comparable, hcopies.keys, ?_⟩
  · intro e he hflag
    exact hkept e.1 (mem_paths_of_flag he hflag)
  · intro hid
    exact hkept idKey (idKey_mem_paths hid)
  · have hincludes' : Projection.includes (p.filter fun e => e.2 != 0 || e.1 == idKey) = true := by
      obtain ⟨e, he, hflag⟩ := h
      exact includes_iff.mpr ⟨e, List.mem_filter.mpr ⟨he, by simp [hflag]⟩, hflag⟩
    rw [apply, entries_of_includes hincludes', paths_filter, entries_of_includes hincludes]

/-- Paths inside one another, in either order, one of them twice, one inside the id and one that is blocked. -/
def sampleOverlapping : Projection :=
  [("a.b", 1), ("a", 1), ("a.c.d", 2), ("a.b", -1), ("id.x", 1), ("e.f", 1), ("g", 0)]

/-- A document for the sample projection. -/
def sampleNested : Json.Entries :=
  [("id", .string "7"), ("a", .object [("c", .object [("d", .bool true)]), ("b", .null)]), ("e", .ofInt 5),
    ("g", .null)]

/-- The object under the first key is kept as a whole, whichever of its entries are named before and after it. -/
theorem sample_apply_keeps_included :
    (∃ e ∈ sampleOverlapping, e.2 ≠ 0) ∧
    ∃ out, sampleOverlapping.apply (.object sampleNested) = .object out ∧
      lookup "a" (.object out) = some (.object [("c", .object [("d", .bool true)]), ("b", .null)]) ∧
      lookup "e.f" (.object out) = none ∧ lookup "id" (.object out) = some (.string "7") := by
  have hflag : ∃ e ∈ sampleOverlapping, e.2 ≠ 0 := ⟨("a", 1), by decide, by decide⟩
  obtain ⟨out, hout, hincluded, hid, -⟩ := apply_keeps_included hflag sampleNested
  refine ⟨hflag, out, hout, ?_, ?_, ?_⟩
  · exact (hincluded ("a", 1) (by decide) (by decide)).trans rfl
  · exact (hincluded ("e.f", 1) (by decide) (by decide)).trans rfl
  · exact (hid (by decide)).trans rfl

end Projection

end Gatehouse
