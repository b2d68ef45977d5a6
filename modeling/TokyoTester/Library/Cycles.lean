import TokyoTester.Library.Graph

set_option autoImplicit false

/-! # The search for cycles

A depth-first search with two sets: what is visited for good, and what is being visited. A point
that is met while it is being visited closes a cycle, and `report` makes of it and of the path to
it what the search is to tell. The sets are shared between the points that the search starts from.

* `visit_spec` — with enough steps a visit ends, and what it tells are closed paths;
* `search_mono` — more steps do not change a search that ended;
* `search_spec`, `reports_ne_nil_iff` — a search from all points tells something if and only if
  there is a cycle. -/

namespace Graph

variable {α β : Type} [DecidableEq α]

/-- A path that ends where it begins. -/
def ClosedPath (next : α → List α) (names : List α) : Prop :=
  ∃ a rest, names = a :: rest ++ [a] ∧ List.IsChain (Edge next) names

/-- Some point comes after itself. -/
def Cyclic (next : α → List α) : Prop := ∃ a, Relation.TransGen (Edge next) a a

/-- The sets of a search, and what it has told. -/
structure CycleState (α β : Type) where
  visited : List α := []
  visiting : List α := []
  reports : List β := []

section Search

variable (next : α → List α) (report : List α → α → Option β)

mutual

/-- The visit of a point that is reached on a path; `none` when the steps run out. -/
def visit : Nat → α → List α → CycleState α β → Option (CycleState α β)
  | 0, _, _, _ => none
  | fuel + 1, a, path, st =>
    if st.visiting.contains a then
      some { st with reports := st.reports ++ (report path a).toList }
    else if st.visited.contains a then some st
    else do
      let st ← visitAll fuel (next a) (path ++ [a]) { st with visiting := a :: st.visiting }
      some { st with visiting := st.visiting.erase a, visited := a :: st.visited }

/-- The visits of the successors of a point. -/
def visitAll : Nat → List α → List α → CycleState α β → Option (CycleState α β)
  | _, [], _, st => some st
  | 0, _ :: _, _, _ => none
  | fuel + 1, b :: rest, path, st => do
    let st ← visit fuel b path st
    visitAll fuel rest path st

end

/-- The visits of the points that a search starts from. -/
def visitRoots (fuel : Nat) : List α → CycleState α β → Option (CycleState α β)
  | [], st => some st
  | a :: rest, st => do
    let st ← visit next report fuel a [] st
    visitRoots fuel rest st

/-- What a search from some points tells. -/
def searchCycles (fuel : Nat) (roots : List α) : Option (List β) :=
  (visitRoots next report fuel roots {}).map (·.reports)

end Search

/-! ## Paths -/

section Paths

variable {next : α → List α}

omit [DecidableEq α] in
theorem transGen_of_isChain {a b : α} : ∀ {rest : List α},
    List.IsChain (Edge next) (a :: rest ++ [b]) → Relation.TransGen (Edge next) a b := by
  intro rest
  induction rest generalizing a with
  | nil =>
      intro h
      exact .single (by simpa using h)
  | cons c rest ih =>
      intro h
      obtain ⟨hedge, hrest⟩ := List.isChain_cons_cons.1 h
      exact .head hedge (ih hrest)

omit [DecidableEq α] in
theorem ClosedPath.cyclic {names : List α} (h : ClosedPath next names) : Cyclic next := by
  obtain ⟨a, rest, rfl, hchain⟩ := h
  exact ⟨a, transGen_of_isChain hchain⟩

/-- A path that meets one of its points again closes from there on. -/
theorem closedPath_drop {path : List α} {a : α} (hmem : a ∈ path)
    (hchain : List.IsChain (Edge next) (path ++ [a])) :
    ClosedPath next (path.drop (path.idxOf a) ++ [a]) := by
  have hlt : path.idxOf a < path.length := List.idxOf_lt_length_of_mem hmem
  refine ⟨a, path.drop (path.idxOf a + 1), ?_, ?_⟩
  · rw [List.drop_eq_getElem_cons hlt, List.getElem_idxOf hlt]
  · have hdrop := hchain.drop (path.idxOf a)
    rwa [List.drop_append_of_le_length hlt.le] at hdrop

omit [DecidableEq α] in
/-- If every chain of successors ends, nothing comes after itself. -/
theorem not_cyclic_of_ends (h : ∀ a, Ends next a) : ¬Cyclic next := by
  rintro ⟨a, hcycle⟩
  exact acc_irrefl (h a) hcycle

end Paths

/-! ## One visit -/

section Visit

variable {next : α → List α} {report : List α → α → Option β} {support : List α}

/-- What the search tells about a path that it closes. -/
def Told (next : α → List α) (report : List α → α → Option β) (r : β) : Prop :=
  ∃ path a, a ∈ path ∧ List.IsChain (Edge next) (path ++ [a]) ∧ report path a = some r

/-- What a search has met. -/
def CycleState.seen (st : CycleState α β) : List α := st.visited ++ st.visiting

/-- What visits of some points have done: they leave the points that are being visited, and if
    they tell nothing, every chain of successors from a visited point ends. -/
structure Visited (next : α → List α) (report : List α → α → Option β) (points : List α)
    (st st' : CycleState α β) : Prop where
  visiting : st'.visiting = st.visiting
  kept : st.visited ⊆ st'.visited
  reports : ∃ new, st'.reports = st.reports ++ new ∧ ∀ r ∈ new, Told next report r
  ends : st'.reports = st.reports → (∀ a ∈ st.visited, Ends next a) →
    points ⊆ st'.visited ∧ ∀ a ∈ st'.visited, Ends next a

omit [DecidableEq α] in
theorem Visited.seen {points : List α} {st st' : CycleState α β}
    (h : Visited next report points st st') : st.seen ⊆ st'.seen := by
  intro a ha
  rcases List.mem_append.1 ha with ha | ha
  · exact List.mem_append_left _ (h.kept ha)
  · exact List.mem_append_right _ (h.visiting ▸ ha)

omit [DecidableEq α] in
theorem Visited.nil (st : CycleState α β) : Visited next report [] st st :=
  ⟨rfl, fun _ h => h, ⟨[], by simp⟩, fun _ hends => ⟨by simp, hends⟩⟩

omit [DecidableEq α] in
/-- One point after the other. -/
theorem Visited.cons {a : α} {points : List α} {st st₁ st₂ : CycleState α β}
    (first : Visited next report [a] st st₁) (rest : Visited next report points st₁ st₂) :
    Visited next report (a :: points) st st₂ := by
  obtain ⟨new₁, hnew₁, htold₁⟩ := first.reports
  obtain ⟨new₂, hnew₂, htold₂⟩ := rest.reports
  refine ⟨rest.visiting.trans first.visiting, fun b hb => rest.kept (first.kept hb),
    ⟨new₁ ++ new₂, by simp [hnew₁, hnew₂], ?_⟩, ?_⟩
  · intro r hr
    exact (List.mem_append.1 hr).elim (htold₁ r) (htold₂ r)
  · intro hnone hends
    have hempty : new₁ = [] ∧ new₂ = [] := by simpa [hnew₁, hnew₂] using hnone
    obtain ⟨hfound₁, hends₁⟩ := first.ends (by simp [hnew₁, hempty.1]) hends
    obtain ⟨hfound₂, hends₂⟩ := rest.ends (by simp [hnew₂, hempty.2]) hends₁
    exact ⟨List.cons_subset.2 ⟨rest.kept (hfound₁ (by simp)), hfound₂⟩, hends₂⟩

variable (hnodup : support.Nodup) (hsupport : ∀ a, next a ≠ [] → a ∈ support)
  (hreport : ∀ path a, a ∈ path → (report path a).isSome)

include hnodup hsupport hreport

/-- **With enough steps a visit ends.** The path spells the points that are being visited, so one
    that is met again closes it. -/
theorem visit_spec (fuel : Nat) :
    (∀ a path (st : CycleState α β), 1 + 2 * weight next support st.seen ≤ fuel →
      st.visiting ⊆ path → List.IsChain (Edge next) (path ++ [a]) →
        ∃ st', visit next report fuel a path st = some st' ∧ Visited next report [a] st st') ∧
    ∀ points path (st : CycleState α β),
      2 * points.length + 2 * weight next support st.seen ≤ fuel →
      st.visiting ⊆ path → (∀ b ∈ points, List.IsChain (Edge next) (path ++ [b])) →
        ∃ st', visitAll next report fuel points path st = some st' ∧
          Visited next report points st st' := by
  induction fuel with
  | zero =>
      refine ⟨fun _ _ _ hfuel => by omega, ?_⟩
      intro points path st hfuel _ _
      obtain rfl : points = [] := List.length_eq_zero_iff.1 (by omega)
      exact ⟨st, by simp [visitAll], .nil st⟩
  | succ fuel ih =>
      refine ⟨?_, ?_⟩
      · intro a path st hfuel hpath hchain
        by_cases hvisiting : a ∈ st.visiting
        · -- the path closes here
          obtain ⟨r, hr⟩ := Option.isSome_iff_exists.1 (hreport path a (hpath hvisiting))
          refine ⟨{ st with reports := st.reports ++ [r] }, by simp [visit, hvisiting, hr], rfl,
            fun _ h => h, ⟨[r], rfl, ?_⟩, ?_⟩
          · rintro r' hr'
            obtain rfl := List.mem_singleton.1 hr'
            exact ⟨path, a, hpath hvisiting, hchain, hr⟩
          · intro hnone
            simp at hnone
        · by_cases hvisited : a ∈ st.visited
          · exact ⟨st, by simp [visit, hvisiting, hvisited], rfl, fun _ h => h, ⟨[], by simp⟩,
              fun _ hends => ⟨by simpa using hvisited, hends⟩⟩
          · have hseen : a ∉ st.seen := by simp [CycleState.seen, hvisited, hvisiting]
            have hweight := weight_cons hnodup (hsupport a) hseen
            have hleft : weight next support
                (CycleState.seen { st with visiting := a :: st.visiting })
                  ≤ weight next support (a :: st.seen) := by
              refine weight_le_of_subset fun b hb => ?_
              simp only [CycleState.seen, List.mem_cons, List.mem_append] at hb ⊢
              tauto
            have hpath₁ : a :: st.visiting ⊆ path ++ [a] := by
              intro b hb
              rcases List.mem_cons.1 hb with rfl | hb
              · simp
              · exact List.mem_append_left _ (hpath hb)
            have hchains : ∀ b ∈ next a, List.IsChain (Edge next) (path ++ [a] ++ [b]) := by
              intro b hb
              refine List.isChain_append.2 ⟨hchain, by simp, ?_⟩
              intro c hc d hd
              obtain rfl : a = c := by simpa using hc
              obtain rfl : b = d := by simpa using hd
              exact hb
            obtain ⟨st', hst', below⟩ := ih.2 (next a) (path ++ [a])
              { st with visiting := a :: st.visiting } (by omega) hpath₁ hchains
            refine ⟨{ st' with visiting := st'.visiting.erase a, visited := a :: st'.visited },
              by simp [visit, hvisiting, hvisited, hst'], ?_, ?_, below.reports, ?_⟩
            · show st'.visiting.erase a = st.visiting
              rw [below.visiting]
              exact List.erase_cons_head _ _
            · exact fun b hb => List.mem_cons_of_mem _ (below.kept hb)
            · intro hnone hends
              obtain ⟨hfound, hends'⟩ := below.ends hnone hends
              refine ⟨by simp, ?_⟩
              intro b hb
              rcases List.mem_cons.1 hb with rfl | hb
              · exact Acc.intro _ fun c hc => hends' c (hfound hc)
              · exact hends' b hb
      · intro points path st hfuel hpath hchains
        cases points with
        | nil => exact ⟨st, by simp [visitAll], .nil st⟩
        | cons b rest =>
            rw [List.length_cons] at hfuel
            obtain ⟨st₁, hst₁, first⟩ := ih.1 b path st (by omega) hpath (hchains b (by simp))
            have hle : weight next support st₁.seen ≤ weight next support st.seen :=
              weight_le_of_subset first.seen
            obtain ⟨st₂, hst₂, others⟩ := ih.2 rest path st₁ (by omega)
              (first.visiting ▸ hpath) fun c hc => hchains c (by simp [hc])
            exact ⟨st₂, by simp [visitAll, hst₁, hst₂], first.cons others⟩

/-- **The visits from the roots end.** -/
theorem visitRoots_spec {fuel : Nat}
    (hfuel : 1 + 2 * (support.map fun a => 1 + (next a).length).sum ≤ fuel) :
    ∀ (roots : List α) (st : CycleState α β), st.visiting = [] →
      ∃ st', visitRoots next report fuel roots st = some st' ∧ Visited next report roots st st' := by
  intro roots
  induction roots with
  | nil => exact fun st _ => ⟨st, rfl, .nil st⟩
  | cons a roots ih =>
      intro st hvisiting
      have hweight : weight next support st.seen
          ≤ (support.map fun a => 1 + (next a).length).sum := weight_le _
      obtain ⟨st₁, hst₁, first⟩ := (visit_spec hnodup hsupport hreport fuel).1 a [] st (by omega)
        (by simp [hvisiting]) (by simp)
      obtain ⟨st₂, hst₂, others⟩ := ih st₁ (first.visiting.trans hvisiting)
      exact ⟨st₂, by simp [visitRoots, hst₁, hst₂], first.cons others⟩

/-- **A search from all points is exact**: it ends, all it tells are closed paths, and if it tells
    nothing, every chain of successors ends. -/
theorem search_spec {fuel : Nat} {roots : List α}
    (hfuel : 1 + 2 * (support.map fun a => 1 + (next a).length).sum ≤ fuel)
    (hroots : support ⊆ roots) :
    ∃ reports, searchCycles next report fuel roots = some reports ∧
      (∀ r ∈ reports, Told next report r) ∧ (reports = [] → ∀ a, Ends next a) := by
  obtain ⟨st, hst, visited⟩ := visitRoots_spec hnodup hsupport hreport hfuel roots {} rfl
  obtain ⟨new, hnew, htold⟩ := visited.reports
  have hreports : st.reports = new := by simpa using hnew
  refine ⟨st.reports, by simp [searchCycles, hst], hreports ▸ htold, ?_⟩
  intro hnone a
  obtain ⟨hfound, hends⟩ := visited.ends hnone (by simp)
  by_cases ha : a ∈ support
  · exact hends a (hfound (hroots ha))
  · have hno : next a = [] := by
      by_contra hsome
      exact ha (hsupport a hsome)
    exact Acc.intro _ fun b hb => absurd hb (by simp [hno])

omit hnodup hsupport hreport in
/-- What tells closed paths, and nothing only where chains end, tells if there is a cycle. -/
theorem reports_ne_nil_iff {reports : List β} (htold : ∀ r ∈ reports, Told next report r)
    (hends : reports = [] → ∀ a, Ends next a) : reports ≠ [] ↔ Cyclic next := by
  constructor
  · intro hne
    obtain ⟨r, hr⟩ := List.exists_mem_of_ne_nil _ hne
    obtain ⟨path, a, hmem, hchain, -⟩ := htold r hr
    exact (closedPath_drop hmem hchain).cyclic
  · exact fun hcyclic hnone => not_cyclic_of_ends (hends hnone) hcyclic

end Visit

/-! ## More steps -/

section Steps

variable {next : α → List α} {report : List α → α → Option β}

/-- A visit that ended does not need the steps that it did not take. -/
theorem visit_succ (fuel : Nat) :
    (∀ a path (st st' : CycleState α β), visit next report fuel a path st = some st' →
      visit next report (fuel + 1) a path st = some st') ∧
    ∀ points path (st st' : CycleState α β), visitAll next report fuel points path st = some st' →
      visitAll next report (fuel + 1) points path st = some st' := by
  induction fuel with
  | zero =>
      refine ⟨fun _ _ _ _ h => by simp [visit] at h, ?_⟩
      intro points path st st' h
      cases points with
      | nil => simpa [visitAll] using h
      | cons b rest => simp [visitAll] at h
  | succ fuel ih =>
      refine ⟨?_, ?_⟩
      · intro a path st st' h
        rw [visit] at h ⊢
        split_ifs at h ⊢ with hvisiting hvisited
        · exact h
        · exact h
        · obtain ⟨st₁, hst₁, h⟩ := Option.bind_eq_some_iff.1 h
          exact Option.bind_eq_some_iff.2 ⟨st₁, ih.2 _ _ _ _ hst₁, h⟩
      · intro points path st st' h
        cases points with
        | nil => simpa [visitAll] using h
        | cons b rest =>
            rw [visitAll] at h ⊢
            obtain ⟨st₁, hst₁, h⟩ := Option.bind_eq_some_iff.1 h
            exact Option.bind_eq_some_iff.2 ⟨st₁, ih.1 _ _ _ _ hst₁, ih.2 _ _ _ _ h⟩

theorem visit_mono {fuel fuel' : Nat} (hle : fuel ≤ fuel') {a : α} {path : List α}
    {st st' : CycleState α β} (h : visit next report fuel a path st = some st') :
    visit next report fuel' a path st = some st' := by
  induction hle with
  | refl => exact h
  | step _ ih => exact (visit_succ _).1 _ _ _ _ ih

theorem visitRoots_mono {fuel fuel' : Nat} (hle : fuel ≤ fuel') :
    ∀ {roots : List α} {st st' : CycleState α β},
      visitRoots next report fuel roots st = some st' →
        visitRoots next report fuel' roots st = some st' := by
  intro roots
  induction roots with
  | nil => exact fun h => h
  | cons a roots ih =>
      intro st st' h
      rw [visitRoots] at h ⊢
      obtain ⟨st₁, hst₁, h⟩ := Option.bind_eq_some_iff.1 h
      exact Option.bind_eq_some_iff.2 ⟨st₁, visit_mono hle hst₁, ih h⟩

/-- More steps do not change a search that ended. -/
theorem search_mono {fuel fuel' : Nat} (hle : fuel ≤ fuel') {roots : List α} {reports : List β}
    (h : searchCycles next report fuel roots = some reports) :
    searchCycles next report fuel' roots = some reports := by
  obtain ⟨st, hst, rfl⟩ := Option.map_eq_some_iff.1 h
  rw [searchCycles, visitRoots_mono hle hst]
  rfl

end Steps

end Graph
