import Mathlib.Logic.Relation
import Mathlib.Tactic

set_option autoImplicit false

/-! # Depth-first search in finite graphs

A graph is a function `next` that gives the successors of a point; only the points of a list
`support` have any. `search` collects what can be reached, on a budget of steps; `weight` is how
much of the graph is unseen, and a budget of the pending points and the unseen weight is enough.

* `mem_search_iff` — the search finds exactly what is reachable;
* `exists_ready` — among points whose chains of successors all end, one has no successor among
  them;
* `acc_irrefl` — a point whose chains of successors all end is on no cycle. -/

namespace Graph

variable {α : Type} [DecidableEq α] (next : α → List α)

/-- An edge of the graph. -/
def Edge (a b : α) : Prop := b ∈ next a

/-- Every chain of successors from a point ends. -/
abbrev Ends (a : α) : Prop := Acc (fun b a => b ∈ next a) a

/-- Depth-first search: what is pending, and what has been seen. -/
def search : Nat → List α → List α → List α
  | 0, _, seen => seen
  | _, [], seen => seen
  | fuel + 1, a :: rest, seen =>
    if seen.contains a then search fuel rest seen
    else search fuel rest (search fuel (next a) (a :: seen))

/-- The points of the support that have not been seen, each with its edges. -/
def weight (support seen : List α) : Nat :=
  ((support.filter fun a => !seen.contains a).map fun a => 1 + (next a).length).sum

variable {next} {support : List α}

/-- Seeing more leaves less. -/
theorem weight_le_of_subset {seen seen' : List α} (h : seen ⊆ seen') :
    weight next support seen' ≤ weight next support seen := by
  unfold weight
  refine List.Sublist.sum_le_sum (List.Sublist.map _ ?_) fun _ _ => Nat.zero_le _
  refine List.monotone_filter_right support ?_
  intro a ha
  simp only [Bool.not_eq_true', List.contains_eq_mem, decide_eq_false_iff_not] at ha ⊢
  exact fun hseen => ha (h hseen)

theorem weight_le (seen : List α) :
    weight next support seen ≤ (support.map fun a => 1 + (next a).length).sum :=
  List.Sublist.sum_le_sum (List.filter_sublist.map _) fun _ _ => Nat.zero_le _

/-- A point that is seen takes its edges out of the weight. -/
theorem weight_cons {a : α} {seen : List α} (hnodup : support.Nodup)
    (hsupport : next a ≠ [] → a ∈ support) (ha : a ∉ seen) :
    (next a).length + weight next support (a :: seen) ≤ weight next support seen := by
  by_cases hmem : a ∈ support
  · have hperm : (support.filter fun b => !seen.contains b).Perm
        (a :: support.filter fun b => !(a :: seen).contains b) := by
      refine (List.perm_ext_iff_of_nodup (hnodup.filter _) ?_).2 ?_
      · refine List.nodup_cons.2 ⟨?_, hnodup.filter _⟩
        simp
      · intro b
        by_cases hb : b = a
        · subst hb
          simp [hmem, ha]
        · simp [hb]
    unfold weight
    rw [(hperm.map _).sum_eq, List.map_cons, List.sum_cons]
    omega
  · have hnone : next a = [] := by
      by_contra hne
      exact hmem (hsupport hne)
    rw [hnone, List.length_nil, Nat.zero_add]
    exact weight_le_of_subset (List.subset_cons_self a seen)

/-! ## The search -/

/-- What a search has done: it keeps what was seen, it sees what was pending, what is new is
    closed under successors, and nothing else is new. -/
structure Found (next : α → List α) (todo seen found : List α) : Prop where
  kept : seen ⊆ found
  pending : todo ⊆ found
  closed : ∀ a ∈ found, a ∉ seen → next a ⊆ found
  sound : ∀ b ∈ found, b ∈ seen ∨ ∃ a ∈ todo, Relation.ReflTransGen (Edge next) a b

/-- **A search with enough budget finds what it should.** -/
theorem search_found (hnodup : support.Nodup) (hsupport : ∀ a, next a ≠ [] → a ∈ support) :
    ∀ (fuel : Nat) (todo seen : List α), todo.length + weight next support seen ≤ fuel →
      Found next todo seen (search next fuel todo seen) := by
  intro fuel
  induction fuel with
  | zero =>
      intro todo seen hfuel
      obtain rfl : todo = [] := List.length_eq_zero_iff.1 (by omega)
      exact ⟨fun _ h => h, by simp, fun a ha hseen => absurd ha hseen, fun _ h => .inl h⟩
  | succ fuel ih =>
      intro todo seen hfuel
      cases todo with
      | nil => exact ⟨fun _ h => h, by simp, fun a ha hseen => absurd ha hseen, fun _ h => .inl h⟩
      | cons a rest =>
          rw [List.length_cons] at hfuel
          by_cases ha : a ∈ seen
          · have hsearch : search next (fuel + 1) (a :: rest) seen = search next fuel rest seen := by
              simp [search, ha]
            rw [hsearch]
            have found := ih rest seen (by omega)
            refine ⟨found.kept, ?_, found.closed, ?_⟩
            · exact List.cons_subset.2 ⟨found.kept ha, found.pending⟩
            · intro b hb
              refine (found.sound b hb).imp_right ?_
              rintro ⟨c, hc, hreach⟩
              exact ⟨c, List.mem_cons_of_mem a hc, hreach⟩
          · have hsearch : search next (fuel + 1) (a :: rest) seen
                = search next fuel rest (search next fuel (next a) (a :: seen)) := by
              simp [search, ha]
            rw [hsearch]
            -- first everything below `a`, then the rest
            have hbelow : weight next support (a :: seen) + (next a).length
                ≤ weight next support seen := by
              have := weight_cons hnodup (hsupport a) ha
              omega
            have below := ih (next a) (a :: seen) (by omega)
            have hseen : seen ⊆ search next fuel (next a) (a :: seen) := fun b hb =>
              below.kept (List.mem_cons_of_mem a hb)
            have hleft : weight next support (search next fuel (next a) (a :: seen))
                ≤ weight next support seen := weight_le_of_subset hseen
            have found := ih rest (search next fuel (next a) (a :: seen)) (by omega)
            refine ⟨fun b hb => found.kept (hseen hb), ?_, ?_, ?_⟩
            · exact List.cons_subset.2 ⟨found.kept (below.kept (by simp)), found.pending⟩
            · intro b hb hnew
              by_cases hold : b ∈ search next fuel (next a) (a :: seen)
              · by_cases hba : b = a
                · subst hba
                  exact fun c hc => found.kept (below.pending hc)
                · exact fun c hc =>
                    found.kept (below.closed b hold (by simp [hba, hnew]) hc)
              · exact found.closed b hb hold
            · intro b hb
              rcases found.sound b hb with hold | ⟨c, hc, hreach⟩
              · rcases below.sound b hold with hb | ⟨c, hc, hreach⟩
                · rcases List.mem_cons.1 hb with rfl | hb
                  · exact .inr ⟨b, by simp, .refl⟩
                  · exact .inl hb
                · exact .inr ⟨a, by simp, .head hc hreach⟩
              · exact .inr ⟨c, List.mem_cons_of_mem a hc, hreach⟩

/-- **A search from nothing finds exactly what is reachable.** -/
theorem mem_search_iff (hnodup : support.Nodup) (hsupport : ∀ a, next a ≠ [] → a ∈ support)
    {fuel : Nat} {todo : List α}
    (hfuel : todo.length + (support.map fun a => 1 + (next a).length).sum ≤ fuel) {b : α} :
    b ∈ search next fuel todo [] ↔ ∃ a ∈ todo, Relation.ReflTransGen (Edge next) a b := by
  have hweight : weight next support [] ≤ (support.map fun a => 1 + (next a).length).sum :=
    weight_le []
  have found := search_found hnodup hsupport fuel todo [] (by omega)
  constructor
  · intro hb
    exact (found.sound b hb).resolve_left (by simp)
  · rintro ⟨a, ha, hreach⟩
    induction hreach with
    | refl => exact found.pending ha
    | tail _ hedge ih => exact found.closed _ ih (by simp) hedge

/-! ## Chains that end -/

omit [DecidableEq α] in
/-- Among pending points whose successors are done or pending, one has all of them done. -/
theorem exists_ready {done todo : List α} (hends : ∀ a ∈ todo, Ends next a)
    (hclosed : ∀ a ∈ todo, ∀ b ∈ next a, b ∈ done ∨ b ∈ todo) (hne : todo ≠ []) :
    ∃ a ∈ todo, ∀ b ∈ next a, b ∈ done := by
  obtain ⟨a, ha⟩ := List.exists_mem_of_ne_nil todo hne
  induction hends a ha with
  | intro a _ ih =>
      by_cases hready : ∀ b ∈ next a, b ∈ done
      · exact ⟨a, ha, hready⟩
      · push Not at hready
        obtain ⟨b, hb, hdone⟩ := hready
        exact ih b hb ((hclosed a ha b hb).resolve_left hdone)

omit [DecidableEq α] in
/-- A point whose chains of successors all end is on no cycle. -/
theorem acc_irrefl {a : α} (h : Ends next a) : ¬ Relation.TransGen (Edge next) a a := by
  have hacc : Acc (Relation.TransGen fun b a => b ∈ next a) a := Acc.transGen h
  intro hcycle
  have hswap : Relation.TransGen (fun b a => b ∈ next a) a a :=
    Relation.transGen_swap.1 hcycle
  clear h hcycle
  induction hacc with
  | intro a _ ih => exact ih a hswap hswap

end Graph
