import Mathlib.Data.List.Sort
import Mathlib.Tactic

set_option autoImplicit false

/-! # Reading a table backwards, page by page

The entries of a table have keys. A page has the entries below a bound, those with the largest keys
first; one entry more than fits is looked for to know whether there are others, and the key of the
last entry is the bound of the next page. As long as what is added to the table has larger keys
than what is in it, the pages together have the entries of the table at the first one, each once
and in descending order (`follow_eq`). -/

namespace Pages

variable {ε : Type} (key : ε → Nat)

/-- The entries below a bound, in descending order of their keys. -/
def below (before : Option Nat) (t : List ε) : List ε :=
  (t.filter fun e => before.all fun b => key e < b).insertionSort fun e f => key f ≤ key e

/-- A page of them, and whether there are others. -/
def page (before : Option Nat) (limit : Nat) (t : List ε) : List ε × Bool :=
  let rows := (below key before t).take (limit + 1)
  (rows.take limit, limit < rows.length)

/-- The pages from a bound on, each from the table as it is when it is asked for, until there are
    no others; `none` when the requests run out. -/
def follow (tables : Nat → List ε) (limits : Nat → Nat) :
    Nat → Nat → Option Nat → Option (List ε)
  | 0, _, _ => none
  | fuel + 1, k, before =>
    let (entries, hasMore) := page key before (limits k) (tables k)
    if hasMore then
      (follow tables limits fuel (k + 1) (entries.getLast?.map key)).map (entries ++ ·)
    else some entries

variable {key} {before : Option Nat} {limit : Nat} {t : List ε} {e : ε}

/-! ## One page -/

theorem mem_below : e ∈ below key before t ↔ e ∈ t ∧ ∀ b ∈ before, key e < b := by
  cases before with
  | none => simp [below]
  | some b => simp [below]

theorem below_sorted (hkeys : (t.map key).Nodup) :
    (below key before t).Pairwise fun e f => key f < key e := by
  have htotal : Std.Total fun e f : ε => key f ≤ key e := ⟨fun e f => le_total (key f) (key e)⟩
  have htrans : IsTrans ε fun e f => key f ≤ key e := ⟨fun _ _ _ h h' => le_trans h' h⟩
  have hsorted : (below key before t).Pairwise fun e f => key f ≤ key e :=
    List.pairwise_insertionSort _ _
  have hperm : (below key before t).Perm (t.filter fun e => before.all fun b => key e < b) :=
    List.perm_insertionSort _ _
  have hdistinct : (below key before t).Pairwise fun e f => key e ≠ key f := by
    have hfiltered : ((t.filter fun e => before.all fun b => key e < b).map key).Nodup :=
      hkeys.sublist (List.filter_sublist.map key)
    exact List.pairwise_map.1 ((hperm.map key).nodup_iff.2 hfiltered)
  exact (hsorted.and hdistinct).imp fun h => lt_of_le_of_ne h.1 (Ne.symm h.2)

theorem page_eq : page key before limit t
    = ((below key before t).take limit, decide (limit < (below key before t).length)) := by
  unfold page
  dsimp only
  rw [List.take_take, Nat.min_eq_left (Nat.le_succ limit), List.length_take]
  congr 2
  exact propext (by omega)

/-- Lists in descending order are equal if they have the same entries. -/
theorem eq_of_sorted {xs ys : List ε} (hxs : xs.Pairwise fun e f => key f < key e)
    (hys : ys.Pairwise fun e f => key f < key e) (h : ∀ e, e ∈ xs ↔ e ∈ ys) : xs = ys := by
  have hnodup {zs : List ε} (hzs : zs.Pairwise fun e f => key f < key e) : zs.Nodup :=
    hzs.imp fun hlt heq => by simp [heq] at hlt
  refine ((List.perm_ext_iff_of_nodup (hnodup hxs) (hnodup hys)).2 h).eq_of_pairwise ?_ hxs hys
  intro e f _ _ hlt hlt'
  omega

/-- What is below the last entry of a page is what the page leaves. -/
theorem below_last (hkeys : (t.map key).Nodup)
    (hlast : ((below key before t).take limit).getLast? = some e) :
    below key (some (key e)) t = (below key before t).drop limit := by
  have hsplit : (below key before t).Pairwise fun e f => key f < key e := below_sorted hkeys
  rw [← List.take_append_drop limit (below key before t)] at hsplit
  obtain ⟨htaken, hdropped, hacross⟩ := List.pairwise_append.1 hsplit
  have hmem : e ∈ (below key before t).take limit := List.mem_of_getLast? hlast
  refine eq_of_sorted (below_sorted hkeys) hdropped fun f => ?_
  rw [mem_below]
  constructor
  · rintro ⟨hf, hlt⟩
    have hlt : key f < key e := hlt (key e) rfl
    have hbelow : f ∈ below key before t := mem_below.2 ⟨hf, fun b hb =>
      hlt.trans ((mem_below.1 (List.mem_of_mem_take hmem)).2 b hb)⟩
    rw [← List.take_append_drop limit (below key before t)] at hbelow
    refine (List.mem_append.1 hbelow).resolve_left fun hfirst => ?_
    -- the entries of the page have keys that are not below that of its last one
    obtain ⟨init, hinit⟩ := List.getLast?_eq_some_iff.1 hlast
    rw [hinit] at htaken hfirst
    rcases List.mem_append.1 hfirst with hfirst | hfirst
    · have := (List.pairwise_append.1 htaken).2.2 f hfirst e (by simp)
      omega
    · rw [List.mem_singleton.1 hfirst] at hlt
      omega
  · intro hf
    refine ⟨(mem_below.1 (List.mem_of_mem_drop hf)).1, ?_⟩
    intro b hb
    obtain rfl := Option.some.inj hb
    exact hacross e hmem f hf

/-! ## All pages -/

/-- Something is added above all that is there. -/
def Grown (key : ε → Nat) (t t' : List ε) : Prop :=
  ∃ new, t' = t ++ new ∧ ∀ e ∈ new, ∀ f ∈ t, key f < key e

theorem Grown.trans {t₁ t₂ t₃ : List ε} (h : Grown key t₁ t₂) (h' : Grown key t₂ t₃) :
    Grown key t₁ t₃ := by
  obtain ⟨new, rfl, hnew⟩ := h
  obtain ⟨new', rfl, hnew'⟩ := h'
  refine ⟨new ++ new', by simp, fun e he f hf => ?_⟩
  rcases List.mem_append.1 he with he | he
  · exact hnew e he f hf
  · exact hnew' e he f (List.mem_append_left _ hf)

/-- What is added above does not show below an entry. -/
theorem Grown.below_eq {t' : List ε} (h : Grown key t t') (he : e ∈ t) :
    below key (some (key e)) t' = below key (some (key e)) t := by
  obtain ⟨new, rfl, hnew⟩ := h
  unfold below
  rw [List.filter_append]
  have hnone : new.filter (fun f => (some (key e)).all fun b => key f < b) = [] := by
    rw [List.filter_eq_nil_iff]
    intro f hf
    have := hnew f hf e he
    simpa using this.le
  rw [hnone, List.append_nil]

variable {tables : Nat → List ε} {limits : Nat → Nat}

theorem grown_first (hgrown : ∀ k, Grown key (tables k) (tables (k + 1))) :
    ∀ k, Grown key (tables 0) (tables k) := by
  intro k
  induction k with
  | zero => exact ⟨[], by simp, by simp⟩
  | succ k ih => exact ih.trans (hgrown k)

/-- The pages from a bound on have what is below it. -/
theorem follow_below (hkeys : ((tables 0).map key).Nodup)
    (hgrown : ∀ k, Grown key (tables k) (tables (k + 1))) (hlimits : ∀ k, 0 < limits k) :
    ∀ (fuel k : Nat) (before : Option Nat) (rest : List ε),
      below key before (tables k) = rest → below key before (tables 0) = rest →
        rest.length < fuel → follow key tables limits fuel k before = some rest := by
  intro fuel
  induction fuel with
  | zero => exact fun _ _ _ _ _ hfuel => by omega
  | succ fuel ih =>
      intro k before rest hnow hfirst hfuel
      unfold follow
      rw [page_eq, hnow]
      dsimp only
      by_cases hmore : limits k < rest.length
      · rw [decide_eq_true hmore, if_pos rfl]
        have hpositive := hlimits k
        -- the bound of the next page is the key of an entry that is there from the first page on
        have hne : rest.take (limits k) ≠ [] := by
          intro hnil
          have hlength := congrArg List.length hnil
          rw [List.length_take, List.length_nil] at hlength
          omega
        obtain ⟨e, hlast⟩ := Option.ne_none_iff_exists'.1 (mt List.getLast?_eq_none_iff.1 hne)
        have hmem : e ∈ below key before (tables 0) :=
          hfirst ▸ List.mem_of_mem_take (List.mem_of_getLast? hlast)
        have hnext : below key (some (key e)) (tables 0) = rest.drop (limits k) := by
          rw [@below_last ε key before (limits k) (tables 0) e hkeys (by rw [hfirst, hlast]),
            hfirst]
        have hlater : below key (some (key e)) (tables (k + 1)) = rest.drop (limits k) :=
          ((grown_first hgrown (k + 1)).below_eq (mem_below.1 hmem).1).trans hnext
        rw [hlast, Option.map_some, ih (k + 1) (some (key e)) _ hlater hnext
          (by rw [List.length_drop]; omega), Option.map_some, List.take_append_drop]
      · rw [decide_eq_false hmore, if_neg (by simp)]
        rw [List.take_of_length_le (by omega)]

/-- **The pages have the table at the first one**, in descending order. -/
theorem follow_eq (hkeys : ((tables 0).map key).Nodup)
    (hgrown : ∀ k, Grown key (tables k) (tables (k + 1))) (hlimits : ∀ k, 0 < limits k)
    {fuel : Nat} (hfuel : (tables 0).length < fuel) :
    follow key tables limits fuel 0 none = some (below key none (tables 0)) := by
  refine follow_below hkeys hgrown hlimits fuel 0 none _ rfl rfl ?_
  have hlength : (below key none (tables 0)).length = (tables 0).length := by
    simp [below]
  omega

end Pages
