import Mathlib.Data.List.Sort
import Mathlib.Tactic

set_option autoImplicit false

/-! # Reading a growing table with a cursor

The entries of a table have keys. A reader asks for the entries above its cursor, a page at a time
and in the order of their keys, and takes them one by one while its cursor follows. As long as
nothing is added below what the reader has already asked for, it has taken exactly the entries
between the position it started from and its cursor, each once and in order: `Faithful` is kept by
`fetch`, by `take`, and by an entry added above (`Faithful.append`). -/

namespace Cursor

variable {ε : Type}

/-- The entries above a position, in the order of their keys. -/
def above (key : ε → Nat) (after : Int) (t : List ε) : List ε :=
  (t.filter fun e => after < key e).insertionSort fun e f => key e ≤ key f

/-- A page of them. -/
def page (key : ε → Nat) (after : Int) (limit : Nat) (t : List ε) : List ε :=
  (above key after t).take limit

/-- A reader: where it started, how far it came, what it took, and the rest of the page it is
    working on. -/
structure Reader (ε : Type) where
  start : Int
  cursor : Int
  taken : List ε := []
  pending : List ε := []
deriving DecidableEq, Repr

namespace Reader

/-- The next page is asked for. -/
def fetch (key : ε → Nat) (limit : Nat) (t : List ε) (r : Reader ε) : Reader ε :=
  { r with pending := page key r.cursor limit t }

/-- The next entry of the page is taken. -/
def take (key : ε → Nat) (r : Reader ε) : Option (Reader ε) :=
  match r.pending with
  | [] => none
  | e :: rest => some { r with cursor := key e, taken := r.taken ++ [e], pending := rest }

end Reader

variable {key : ε → Nat} {t : List ε} {r r' : Reader ε} {after : Int} {limit : Nat} {e f : ε}

/-! ## Pages -/

theorem mem_above : e ∈ above key after t ↔ e ∈ t ∧ after < key e := by
  simp [above]

theorem above_sorted (hkeys : (t.map key).Nodup) :
    (above key after t).Pairwise fun e f => key e < key f := by
  have htotal : Std.Total fun e f : ε => key e ≤ key f := ⟨fun e f => le_total (key e) (key f)⟩
  have htrans : IsTrans ε fun e f => key e ≤ key f := ⟨fun _ _ _ h h' => le_trans h h'⟩
  have hsorted : (above key after t).Pairwise fun e f => key e ≤ key f :=
    List.pairwise_insertionSort _ _
  have hperm : (above key after t).Perm (t.filter fun e => after < key e) :=
    List.perm_insertionSort _ _
  have hdistinct : (above key after t).Pairwise fun e f => key e ≠ key f := by
    have hfiltered : ((t.filter fun e => after < key e).map key).Nodup :=
      hkeys.sublist (List.filter_sublist.map key)
    exact List.pairwise_map.1 ((hperm.map key).nodup_iff.2 hfiltered)
  exact (hsorted.and hdistinct).imp fun h => lt_of_le_of_ne h.1 h.2

theorem mem_of_mem_page (h : e ∈ page key after limit t) : e ∈ t ∧ after < key e :=
  mem_above.1 (List.mem_of_mem_take h)

theorem page_sorted (hkeys : (t.map key).Nodup) :
    (page key after limit t).Pairwise fun e f => key e < key f :=
  (above_sorted hkeys).sublist (List.take_sublist _ _)

/-- A page leaves nothing out below its last entry. -/
theorem mem_page_of_le (hkeys : (t.map key).Nodup) (he : e ∈ t) (hafter : after < key e)
    (hf : f ∈ page key after limit t) (hle : key e ≤ key f) : e ∈ page key after limit t := by
  have hmem : e ∈ above key after t := mem_above.2 ⟨he, hafter⟩
  have hsplit : (above key after t).Pairwise fun e f => key e < key f := above_sorted hkeys
  rw [← List.take_append_drop limit (above key after t)] at hmem hsplit
  rcases List.mem_append.1 hmem with h | h
  · exact h
  · -- what follows the page has larger keys
    have hlt := (List.pairwise_append.1 hsplit).2.2 f hf e h
    omega

theorem page_eq_nil (hlimit : 0 < limit) :
    page key after limit t = [] ↔ ∀ e ∈ t, (key e : Int) ≤ after := by
  have hempty : page key after limit t = [] ↔ above key after t = [] := by
    simp [page, List.take_eq_nil_iff, hlimit.ne']
  rw [hempty, List.eq_nil_iff_forall_not_mem]
  simp only [mem_above, not_and, not_lt]

/-! ## What a reader has taken -/

/-- The reader has taken what there is between its start and its cursor, and its page is the next
    part of the table. -/
structure Faithful (key : ε → Nat) (t : List ε) (r : Reader ε) : Prop where
  keys : (t.map key).Nodup
  forward : r.start ≤ r.cursor
  ordered : (r.taken ++ r.pending).Pairwise fun e f => key e < key f
  stored : ∀ e ∈ r.taken ++ r.pending, e ∈ t
  taken : ∀ e ∈ r.taken, r.start < key e ∧ key e ≤ r.cursor
  pending : ∀ e ∈ r.pending, r.cursor < key e
  /-- Nothing up to the cursor was left out. -/
  passed : ∀ e ∈ t, r.start < key e → key e ≤ r.cursor → e ∈ r.taken
  /-- Nothing up to the end of the page is left out. -/
  paged : ∀ e ∈ t, r.cursor < key e → ∀ f ∈ r.pending, key e ≤ key f → e ∈ r.pending

namespace Faithful

/-- A reader that has just started. -/
theorem init (hkeys : (t.map key).Nodup) (start : Int) :
    Faithful key t { start, cursor := start } where
  keys := hkeys
  forward := le_refl start
  ordered := List.Pairwise.nil
  stored := by simp
  taken := by simp
  pending := by simp
  passed e _ hlow hhigh := absurd hhigh (not_le.2 hlow)
  paged := by simp

/-- **Exactly the entries in between.** -/
theorem mem_taken (h : Faithful key t r) :
    e ∈ r.taken ↔ e ∈ t ∧ r.start < key e ∧ key e ≤ r.cursor := by
  constructor
  · intro he
    exact ⟨h.stored e (List.mem_append_left _ he), h.taken e he⟩
  · rintro ⟨he, hlow, hhigh⟩
    exact h.passed e he hlow hhigh

theorem fetch (h : Faithful key t r) (hdone : r.pending = []) (limit : Nat) :
    Faithful key t (r.fetch key limit t) where
  keys := h.keys
  forward := h.forward
  ordered := by
    have htaken := h.ordered
    rw [hdone, List.append_nil] at htaken
    refine List.pairwise_append.2 ⟨htaken, page_sorted h.keys, ?_⟩
    intro e he f hf
    have hlow := (h.taken e he).2
    have hhigh := (mem_of_mem_page hf).2
    omega
  stored := by
    intro e he
    rcases List.mem_append.1 he with he | he
    · exact h.stored e (List.mem_append_left _ he)
    · exact (mem_of_mem_page he).1
  taken := h.taken
  pending e he := (mem_of_mem_page he).2
  passed := h.passed
  paged e he hcursor f hf hle := mem_page_of_le h.keys he hcursor hf hle

theorem take (h : Faithful key t r) (hstep : r.take key = some r') : Faithful key t r' := by
  unfold Reader.take at hstep
  split at hstep
  · cases hstep
  · rename_i e rest hpending
    obtain rfl := Option.some.inj hstep
    have hcursor : r.cursor < key e := h.pending e (by simp [hpending])
    have hrest : ∀ f ∈ rest, key e < key f := by
      have hsorted := (List.pairwise_append.1 h.ordered).2.1
      rw [hpending] at hsorted
      exact (List.pairwise_cons.1 hsorted).1
    have hforward := h.forward
    refine
      { keys := h.keys
        forward := by simp only; omega
        ordered := by simpa [hpending] using h.ordered
        stored := by simpa [hpending] using h.stored
        taken := ?_
        pending := fun f hf => Int.ofNat_lt.2 (hrest f hf)
        passed := ?_
        paged := ?_ }
    · intro f hf
      rcases List.mem_append.1 hf with hf | hf
      · obtain ⟨hlow, hhigh⟩ := h.taken f hf
        exact ⟨hlow, by simp only; omega⟩
      · rw [List.mem_singleton.1 hf]
        exact ⟨by simp only; omega, le_refl _⟩
    · intro f hf hlow hhigh
      by_cases hold : (key f : Int) ≤ r.cursor
      · exact List.mem_append_left _ (h.passed f hf hlow hold)
      · -- it is in the page, and not behind the entry that is taken
        have hpage := h.paged f hf (not_le.1 hold) e (by simp [hpending])
          (Int.ofNat_le.1 hhigh)
        rw [hpending] at hpage
        rcases List.mem_cons.1 hpage with rfl | hlater
        · simp
        · have := hrest f hlater
          simp only at hhigh
          omega
    · intro f hf hlow g hg hle
      simp only at hlow
      have hpage := h.paged f hf (by omega) g (by simp [hpending, hg]) hle
      rw [hpending] at hpage
      rcases List.mem_cons.1 hpage with rfl | hlater
      · omega
      · exact hlater

/-- An entry is added that the reader has not passed. -/
theorem append (h : Faithful key t r) (hnew : ∀ f ∈ t, key f ≠ key e)
    (hpassed : r.start < key e → r.cursor < key e)
    (hpaged : r.start < key e → ∀ f ∈ r.pending, key f < key e) :
    Faithful key (t ++ [e]) r where
  keys := by
    rw [List.map_append, List.nodup_append]
    refine ⟨h.keys, by simp, ?_⟩
    intro k hk k' hk' heq
    obtain ⟨f, hf, rfl⟩ := List.mem_map.1 hk
    rw [List.map_singleton, List.mem_singleton] at hk'
    exact hnew f hf (heq.trans hk')
  forward := h.forward
  ordered := h.ordered
  stored f hf := List.mem_append_left _ (h.stored f hf)
  taken := h.taken
  pending := h.pending
  passed f hf hlow hhigh := by
    rcases List.mem_append.1 hf with hf | hf
    · exact h.passed f hf hlow hhigh
    · rw [List.mem_singleton.1 hf] at hlow hhigh
      have := hpassed hlow
      omega
  paged f hf hlow g hg hle := by
    rcases List.mem_append.1 hf with hf | hf
    · exact h.paged f hf hlow g hg hle
    · rw [List.mem_singleton.1 hf] at hlow hle
      have hforward := h.forward
      have := hpaged (by omega) g hg
      omega

end Faithful

end Cursor
