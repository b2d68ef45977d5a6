import TokyoTester.Library.Codec

set_option autoImplicit false

/-! # Renamings

A finite renaming is a map from names to new names, the new ones drawn from a supply one by one.
Where no name occurs twice and the supply never repeats itself, it is injective, and on lists of
names that it covers, looking every name up and leaving out those not found is renaming the list.

A fresh name is one that a list of used names does not have. The search for one among numbered
candidates ends, because every candidate that it passes over uses up a used name. -/

namespace Renaming

/-! ## Drawing new names -/

/-- The names paired with what a supply gives from a position on. -/
def assign {α : Type} (supply : ℕ → α) (names : List String) (start : ℕ) : GoMap α :=
  GoMap.ofList (names.mapIdx fun i name => (name, supply (start + i)))

section Assign

variable {α : Type} {supply : ℕ → α} {names : List String} {start : ℕ}

theorem get?_assign (hnames : names.Nodup) {i : ℕ} (hi : i < names.length) :
    (assign supply names start).get? names[i] = some (supply (start + i)) := by
  have hsplit : names.mapIdx (fun j name => (name, supply (start + j))) =
      (names.mapIdx fun j name => (name, supply (start + j))).take i ++
        (names[i], supply (start + i)) ::
          (names.mapIdx fun j name => (name, supply (start + j))).drop (i + 1) := by
    have hi' : i < (names.mapIdx fun j name => (name, supply (start + j))).length := by simpa using hi
    have hget : (names.mapIdx fun j name => (name, supply (start + j)))[i] =
        (names[i], supply (start + i)) := by simp
    rw [← hget, List.cons_getElem_drop_succ, List.take_append_drop]
  rw [assign, hsplit]
  refine GoMap.get?_ofList fun entry hentry => ?_
  obtain ⟨j, hj, rfl⟩ := List.mem_iff_getElem.1 hentry
  simp only [List.getElem_drop, List.getElem_mapIdx]
  exact fun heq => absurd (hnames.getElem_inj_iff.1 heq) (by omega)

/-- The position from which a name's new name was drawn. -/
theorem get?_assign_of_mem (hnames : names.Nodup) {name : String} (hname : name ∈ names) :
    (assign supply names start).get? name = some (supply (start + names.idxOf name)) := by
  have hi : names.idxOf name < names.length := List.idxOf_lt_length_of_mem hname
  have hget : (assign supply names start).get? names[names.idxOf name] = _ :=
    get?_assign hnames hi
  rwa [List.getElem_idxOf] at hget

/-- A renaming that a map gives to every name of a list. -/
def Covers (m : GoMap α) (names : List String) (rename : String → α) : Prop :=
  ∀ name ∈ names, m.get? name = some (rename name)

theorem covers_assign (hnames : names.Nodup) :
    Covers (assign supply names start) names fun name => supply (start + names.idxOf name) :=
  fun _ hname => get?_assign_of_mem hnames hname

theorem injOn_assign (hsupply : Function.Injective supply) :
    Set.InjOn (fun name => supply (start + names.idxOf name)) {name | name ∈ names} := by
  intro a ha b hb hab
  have hidx : names.idxOf a = names.idxOf b := by simpa using hsupply hab
  exact (List.idxOf_inj ha).1 hidx

/-- The new names are the values of the supply from the position on. -/
theorem map_assign (hnames : names.Nodup) :
    names.map (fun name => supply (start + names.idxOf name)) =
      (List.range' start names.length).map supply := by
  refine List.ext_getElem (by simp) fun i hi _ => ?_
  have hi' : i < names.length := by simpa using hi
  have hidx : names.idxOf names[i] = i := hnames.idxOf_getElem i hi'
  simp [hidx]

end Assign

section Covers

variable {α : Type} {m : GoMap α} {names part : List String} {rename : String → α}

theorem Covers.mono (h : Covers m names rename) (hsub : ∀ name ∈ part, name ∈ names) :
    Covers m part rename := fun name hname => h name (hsub name hname)

/-- Looking names up and leaving out those not found loses none that are covered. -/
theorem Covers.filterMap_eq_map {keep : α → Bool} (h : Covers m names rename)
    (hkeep : ∀ name ∈ names, keep (rename name) = true) :
    names.filterMap (fun name => (m.get? name).filter keep) = names.map rename := by
  rw [← List.filterMap_eq_map]
  refine List.filterMap_congr fun name hname => ?_
  rw [h name hname, Option.filter_some_pos (hkeep name hname)]
  rfl

end Covers

/-! ## Fresh names -/

section Fresh

variable {α : Type} [DecidableEq α]

/-- The used names that are none of the first candidates. -/
def unpassed (used : List α) (candidate : ℕ ↪ α) (i : ℕ) : List α :=
  used.filter fun name => name ∉ (List.range i).map candidate

theorem length_unpassed_lt {used : List α} {candidate : ℕ ↪ α} {i : ℕ} (h : candidate i ∈ used) :
    (unpassed used candidate (i + 1)).length < (unpassed used candidate i).length := by
  have hsub : unpassed used candidate (i + 1) =
      (unpassed used candidate i).filter (· ≠ candidate i) := by
    rw [unpassed, unpassed, List.filter_filter]
    refine List.filter_congr fun name _ => ?_
    simp only [List.range_succ, List.map_append, List.map_cons, List.map_nil, List.mem_append,
      List.mem_singleton, not_or, Bool.decide_and, Bool.and_comm, ne_eq]
  have hmem : candidate i ∈ unpassed used candidate i := by
    refine List.mem_filter.2 ⟨h, decide_eq_true fun hpassed => ?_⟩
    obtain ⟨j, hj, heq⟩ := List.mem_map.1 hpassed
    exact absurd (candidate.injective heq) (List.mem_range.1 hj).ne
  rw [hsub]
  exact List.length_filter_lt_length_iff_exists.2 ⟨_, hmem, by simp⟩

/-- The first candidate from a position on that is not used. -/
def firstFree (used : List α) (candidate : ℕ ↪ α) (i : ℕ) : ℕ :=
  if candidate i ∈ used then firstFree used candidate (i + 1) else i
termination_by (unpassed used candidate i).length
decreasing_by exact length_unpassed_lt ‹_›

theorem candidate_firstFree_not_mem (used : List α) (candidate : ℕ ↪ α) (i : ℕ) :
    candidate (firstFree used candidate i) ∉ used := by
  fun_induction firstFree used candidate i with
  | case1 i hused ih => exact ih
  | case2 i hfree => exact hfree

end Fresh

end Renaming
