import TokyoTester.Bundle.Executable
import TokyoTester.Library.Rounding
import TokyoTester.Library.Sorting

set_option autoImplicit false

/-! # The order of init scripts

Both translators sort the init scripts of a service by subtracting their orders: the runner
subtracts machine integers and hands the comparison to a sort that is not stable, the UI subtracts
doubles and its sort is stable. -/

namespace TokyoTester

open Sorting Rounding

/-- The comparison of the runner; the difference of two orders wraps around. -/
def compareInitScripts (left right : InitScript) : Int64 := left.order - right.order

/-- What `translateServices` may make of the init scripts of a service. -/
def SortedInitScripts (scripts sorted : List InitScript) : Prop :=
  Sorts (fun left right => compareInitScripts left right < 0) scripts sorted

/-- The comparison of the UI, on the doubles that the orders are read as. -/
def compareInitScriptsUi (left right : InitScript) : Int :=
  toDouble (toDouble left.order.toInt - toDouble right.order.toInt)

/-- What the UI's `translateServices` makes of the init scripts of a service. -/
def sortedInitScriptsUi (scripts : List InitScript) : List InitScript :=
  scripts.mergeSort fun left right => compareInitScriptsUi left right ≤ 0

/-- The place of a script. -/
def scriptOrder (s : InitScript) : Int := s.order.toInt

/-- Both translators emit the scripts with orders that never decrease, and scripts of one order as
    they stand in the bundle. -/
def ScriptsInOrder (scripts : List InitScript) : Prop :=
  (∀ sorted, SortedInitScripts scripts sorted → InOrder scriptOrder scripts sorted) ∧
    InOrder scriptOrder scripts (sortedInitScriptsUi scripts)

/-! ## The translation -/

/-- The sort of the translation is one that `slices.SortFunc` may be. -/
theorem sortFunc_initScripts (scripts : List InitScript) :
    SortedInitScripts scripts
      (sortFunc (fun left right => left.order - right.order < 0) scripts) := by
  have hsorts :=
    sortFunc_sorts (fun left right : InitScript => left.order - right.order < 0) scripts
  show Sorts (fun left right => left.order - right.order < 0) scripts _
  simpa using hsorts

/-- The scripts of a translated service are the texts of its sorted scripts. -/
theorem translateService_initScripts (aliases : GoMap String) (serviceDeps : ServiceDeps)
    (node : FlowNode) :
    ∃ sorted, SortedInitScripts node.data.service.initScripts sorted ∧
      (translateService aliases serviceDeps node).initScripts
        = sorted.map fun s => normalizeServiceReferences s.script aliases :=
  ⟨_, sortFunc_initScripts _, rfl⟩

/-- **The UI's sort** is a stable one by the doubles. -/
theorem sortedInitScriptsUi_eq (scripts : List InitScript) :
    sortedInitScriptsUi scripts = stableSort (fun s => toDouble (scriptOrder s)) scripts := by
  unfold sortedInitScriptsUi stableSort compareInitScriptsUi
  congr 1
  funext left right
  rw [decide_eq_decide, toDouble_nonpos_iff]
  exact sub_nonpos

/-! ## The comparison of the runner -/

/-- The comparison agrees with the orders unless they are too far apart. -/
theorem compareInitScripts_agrees_iff {x y : InitScript} :
    ((compareInitScripts x y < 0 ↔ scriptOrder x < scriptOrder y) ∧
        (compareInitScripts y x < 0 ↔ scriptOrder y < scriptOrder x)) ↔
      scriptOrder y - scriptOrder x < 2 ^ 63 ∧ scriptOrder x - scriptOrder y < 2 ^ 63 := by
  have hx := x.order.le_toInt
  have hx' := x.order.toInt_lt
  have hy := y.order.le_toInt
  have hy' := y.order.toInt_lt
  unfold compareInitScripts scriptOrder
  rw [Int64.lt_iff_toInt_lt, Int64.lt_iff_toInt_lt, Int64.toInt_sub, Int64.toInt_sub]
  simp only [Int64.toInt_zero, Int.bmod_def]
  omega

theorem order_eq_iff {x y : InitScript} : scriptOrder x = scriptOrder y ↔ x.order = y.order :=
  Int64.toInt_inj

/-- **Init scripts run in order** if and only if no two orders are `2 ^ 63` or more apart, scripts
    of one order are equal, and two scripts that stand the wrong way round have orders that are
    different doubles. -/
theorem init_scripts_in_order_iff (scripts : List InitScript) :
    ScriptsInOrder scripts ↔
      (∀ x ∈ scripts, ∀ y ∈ scripts,
        scriptOrder y - scriptOrder x < 2 ^ 63 ∧ (x.order = y.order → x = y)) ∧
      scripts.Pairwise fun x y => scriptOrder y < scriptOrder x →
        toDouble (scriptOrder x) ≠ toDouble (scriptOrder y) := by
  have hties : ∀ x y : InitScript, scriptOrder x = scriptOrder y →
      ¬compareInitScripts x y < 0 := by
    intro x y h
    rw [order_eq_iff] at h
    simp [compareInitScripts, h]
  have hmono : ∀ x y : InitScript, scriptOrder x ≤ scriptOrder y →
      toDouble (scriptOrder x) ≤ toDouble (scriptOrder y) := fun x y h => toDouble_mono h
  unfold ScriptsInOrder SortedInitScripts
  rw [sorts_inOrder_iff hties, sortedInitScriptsUi_eq, inOrder_stableSort_iff hmono]
  refine and_congr_left' ⟨fun h x hx y hy => ⟨?_, fun heq => ?_⟩, fun h x hx y hy => ⟨?_, ?_⟩⟩
  · exact (compareInitScripts_agrees_iff.1 ⟨(h x hx y hy).1, (h y hy x hx).1⟩).1
  · exact (h x hx y hy).2 (order_eq_iff.2 heq)
  · exact (compareInitScripts_agrees_iff.2 ⟨(h x hx y hy).1, (h y hy x hx).1⟩).1
  · exact fun heq => (h x hx y hy).2 (order_eq_iff.1 heq)

/-- Two scripts with orders that are more than `2 ^ 63` apart. -/
def farScripts : List InitScript :=
  [{ id := "late", order := 2 ^ 62, script := "late" },
    { id := "early", order := -2 ^ 62 - 1, script := "early" }]

theorem strictWeak_farScripts :
    StrictWeak (fun left right => compareInitScripts left right < 0) farScripts :=
  ⟨by decide +kernel, by decide +kernel, by decide +kernel, by decide +kernel⟩

/-- Whatever the sort, the runner emits the later script first; the UI does not. -/
theorem far_scripts_out_of_order :
    (∀ sorted, SortedInitScripts farScripts sorted → sorted = farScripts) ∧
      sortedInitScriptsUi farScripts = farScripts.reverse ∧ ¬ScriptsInOrder farScripts := by
  have hrunner : ∀ sorted, SortedInitScripts farScripts sorted → sorted = farScripts := by
    intro sorted h
    have hanti : ∀ x ∈ farScripts, ∀ y ∈ farScripts, ¬compareInitScripts y x < 0 →
        ¬compareInitScripts x y < 0 → x = y := by decide +kernel
    exact List.Perm.eq_of_pairwise (fun x y hx hy => hanti x (h.perm.mem_iff.1 hx) y hy)
      (h.sorted strictWeak_farScripts) (by decide +kernel) h.perm
  refine ⟨hrunner, ?_, fun h => ?_⟩
  · rw [sortedInitScriptsUi_eq]
    have hstable := inOrder_stableSort (fun s => toDouble (scriptOrder s)) farScripts
    have hanti : ∀ x ∈ farScripts, ∀ y ∈ farScripts,
        toDouble (scriptOrder x) ≤ toDouble (scriptOrder y) →
        toDouble (scriptOrder y) ≤ toDouble (scriptOrder x) → x = y := by decide +kernel
    exact List.Perm.eq_of_pairwise
      (fun x y hx hy => hanti x (hstable.perm.mem_iff.1 hx) y (List.mem_reverse.1 hy))
      hstable.sorted (by decide +kernel) (hstable.perm.trans (List.reverse_perm _).symm)
  · have hsorted := sortFunc_initScripts farScripts
    have hinorder := (h.1 _ hsorted).sorted
    rw [hrunner _ hsorted] at hinorder
    exact absurd hinorder (by decide +kernel)

end TokyoTester
