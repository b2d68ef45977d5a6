import TokyoTester.Library.Register
import TokyoTester.Library.Timestamp
import Mathlib.Data.Prod.Lex
import Mathlib.Data.String.Basic
import Mathlib.Logic.Function.Basic

set_option autoImplicit false

/-! # Hydration (`stores/workflow.store.sync.ts`, `stores/scenario.store.sync.ts`)

A copy of a workflow or scenario that comes from the server replaces the one in the store unless that
has a greater version, or the same version and a greater timestamp. The timestamps are compared as
texts: the server prints as many digits of the fraction as it needs, the browser always three. -/

namespace TokyoTester

open Timestamp

/-! ## The stores -/

/-- A workflow in the store. What the upsert does not look at is kept together. -/
structure HeldWorkflow (π : Type) where
  id : String
  version : Int
  updatedAt : Stamp
  rest : π

/-- A scenario in the store. -/
structure HeldScenario (π : Type) where
  id : String
  workflowId : String
  version : Int
  updatedAt : Stamp
  rest : π

structure WorkflowStore (π : Type) where
  workflows : String → Option (HeldWorkflow π)

structure ScenarioStore (π : Type) where
  scenarios : String → Option (HeldScenario π)
  activeScenarioIdByWorkflow : String → Option String

section Upserts

variable {π : Type}

/-- `upsertWorkflowFromSync`. -/
def WorkflowStore.upsertWorkflowFromSync (state : WorkflowStore π) (workflow : HeldWorkflow π) :
    WorkflowStore π :=
  let next : WorkflowStore π :=
    { state with workflows := Function.update state.workflows workflow.id (some workflow) }
  match state.workflows workflow.id with
  | some existing =>
    if workflow.version < existing.version ∨ existing.version = workflow.version ∧
        workflow.updatedAt.text < existing.updatedAt.text then state
    else next
  | none => next

/-- `upsertScenarioFromSync`. -/
def ScenarioStore.upsertScenarioFromSync (state : ScenarioStore π) (scenario : HeldScenario π) :
    ScenarioStore π :=
  let next : ScenarioStore π :=
    { scenarios := Function.update state.scenarios scenario.id (some scenario)
      activeScenarioIdByWorkflow := Function.update state.activeScenarioIdByWorkflow
        scenario.workflowId
        (some ((state.activeScenarioIdByWorkflow scenario.workflowId).getD scenario.id)) }
  match state.scenarios scenario.id with
  | some existing =>
    if scenario.version < existing.version ∨ existing.version = scenario.version ∧
        scenario.updatedAt.text < existing.updatedAt.text then state
    else next
  | none => next

end Upserts

/-! ## What they compare, and what they should -/

/-- A version with a timestamp, compared as the stores do. -/
def textKey (version : Int) (updatedAt : Stamp) : Int ×ₗ String := toLex (version, updatedAt.text)

/-- A version with the instant of the timestamp. -/
def age (version : Int) (updatedAt : Stamp) : Int ×ₗ ℚ := toLex (version, updatedAt.instant)

theorem textKey_lt_iff {v w : Int} {s t : Stamp} :
    textKey v s < textKey w t ↔ v < w ∨ w = v ∧ s.text < t.text := by
  rw [textKey, textKey, Prod.Lex.toLex_lt_toLex]
  exact or_congr_right (and_congr_left fun _ => eq_comm)

namespace HeldWorkflow

variable {π : Type}

def textKey (w : HeldWorkflow π) : Int ×ₗ String := TokyoTester.textKey w.version w.updatedAt

/-- What a newer copy has more of. -/
def age (w : HeldWorkflow π) : Int ×ₗ ℚ := TokyoTester.age w.version w.updatedAt

end HeldWorkflow

namespace HeldScenario

variable {π : Type}

def textKey (s : HeldScenario π) : Int ×ₗ String := TokyoTester.textKey s.version s.updatedAt

def age (s : HeldScenario π) : Int ×ₗ ℚ := TokyoTester.age s.version s.updatedAt

end HeldScenario

/-! ## The stores are registers -/

section Registers

variable {π : Type} {k : String}

theorem upsertWorkflowFromSync_workflows (state : WorkflowStore π) (workflow : HeldWorkflow π) :
    (state.upsertWorkflowFromSync workflow).workflows = Function.update state.workflows workflow.id
      (Register.write HeldWorkflow.textKey (state.workflows workflow.id) workflow) := by
  unfold WorkflowStore.upsertWorkflowFromSync Register.write
  cases hheld : state.workflows workflow.id with
  | none => rfl
  | some existing =>
      dsimp only
      by_cases hlt : workflow.textKey < existing.textKey
      · rw [if_pos (textKey_lt_iff.1 hlt), if_pos hlt, ← hheld, Function.update_eq_self]
      · rw [if_neg (textKey_lt_iff.not.1 hlt), if_neg hlt]

theorem upsertScenarioFromSync_scenarios (state : ScenarioStore π) (scenario : HeldScenario π) :
    (state.upsertScenarioFromSync scenario).scenarios = Function.update state.scenarios scenario.id
      (Register.write HeldScenario.textKey (state.scenarios scenario.id) scenario) := by
  unfold ScenarioStore.upsertScenarioFromSync Register.write
  cases hheld : state.scenarios scenario.id with
  | none => rfl
  | some existing =>
      dsimp only
      by_cases hlt : scenario.textKey < existing.textKey
      · rw [if_pos (textKey_lt_iff.1 hlt), if_pos hlt, ← hheld, Function.update_eq_self]
      · rw [if_neg (textKey_lt_iff.not.1 hlt), if_neg hlt]

/-- **After any calls**, an entity's place holds what its own copies leave in a register. -/
theorem upsertWorkflows_held (state : WorkflowStore π) (calls : List (HeldWorkflow π))
    (hone : ∀ w ∈ calls, w.id = k) :
    (calls.foldl WorkflowStore.upsertWorkflowFromSync state).workflows k
      = Register.writes HeldWorkflow.textKey (state.workflows k) calls := by
  induction calls generalizing state with
  | nil => rfl
  | cons w calls ih =>
      have hid : w.id = k := hone w List.mem_cons_self
      rw [List.foldl_cons, ih _ fun x hx => hone x (List.mem_cons_of_mem _ hx), Register.writes_cons,
        upsertWorkflowFromSync_workflows, hid, Function.update_self]

theorem upsertScenarios_held (state : ScenarioStore π) (calls : List (HeldScenario π))
    (hone : ∀ s ∈ calls, s.id = k) :
    (calls.foldl ScenarioStore.upsertScenarioFromSync state).scenarios k
      = Register.writes HeldScenario.textKey (state.scenarios k) calls := by
  induction calls generalizing state with
  | nil => rfl
  | cons s calls ih =>
      have hid : s.id = k := hone s List.mem_cons_self
      rw [List.foldl_cons, ih _ fun x hx => hone x (List.mem_cons_of_mem _ hx), Register.writes_cons,
        upsertScenarioFromSync_scenarios, hid, Function.update_self]

end Registers

/-! ## The newest copy -/

/-- No two timestamps of one version are ordered as texts against their instants. -/
def Ordered (stamps : Set (Int × Stamp)) : Prop :=
  ∀ version s t, (version, s) ∈ stamps → (version, t) ∈ stamps → s.text < t.text →
    s.instant ≤ t.instant

theorem age_le_of_ordered {stamps : Set (Int × Stamp)} (h : Ordered stamps) {v w : Int} {s t : Stamp}
    (hs : (v, s) ∈ stamps) (ht : (w, t) ∈ stamps) (hkey : textKey v s ≤ textKey w t) :
    age v s ≤ age w t := by
  rw [textKey, textKey, Prod.Lex.toLex_le_toLex] at hkey
  rw [age, age, Prod.Lex.toLex_le_toLex]
  rcases hkey with hlt | ⟨rfl, hle⟩
  · exact .inl hlt
  · refine .inr ⟨rfl, ?_⟩
    rcases hle.lt_or_eq with hlt | heq
    · exact h v s t hs ht hlt
    · exact (Stamp.instant_eq_of_text heq).le

theorem instant_le_of_age {v : Int} {s t : Stamp} (hkey : textKey v s ≤ textKey v t → age v s ≤ age v t)
    (htext : s.text < t.text) : s.instant ≤ t.instant := by
  have hage := hkey (Prod.Lex.toLex_le_toLex.2 (.inr ⟨rfl, htext.le⟩))
  rw [age, age, Prod.Lex.toLex_le_toLex] at hage
  rcases hage with hlt | ⟨-, hle⟩
  · exact absurd hlt (lt_irrefl v)
  · exact hle

section Newest

variable {π : Type}

/-- After any calls with copies of one workflow the workflow store holds one of them, and none is
    newer; what was held before counts as a copy too. -/
def KeepsNewestWorkflow (pool : Set (HeldWorkflow π)) : Prop :=
  ∀ (k : String) (state : WorkflowStore π) (calls : List (HeldWorkflow π)),
    let copies := (state.workflows k).toList ++ calls
    copies ≠ [] → (∀ w ∈ copies, w ∈ pool ∧ w.id = k) → ∃ held,
      (calls.foldl WorkflowStore.upsertWorkflowFromSync state).workflows k = some held ∧
        held ∈ copies ∧ ∀ w ∈ copies, w.age ≤ held.age

/-- The same of the scenario store. -/
def KeepsNewestScenario (pool : Set (HeldScenario π)) : Prop :=
  ∀ (k : String) (state : ScenarioStore π) (calls : List (HeldScenario π)),
    let copies := (state.scenarios k).toList ++ calls
    copies ≠ [] → (∀ s ∈ copies, s ∈ pool ∧ s.id = k) → ∃ held,
      (calls.foldl ScenarioStore.upsertScenarioFromSync state).scenarios k = some held ∧
        held ∈ copies ∧ ∀ s ∈ copies, s.age ≤ held.age

/-- The versions and timestamps of an entity's copies. -/
def workflowStamps (pool : Set (HeldWorkflow π)) (k : String) : Set (Int × Stamp) :=
  (fun w => (w.version, w.updatedAt)) '' {w ∈ pool | w.id = k}

def scenarioStamps (pool : Set (HeldScenario π)) (k : String) : Set (Int × Stamp) :=
  (fun s => (s.version, s.updatedAt)) '' {s ∈ pool | s.id = k}

/-- **A register by version and text** holds the newest exactly when texts are ordered like
    instants. -/
theorem register_newest_iff {α : Type} (version : α → Int) (updatedAt : α → Stamp) (pool : Set α) :
    (∀ calls : List α, (∀ a ∈ calls, a ∈ pool) → ∀ c,
        Register.writes (fun a => textKey (version a) (updatedAt a)) none calls = some c →
          ∀ a ∈ calls, age (version a) (updatedAt a) ≤ age (version c) (updatedAt c)) ↔
      Ordered ((fun a => (version a, updatedAt a)) '' pool) := by
  refine Register.rank_le_iff.trans ?_
  constructor
  · rintro hordered v s t ⟨a, ha, hav⟩ ⟨b, hb, hbv⟩ htext
    obtain ⟨rfl, rfl⟩ := Prod.mk.inj hav
    obtain ⟨hversion, rfl⟩ := Prod.mk.inj hbv
    refine instant_le_of_age (v := version a) (fun hkey => ?_) htext
    have hage := hordered a ha b hb
    rw [hversion] at hage
    exact hage hkey
  · intro hordered a ha b hb hkey
    exact age_le_of_ordered hordered ⟨a, ha, rfl⟩ ⟨b, hb, rfl⟩ hkey

theorem keepsNewestWorkflow_iff (pool : Set (HeldWorkflow π)) :
    KeepsNewestWorkflow pool ↔ ∀ k, Ordered (workflowStamps pool k) := by
  constructor
  · intro hkeeps k
    refine (register_newest_iff HeldWorkflow.version HeldWorkflow.updatedAt _).1 ?_
    intro calls hcalls c hc a ha
    have hheld : (calls.foldl WorkflowStore.upsertWorkflowFromSync ⟨fun _ => none⟩).workflows k
        = some c := by
      rw [upsertWorkflows_held _ _ fun w hw => (hcalls w hw).2]
      exact hc
    obtain ⟨held, hheld', -, hnewest⟩ :=
      hkeeps k ⟨fun _ => none⟩ calls (List.ne_nil_of_mem ha) hcalls
    obtain rfl := Option.some.inj (hheld.symm.trans hheld')
    exact hnewest a ha
  · intro hordered k state calls copies hne hcopies
    have hwritten : ∃ held, Register.writes HeldWorkflow.textKey none copies = some held :=
      Register.exists_writes hne
    obtain ⟨held, hheld⟩ := hwritten
    refine ⟨held, ?_, Register.writes_mem hheld,
      (register_newest_iff HeldWorkflow.version HeldWorkflow.updatedAt _).2 (hordered k) copies hcopies
        held hheld⟩
    rw [upsertWorkflows_held _ _ fun w hw => (hcopies w (List.mem_append_right _ hw)).2,
      Register.writes_held]
    exact hheld

theorem keepsNewestScenario_iff (pool : Set (HeldScenario π)) :
    KeepsNewestScenario pool ↔ ∀ k, Ordered (scenarioStamps pool k) := by
  constructor
  · intro hkeeps k
    refine (register_newest_iff HeldScenario.version HeldScenario.updatedAt _).1 ?_
    intro calls hcalls c hc a ha
    have hheld : (calls.foldl ScenarioStore.upsertScenarioFromSync
        ⟨fun _ => none, fun _ => none⟩).scenarios k = some c := by
      rw [upsertScenarios_held _ _ fun s hs => (hcalls s hs).2]
      exact hc
    obtain ⟨held, hheld', -, hnewest⟩ :=
      hkeeps k ⟨fun _ => none, fun _ => none⟩ calls (List.ne_nil_of_mem ha) hcalls
    obtain rfl := Option.some.inj (hheld.symm.trans hheld')
    exact hnewest a ha
  · intro hordered k state calls copies hne hcopies
    have hwritten : ∃ held, Register.writes HeldScenario.textKey none copies = some held :=
      Register.exists_writes hne
    obtain ⟨held, hheld⟩ := hwritten
    refine ⟨held, ?_, Register.writes_mem hheld,
      (register_newest_iff HeldScenario.version HeldScenario.updatedAt _).2 (hordered k) copies hcopies
        held hheld⟩
    rw [upsertScenarios_held _ _ fun s hs => (hcopies s (List.mem_append_right _ hs)).2,
      Register.writes_held]
    exact hheld

/-- In UTC the timestamps to avoid are those of one second of which one has the digits of the other
    and more, not all zero. -/
theorem ordered_utc_iff {stamps : Set (Int × Stamp)} (hutc : ∀ p ∈ stamps, p.2.offset = none) :
    Ordered stamps ↔ ∀ version s t, (version, s) ∈ stamps → (version, t) ∈ stamps →
      s.clock = t.clock → ¬Stamp.Extends s.fraction t.fraction := by
  constructor
  · intro h version s t hs ht hclock hextends
    obtain ⟨htext, hinstant⟩ := (Stamp.misordered_iff (hutc _ hs) (hutc _ ht)).2 ⟨hclock, hextends⟩
    exact absurd (h version s t hs ht htext) (not_le.2 hinstant)
  · intro h version s t hs ht htext
    by_contra hinstant
    obtain ⟨hclock, hextends⟩ :=
      (Stamp.misordered_iff (hutc _ hs) (hutc _ ht)).1 ⟨htext, not_le.1 hinstant⟩
    exact h version s t hs ht hclock hextends

/-- **Hydration keeps the newest copy**, whatever the calls and their order, exactly when no two
    copies of one version of the entity have timestamps that are ordered as texts against their
    instants. In UTC such are the timestamps of one second of which one continues the other. -/
theorem hydration_keeps_newest (workflows : Set (HeldWorkflow π)) (scenarios : Set (HeldScenario π)) :
    (KeepsNewestWorkflow workflows ↔ ∀ k, Ordered (workflowStamps workflows k)) ∧
      (KeepsNewestScenario scenarios ↔ ∀ k, Ordered (scenarioStamps scenarios k)) ∧
      ∀ stamps : Set (Int × Stamp), (∀ p ∈ stamps, p.2.offset = none) →
        (Ordered stamps ↔ ∀ version s t, (version, s) ∈ stamps → (version, t) ∈ stamps →
          s.clock = t.clock → ¬Stamp.Extends s.fraction t.fraction) :=
  ⟨keepsNewestWorkflow_iff workflows, keepsNewestScenario_iff scenarios, fun _ => ordered_utc_iff⟩

end Newest

/-- Half past twelve on New Year's day, as the server prints it. -/
def serverStamp : Stamp :=
  { year := 2026, month := 1, day := 1, hour := 12, minute := 30, second := 0, fraction := []
    offset := none, year_lt := by decide, month_pos := by decide, month_le := by decide
    day_pos := by decide, day_le := by decide, hour_lt := by decide, minute_lt := by decide
    second_lt := by decide }

/-- The same second in the browser, a quarter of it later. -/
def browserStamp : Stamp :=
  { serverStamp with fraction := [⟨2, by decide⟩, ⟨5, by decide⟩, ⟨0, by decide⟩] }

example : browserStamp.text = "2026-01-01T12:30:00.250Z" := by decide +kernel

theorem older_copy_held : ¬ ∀ pool : Set (HeldWorkflow Unit), KeepsNewestWorkflow pool := by
  intro hall
  have hordered := (keepsNewestWorkflow_iff _).1 (hall Set.univ) "w"
  have hle := hordered 1 browserStamp serverStamp ⟨⟨"w", 1, browserStamp, ()⟩, ⟨trivial, rfl⟩, rfl⟩
    ⟨⟨"w", 1, serverStamp, ()⟩, ⟨trivial, rfl⟩, rfl⟩ (by decide +kernel)
  revert hle
  decide +kernel

end TokyoTester
