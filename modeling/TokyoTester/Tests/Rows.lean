import Mathlib.Data.Fintype.EquivFin
import TokyoTester.Bundle.Executable
import TokyoTester.Tests.Values

set_option autoImplicit false

/-! # Expected results of database tests (`pkg/test/database.go`)

The rows of a query are read until `rows.Next` finds no more of them. That there are no more and
that reading them failed look the same until `rows.Err` is asked, which nobody does. -/

namespace TokyoTester

open Transaction

/-! ## Rows -/

/-- A value that `rows.Scan` stores in an `any`. -/
inductive DriverValue where
  | null
  | int64 (n : Int64)
  | float64 (x : Float64)
  | bool (b : Bool)
  | bytes (text : Bytes)
  | string (text : Bytes)
  /-- A `time.Time`, as its method `String` writes it. -/
  | time (text : Bytes)

def DriverValue.toAny : DriverValue → GoValue
  | null => .nil
  | int64 n => .int n.toInt
  | float64 x => .float64 x
  | bool b => .bool b
  | bytes text => .bytes text
  | string text => .string text
  | time text => .stringer text

/-- A row of a result with these columns. -/
structure SqlRow (columns : List String) where
  values : List DriverValue
  complete : values.length = columns.length
  /-- The error of `rows.Scan`. -/
  scanErr : Option String

/-- The rows that `rows.Next` goes to, until it finds no more. -/
structure SqlRows where
  columns : List String
  /-- The error of `rows.Columns`. -/
  columnsErr : Option String
  rows : List (SqlRow columns)
  /-- `rows.Err` at the end of the rows. -/
  err : Option String

/-- What is used of Go's `float64` and `fmt`. -/
structure Formats where
  float : String → ℚ
  /-- `int(x)` of a `float64` that is not in the range of `int`. -/
  overflow : ℚ → Int64
  sprint : Json → String
  sprintValue : GoValue → String

/-- `int(x)` of a `float64` that was read from JSON. -/
def Formats.int (f : Formats) (literal : String) : Int :=
  let x := f.float literal
  let n := x.num.tdiv x.den
  if -2 ^ 63 ≤ n ∧ n < 2 ^ 63 then n else (f.overflow x).toInt

section Columns

variable {columns : List String}

/-- Scanning a row into a slice. -/
def SqlRow.scan (message : String) (row : SqlRow columns) : Except String (List DriverValue) :=
  match row.scanErr with
  | some err => .error (message ++ err)
  | none => .ok row.values

/-- `rowMap[colName]`: columns of one name hide one another. -/
def SqlRow.get? (row : SqlRow columns) (colName : String) : Option DriverValue :=
  (GoMap.ofList (columns.zip row.values)).get? colName

end Columns

def SqlRows.getColumns (message : String) (s : SqlRows) : Except String Unit :=
  match s.columnsErr with
  | some err => .error (message ++ err)
  | none => .ok ()

/-! ## What is checked -/

/-- `normalizeExpected`. -/
def normalizeExpected : Json → Except String Json
  | .obj m =>
    match m.lookup "mode" with
    | some (.str "rows") =>
      match m.lookup "value" with
      | some (.bool v) => .ok (.bool v)
      | _ => .error "rows mode expects boolean value"
    | some (.str "single") => .ok ((m.lookup "value").getD .null)
    | some (.str "list") =>
      match m.lookup "value" with
      | some (.arr v) => .ok (.arr v)
      | _ => .error "list mode expects list of values"
    | some (.str "structured") => .ok (.obj (m.filter fun e => e.1 ≠ "mode"))
    | some (.str mode) => .error ("unknown expected_result mode: " ++ mode)
    | _ => .error "expected_result missing mode"
  | expected => .ok expected

/-- The loops that compare the bytes of a text with those of another at every place. -/
def containsBytes (text sub : Bytes) : Bool :=
  !text.isEmpty && !sub.isEmpty &&
    (List.range (text.length + 1 - sub.length)).any fun i => (text.drop i).take sub.length = sub

section Validation

variable (f : Formats)

/-- Comparing a value of the driver does not panic: it is no slice and no map. -/
theorem compareValues_isSome (value : DriverValue) (expected : Json) :
    (compareValues f.float value.toAny expected).isSome = true := by
  have hequal : ∃ same, value.toAny.unwrapBytes.equal f.float expected = some same := by
    cases value <;> cases expected <;>
      simp [DriverValue.toAny, GoValue.unwrapBytes, GoValue.equal]
  obtain ⟨same, hsame⟩ := hequal
  unfold compareValues
  simp only [hsame, Option.bind_eq_bind, Option.bind_some]
  split_ifs
  · rfl
  · split
    · rfl
    · split <;> rfl

/-- `compareValues` on a value of the driver. -/
def compareDriver (value : DriverValue) (expected : Json) : Bool :=
  (compareValues f.float value.toAny expected).get (compareValues_isSome f value expected)

def notFound (expected : Json) : String :=
  "expected value " ++ f.sprint expected ++ " not found in results"

/-- The loop of `validateSingleValue`. -/
def findValue {columns : List String} (expected : Json) : List (SqlRow columns) → Except String Unit
  | [] => .error (notFound f expected)
  | row :: rest => do
    let values ← row.scan "failed to scan row: "
    if values.any fun val => compareDriver f val expected then .ok () else findValue expected rest

section Column

variable {columns : List String} (rows : List (SqlRow columns)) (colName : String)
variable (rules : List (String × Json))

/-- The rule `value` of a column. -/
def checkValue : Except String Unit :=
  match rules.lookup "value" with
  | some expectedValue =>
    ensure (rows.any fun row => (row.get? colName).any fun val => compareDriver f val expectedValue)
      ("expected value " ++ f.sprint expectedValue ++ " not found")
  | none => .ok ()

/-- The rule `in` of a column. -/
def checkIn : Except String Unit :=
  match rules.lookup "in" with
  | some (.arr inList) =>
    rows.forM fun row =>
      match row.get? colName with
      | some val =>
        ensure (inList.any fun allowedVal => compareDriver f val allowedVal)
          ("value " ++ f.sprintValue val.toAny ++ " no in allowed list")
      | none => .ok ()
  | _ => .ok ()

/-- The rule `contains` of a column. -/
def checkContains : Except String Unit :=
  match rules.lookup "contains" with
  | some (.str sub) =>
    ensure (rows.any fun row => (row.get? colName).any fun val =>
        val.toAny.convertToString.any fun text => containsBytes text (textBytes sub))
      ("substring " ++ Text.quote sub ++ " not found in any value")
  | _ => .ok ()

def validateColumn : Json → Except String Unit
  | .obj rules => do
    ensure (rows.any fun row => (row.get? colName).isSome) "column not found in results"
    checkValue f rows colName rules
    checkIn f rows colName rules
    checkContains rows colName rules
  | _ => .error "invalid column rules format"

end Column

variable (s : SqlRows)

/-- `validateRowsExit`: only the first row is asked for. -/
def validateRowsExit (expected : Bool) : Except String Unit :=
  let hasRows := !s.rows.isEmpty
  if expected && !hasRows then .error "expected results but got none"
  else if !expected && hasRows then .error "expected no results but got rows"
  else .ok ()

def validateSingleValue (expected : Json) : Except String Unit := do
  s.getColumns "failed to get columns "
  findValue f expected s.rows

def validateValueList (expected : List Json) : Except String Unit := do
  s.getColumns "failed to get columns : "
  let allRows ← s.rows.mapM fun row => row.scan "failed to scan row: "
  expected.forM fun expectedVal =>
    ensure (allRows.flatten.any fun actualVal => compareDriver f actualVal expectedVal)
      (notFound f expectedVal)

section Structured

variable (rules : List (String × Json))

/-- The rule `min_rows`. -/
def checkMinRows (count : Nat) : Except String Unit :=
  match rules.lookup "min_rows" with
  | some (.num minRows) =>
    ensure (f.int minRows ≤ count) ("expected at least " ++ Text.decimal (f.int minRows) ++
      " rows , got " ++ Text.decimal count)
  | _ => .ok ()

/-- The rule `max_rows`. -/
def checkMaxRows (count : Nat) : Except String Unit :=
  match rules.lookup "max_rows" with
  | some (.num maxRows) =>
    ensure (count ≤ f.int maxRows) ("expected at most " ++ Text.decimal (f.int maxRows) ++
      " rows, got " ++ Text.decimal count)
  | _ => .ok ()

/-- The rules of the columns. Go ranges over them in any order. -/
def checkColumns {columns : List String} (rows : List (SqlRow columns)) : Except String Unit :=
  match rules.lookup "columns" with
  | some (.obj columnRules) =>
    columnRules.forM fun column =>
      (validateColumn f rows column.1 column.2).mapError fun err =>
        "column " ++ column.1 ++ " validation failed: " ++ err
  | _ => .ok ()

def validateStructured : Except String Unit := do
  s.getColumns "failed to get columns: "
  let _ ← s.rows.mapM fun row => row.scan "failed to scan row : "
  checkMinRows f rules s.rows.length
  checkMaxRows f rules s.rows.length
  checkColumns f rules s.rows

end Structured

def validateResult (expected : Json) : Except String Unit := do
  match ← normalizeExpected expected with
  | .bool v => validateRowsExit s v
  | .obj rules => validateStructured f s rules
  | .arr v => validateValueList f s v
  | .str v => validateSingleValue f s (.str v)
  | .num literal => validateSingleValue f s (.num literal)
  | .null => .error "unsupported expected_result type: <nil>"

end Validation

/-! ## What is expected -/

section Expectations

variable (f : Formats) {columns : List String} (rows : List (SqlRow columns))

/-- The rules of a column hold of these rows. -/
structure MeetsColumn (colName : String) (rules : List (String × Json)) : Prop where
  found : ∃ row ∈ rows, (row.get? colName).isSome
  value : ∀ e, rules.lookup "value" = some e →
    ∃ row ∈ rows, ∃ val ∈ row.get? colName, SameValue f.float val.toAny e
  among : ∀ allowed, rules.lookup "in" = some (.arr allowed) →
    ∀ row ∈ rows, ∀ val ∈ row.get? colName, ∃ e ∈ allowed, SameValue f.float val.toAny e
  contains : ∀ sub, rules.lookup "contains" = some (.str sub) →
    ∃ row ∈ rows, ∃ val ∈ row.get? colName, ∃ text, val.toAny.convertToString = some text ∧
      textBytes sub ≠ [] ∧ textBytes sub <:+: text

/-- The rules of a result hold of these rows. -/
structure MeetsRules (rules : List (String × Json)) : Prop where
  atLeast : ∀ literal, rules.lookup "min_rows" = some (.num literal) →
    f.int literal ≤ rows.length
  atMost : ∀ literal, rules.lookup "max_rows" = some (.num literal) →
    rows.length ≤ f.int literal
  columns : ∀ columnRules, rules.lookup "columns" = some (.obj columnRules) →
    ∀ column ∈ columnRules, ∃ rules, column.2 = .obj rules ∧ MeetsColumn f rows column.1 rules

/-- An expected value is among those of the rows. -/
def Among (e : Json) : Prop := ∃ row ∈ rows, ∃ val ∈ row.values, SameValue f.float val.toAny e

/-- These rows are what the normalized expectation asks for. -/
def MeetsNormalized : Json → Prop
  | .bool v => v = true ↔ rows ≠ []
  | .obj rules => MeetsRules f rows rules
  | .arr v => ∀ e ∈ v, Among f rows e
  | .str v => Among f rows (.str v)
  | .num literal => Among f rows (.num literal)
  | .null => False

/-- These rows are what the expectation asks for, in any of its modes. -/
def MeetsExpected (e : Json) : Prop := ∃ n, normalizeExpected e = .ok n ∧ MeetsNormalized f rows n

/-- These rows are what the expectation asks for, whatever rows follow. -/
def Established (e : Json) : Prop :=
  ∀ more : List (SqlRow columns), MeetsExpected f (rows ++ more) e

end Expectations

/-- The normalized expectation can be broken by rows that follow. -/
def BoundsNormalized : Json → Prop
  | .bool v => v = false
  | .obj rules =>
    (∃ literal, rules.lookup "max_rows" = some (.num literal)) ∨
      ∃ columnRules, rules.lookup "columns" = some (.obj columnRules) ∧
        ∃ column ∈ columnRules, ∃ rules, column.2 = .obj rules ∧
          ∃ allowed, rules.lookup "in" = some (.arr allowed)
  | _ => False

/-- The expectation is one of no rows, of at most so many rows, or of no other values. -/
def BoundsRows (e : Json) : Prop := ∃ n, normalizeExpected e = .ok n ∧ BoundsNormalized n

/-- `rows.Columns` or `rows.Scan` reports an error. -/
def SqlRows.Reported (s : SqlRows) : Prop :=
  s.columnsErr ≠ none ∨ ∃ row ∈ s.rows, row.scanErr ≠ none

/-- The rows end with an error. -/
def SqlRows.Failed (s : SqlRows) : Prop := s.err ≠ none ∨ s.Reported

/-! ## What passes -/

section Specifications

variable {f : Formats} {columns : List String} {rows : List (SqlRow columns)} {colName : String}
variable {rules : List (String × Json)}

theorem compareDriver_iff {val : DriverValue} {e : Json} :
    compareDriver f val e = true ↔ SameValue f.float val.toAny e := by
  rw [← compareValues_eq_true_iff, Option.eq_some_iff_get_eq]
  exact ⟨fun h => ⟨compareValues_isSome f val e, h⟩, fun ⟨_, h⟩ => h⟩

/-- **The search of bytes finds a part of the text**, but never the empty one. -/
theorem containsBytes_iff {text sub : Bytes} :
    containsBytes text sub = true ↔ sub ≠ [] ∧ sub <:+: text := by
  unfold containsBytes
  rw [Bool.and_eq_true, Bool.and_eq_true, List.any_eq_true]
  constructor
  · rintro ⟨⟨-, hsub⟩, i, -, hi⟩
    rw [decide_eq_true_eq] at hi
    refine ⟨by simpa using hsub, text.take i, (text.drop i).drop sub.length, ?_⟩
    calc text.take i ++ sub ++ (text.drop i).drop sub.length
        = text.take i ++ ((text.drop i).take sub.length ++ (text.drop i).drop sub.length) := by
          rw [hi, List.append_assoc]
      _ = text := by rw [List.take_append_drop, List.take_append_drop]
  · rintro ⟨hsub, before, after, rfl⟩
    refine ⟨⟨by simp [hsub], by simpa using hsub⟩, before.length, ?_, ?_⟩
    · rw [List.mem_range]
      simp only [List.length_append]
      omega
    · simp [List.append_assoc]

theorem checkValue_ok_iff : checkValue f rows colName rules = .ok () ↔
    ∀ e, rules.lookup "value" = some e →
      ∃ row ∈ rows, ∃ val ∈ row.get? colName, SameValue f.float val.toAny e := by
  unfold checkValue
  cases rules.lookup "value" with
  | none => simp
  | some e => simp [ensure_eq_ok, Option.any_eq_true, compareDriver_iff]

theorem checkIn_ok_iff : checkIn f rows colName rules = .ok () ↔
    ∀ allowed, rules.lookup "in" = some (.arr allowed) →
      ∀ row ∈ rows, ∀ val ∈ row.get? colName, ∃ e ∈ allowed, SameValue f.float val.toAny e := by
  unfold checkIn
  split
  · rename_i allowed hin
    rw [forM_eq_ok, hin]
    simp only [Option.some.injEq, Json.arr.injEq, forall_eq']
    refine forall₂_congr fun row _ => ?_
    cases row.get? colName with
    | none => simp
    | some val => simp [ensure_eq_ok, compareDriver_iff]
  · rename_i hno
    exact ⟨fun _ allowed hin => (hno allowed hin).elim, fun _ => rfl⟩

theorem checkContains_ok_iff : checkContains rows colName rules = .ok () ↔
    ∀ sub, rules.lookup "contains" = some (.str sub) →
      ∃ row ∈ rows, ∃ val ∈ row.get? colName, ∃ text, val.toAny.convertToString = some text ∧
        textBytes sub ≠ [] ∧ textBytes sub <:+: text := by
  unfold checkContains
  split
  · rename_i sub hcontains
    rw [ensure_eq_ok, hcontains]
    simp [Option.any_eq_true, containsBytes_iff]
  · rename_i hno
    exact ⟨fun _ sub hcontains => (hno sub hcontains).elim, fun _ => rfl⟩

theorem validateColumn_ok_iff {r : Json} : validateColumn f rows colName r = .ok () ↔
    ∃ rules, r = .obj rules ∧ MeetsColumn f rows colName rules := by
  cases r with
  | obj rules =>
      unfold validateColumn
      rw [ensure_bind_eq_ok, then_eq_ok, then_eq_ok, checkValue_ok_iff, checkIn_ok_iff,
        checkContains_ok_iff]
      constructor
      · rintro ⟨hfound, hvalue, hin, hcontains⟩
        exact ⟨rules, rfl, by simpa using hfound, hvalue, hin, hcontains⟩
      · rintro ⟨_, hrules, h⟩
        obtain rfl := Json.obj.inj hrules
        exact ⟨by simpa using h.found, h.value, h.among, h.contains⟩
  | _ => simp [validateColumn]

theorem checkMinRows_ok_iff {count : Nat} : checkMinRows f rules count = .ok () ↔
    ∀ literal, rules.lookup "min_rows" = some (.num literal) → f.int literal ≤ count := by
  unfold checkMinRows
  split
  · rename_i literal hmin
    rw [ensure_eq_ok, hmin]
    simp
  · rename_i hno
    exact ⟨fun _ literal hmin => (hno literal hmin).elim, fun _ => rfl⟩

theorem checkMaxRows_ok_iff {count : Nat} : checkMaxRows f rules count = .ok () ↔
    ∀ literal, rules.lookup "max_rows" = some (.num literal) → count ≤ f.int literal := by
  unfold checkMaxRows
  split
  · rename_i literal hmax
    rw [ensure_eq_ok, hmax]
    simp
  · rename_i hno
    exact ⟨fun _ literal hmax => (hno literal hmax).elim, fun _ => rfl⟩

theorem mapError_eq_ok {ε ε' α : Type} {x : Except ε α} {g : ε → ε'} {a : α} :
    x.mapError g = .ok a ↔ x = .ok a := by
  cases x with
  | error e => simp [Except.mapError]
  | ok b => simp [Except.mapError]

theorem checkColumns_ok_iff : checkColumns f rules rows = .ok () ↔
    ∀ columnRules, rules.lookup "columns" = some (.obj columnRules) →
      ∀ column ∈ columnRules, ∃ rules, column.2 = .obj rules ∧
        MeetsColumn f rows column.1 rules := by
  unfold checkColumns
  split
  · rename_i columnRules hcolumns
    rw [forM_eq_ok, hcolumns]
    simp only [mapError_eq_ok, validateColumn_ok_iff, Option.some.injEq, Json.obj.injEq,
      forall_eq']
  · rename_i hno
    exact ⟨fun _ columnRules hcolumns => (hno columnRules hcolumns).elim, fun _ => rfl⟩

theorem scan_eq_ok {row : SqlRow columns} {message : String} {values : List DriverValue} :
    row.scan message = .ok values ↔ row.scanErr = none ∧ values = row.values := by
  unfold SqlRow.scan
  cases row.scanErr with
  | none => simp [eq_comm]
  | some err => simp

theorem mapM_scan_eq_ok {message : String} {all : List (List DriverValue)} :
    (rows.mapM fun row => row.scan message) = .ok all ↔
      (∀ row ∈ rows, row.scanErr = none) ∧ all = rows.map (·.values) := by
  induction rows generalizing all with
  | nil => simp [pure, Except.pure, eq_comm]
  | cons row rest ih =>
      simp only [List.mapM_cons, bind_eq_ok, scan_eq_ok, ih, pure, Except.pure, Except.ok.injEq,
        List.forall_mem_cons, List.map_cons]
      constructor
      · rintro ⟨values, ⟨hrow, rfl⟩, others, ⟨hrest, rfl⟩, rfl⟩
        exact ⟨⟨hrow, hrest⟩, rfl⟩
      · rintro ⟨⟨hrow, hrest⟩, rfl⟩
        exact ⟨_, ⟨hrow, rfl⟩, _, ⟨hrest, rfl⟩, rfl⟩

end Specifications

section Results

variable {f : Formats} {s : SqlRows}

theorem not_reported_iff :
    ¬s.Reported ↔ s.columnsErr = none ∧ ∀ row ∈ s.rows, row.scanErr = none := by
  unfold SqlRows.Reported
  push Not
  rfl

theorem getColumns_eq_ok {message : String} :
    s.getColumns message = .ok () ↔ s.columnsErr = none := by
  unfold SqlRows.getColumns
  cases s.columnsErr with
  | none => simp
  | some err => simp

theorem validateRowsExit_ok_iff {expected : Bool} :
    validateRowsExit s expected = .ok () ↔ (expected = true ↔ s.rows ≠ []) := by
  unfold validateRowsExit
  cases expected <;> cases s.rows <;> simp

/-- A value that is found was read before any error. -/
theorem findValue_ok {columns : List String} {rows : List (SqlRow columns)} {e : Json}
    (h : findValue f e rows = .ok ()) : Among f rows e := by
  induction rows with
  | nil => cases h
  | cons row rest ih =>
      rw [findValue, bind_eq_ok] at h
      obtain ⟨values, hscan, h⟩ := h
      obtain ⟨-, rfl⟩ := scan_eq_ok.1 hscan
      split_ifs at h with hany
      · obtain ⟨val, hval, hsame⟩ := List.any_eq_true.1 hany
        exact ⟨row, List.mem_cons_self, val, hval, compareDriver_iff.1 hsame⟩
      · obtain ⟨row', hrow', hfound⟩ := ih h
        exact ⟨row', List.mem_cons_of_mem row hrow', hfound⟩

theorem findValue_of_among {columns : List String} {rows : List (SqlRow columns)} {e : Json}
    (hscan : ∀ row ∈ rows, row.scanErr = none) (h : Among f rows e) :
    findValue f e rows = .ok () := by
  induction rows with
  | nil => simp [Among] at h
  | cons row rest ih =>
      rw [List.forall_mem_cons] at hscan
      rw [findValue, bind_eq_ok]
      refine ⟨row.values, scan_eq_ok.2 ⟨hscan.1, rfl⟩, ?_⟩
      split_ifs with hany
      · rfl
      · refine ih hscan.2 ?_
        obtain ⟨row', hrow', val, hval, hsame⟩ := h
        rcases List.mem_cons.1 hrow' with rfl | hrow'
        · exact absurd (List.any_eq_true.2 ⟨val, hval, compareDriver_iff.2 hsame⟩) hany
        · exact ⟨row', hrow', val, hval, hsame⟩

theorem validateValueList_ok_iff {expected : List Json} :
    validateValueList f s expected = .ok () ↔
      ¬s.Reported ∧ ∀ e ∈ expected, Among f s.rows e := by
  have hamong : ∀ e, ((s.rows.map (·.values)).flatten.any fun val => compareDriver f val e) = true ↔
      Among f s.rows e := by
    intro e
    simp only [List.any_eq_true, List.mem_flatten, List.mem_map, compareDriver_iff, Among]
    constructor
    · rintro ⟨val, ⟨_, ⟨row, hrow, rfl⟩, hval⟩, hsame⟩
      exact ⟨row, hrow, val, hval, hsame⟩
    · rintro ⟨row, hrow, val, hval, hsame⟩
      exact ⟨val, ⟨_, ⟨row, hrow, rfl⟩, hval⟩, hsame⟩
  unfold validateValueList
  rw [not_reported_iff, then_eq_ok, getColumns_eq_ok, bind_eq_ok]
  simp only [mapM_scan_eq_ok, forM_eq_ok, ensure_eq_ok]
  constructor
  · rintro ⟨hcolumns, _, ⟨hscan, rfl⟩, h⟩
    exact ⟨⟨hcolumns, hscan⟩, fun e he => (hamong e).1 (h e he)⟩
  · rintro ⟨⟨hcolumns, hscan⟩, h⟩
    exact ⟨hcolumns, _, ⟨hscan, rfl⟩, fun e he => (hamong e).2 (h e he)⟩

theorem validateStructured_ok_iff {rules : List (String × Json)} :
    validateStructured f s rules = .ok () ↔ ¬s.Reported ∧ MeetsRules f s.rows rules := by
  unfold validateStructured
  rw [not_reported_iff, then_eq_ok, getColumns_eq_ok, bind_eq_ok]
  simp only [mapM_scan_eq_ok, then_eq_ok, checkMinRows_ok_iff, checkMaxRows_ok_iff,
    checkColumns_ok_iff]
  constructor
  · rintro ⟨hcolumns, _, ⟨hscan, -⟩, hmin, hmax, hrules⟩
    exact ⟨⟨hcolumns, hscan⟩, hmin, hmax, hrules⟩
  · rintro ⟨⟨hcolumns, hscan⟩, h⟩
    exact ⟨hcolumns, _, ⟨hscan, rfl⟩, h.atLeast, h.atMost, h.columns⟩

theorem validateSingleValue_ok {e : Json} (h : validateSingleValue f s e = .ok ()) :
    Among f s.rows e := by
  unfold validateSingleValue at h
  exact findValue_ok (then_eq_ok.1 h).2

theorem validateSingleValue_of_among {e : Json} (hread : ¬s.Reported) (h : Among f s.rows e) :
    validateSingleValue f s e = .ok () := by
  obtain ⟨hcolumns, hscan⟩ := not_reported_iff.1 hread
  unfold validateSingleValue
  exact then_eq_ok.2 ⟨getColumns_eq_ok.2 hcolumns, findValue_of_among hscan h⟩

/-- **What passes is what is expected**, of the rows that were read. -/
theorem meets_of_validateResult {e : Json} (h : validateResult f s e = .ok ()) :
    MeetsExpected f s.rows e := by
  unfold validateResult at h
  obtain ⟨n, hn, h⟩ := bind_eq_ok.1 h
  refine ⟨n, hn, ?_⟩
  cases n with
  | null => cases h
  | bool v => exact validateRowsExit_ok_iff.1 h
  | num literal => exact validateSingleValue_ok h
  | str v => exact validateSingleValue_ok h
  | arr v => exact (validateValueList_ok_iff.1 h).2
  | obj rules => exact (validateStructured_ok_iff.1 h).2

/-- **What is expected passes**, unless an error is reported while the rows are read. -/
theorem validateResult_of_meets {e : Json} (hread : ¬s.Reported) (h : MeetsExpected f s.rows e) :
    validateResult f s e = .ok () := by
  obtain ⟨n, hn, h⟩ := h
  unfold validateResult
  refine bind_eq_ok.2 ⟨n, hn, ?_⟩
  cases n with
  | null => exact h.elim
  | bool v => exact validateRowsExit_ok_iff.2 h
  | num literal => exact validateSingleValue_of_among hread h
  | str v => exact validateSingleValue_of_among hread h
  | arr v => exact validateValueList_ok_iff.2 ⟨hread, h⟩
  | obj rules => exact validateStructured_ok_iff.2 ⟨hread, h⟩

end Results

/-! ## What later rows change -/

section Continuations

variable {f : Formats} {columns : List String} {rows : List (SqlRow columns)}

/-- A row with the same value in every column. -/
def SqlRow.filled (val : DriverValue) : SqlRow columns where
  values := columns.map fun _ => val
  complete := by simp
  scanErr := none

theorem SqlRow.get?_filled {val : DriverValue} {colName : String} (h : colName ∈ columns) :
    (SqlRow.filled val : SqlRow columns).get? colName = some val := by
  have hzip : columns.zip (columns.map fun _ => val) = columns.map fun c => (c, val) := by
    clear h
    induction columns with
    | nil => rfl
    | cons c rest ih => rw [List.map_cons, List.zip_cons_cons, ih, List.map_cons]
  unfold SqlRow.get? SqlRow.filled
  rw [GoMap.get?_ofList_eq, hzip]
  cases hfind : (columns.map fun c => (c, val)).reverse.find? fun x => x.1 = colName with
  | none =>
      have hno := List.find?_eq_none.1 hfind (colName, val) (by simpa using h)
      simp at hno
  | some entry =>
      obtain ⟨c, -, rfl⟩ := List.mem_map.1 (List.mem_reverse.1 (List.mem_of_find?_eq_some hfind))
      rfl

theorem SqlRow.mem_of_get? {row : SqlRow columns} {colName : String}
    (h : (row.get? colName).isSome) : colName ∈ columns := by
  unfold SqlRow.get? at h
  rw [GoMap.get?_ofList_eq, Option.isSome_map, List.find?_isSome] at h
  obtain ⟨entry, hentry, hname⟩ := h
  rw [decide_eq_true_eq] at hname
  rw [← hname]
  exact (List.of_mem_zip (List.mem_reverse.1 hentry)).1

theorem Among.append {e : Json} (h : Among f rows e) (more : List (SqlRow columns)) :
    Among f (rows ++ more) e := by
  obtain ⟨row, hrow, hval⟩ := h
  exact ⟨row, List.mem_append_left more hrow, hval⟩

/-- A column without a list of allowed values is not broken by more rows. -/
theorem MeetsColumn.append {colName : String} {rules : List (String × Json)}
    (h : MeetsColumn f rows colName rules)
    (hin : ∀ allowed, rules.lookup "in" ≠ some (.arr allowed)) (more : List (SqlRow columns)) :
    MeetsColumn f (rows ++ more) colName rules := by
  have hmore : ∀ {p : SqlRow columns → Prop}, (∃ row ∈ rows, p row) → ∃ row ∈ rows ++ more, p row :=
    fun ⟨row, hrow, hp⟩ => ⟨row, List.mem_append_left more hrow, hp⟩
  exact {
    found := hmore h.found
    value := fun e he => hmore (h.value e he)
    among := fun allowed hallowed => absurd hallowed (hin allowed)
    contains := fun sub hsub => hmore (h.contains sub hsub) }

/-- **An expectation without an upper bound stays met.** -/
theorem MeetsNormalized.append {n : Json} (h : MeetsNormalized f rows n)
    (hn : ¬BoundsNormalized n) (more : List (SqlRow columns)) :
    MeetsNormalized f (rows ++ more) n := by
  cases n with
  | null => exact h.elim
  | bool v =>
      have hv : v = true := by simpa [BoundsNormalized] using hn
      have hrows : rows ≠ [] := h.1 hv
      show v = true ↔ rows ++ more ≠ []
      simp [hv, hrows]
  | num literal => exact Among.append h more
  | str v => exact Among.append h more
  | arr v => exact fun e he => (h e he).append more
  | obj rules =>
      rw [BoundsNormalized, not_or] at hn
      refine ⟨fun literal hmin => ?_, fun literal hmax => (hn.1 ⟨literal, hmax⟩).elim,
        fun columnRules hcolumns column hcolumn => ?_⟩
      · have hle := h.atLeast literal hmin
        rw [List.length_append]
        omega
      · obtain ⟨rules', hrules, hmeets⟩ := h.columns columnRules hcolumns column hcolumn
        refine ⟨rules', hrules, hmeets.append (fun allowed hallowed => ?_) more⟩
        exact hn.2 ⟨columnRules, hcolumns, column, hcolumn, rules', hrules, allowed, hallowed⟩

/-- There is a text that is not one of the allowed values. -/
theorem exists_not_allowed (f : Formats) (allowed : List Json) :
    ∃ text, ∀ e ∈ allowed, ¬SameValue f.float (DriverValue.string text).toAny e := by
  obtain ⟨text, htext⟩ := Infinite.exists_notMem_finset (allowed.filterMap expectedString).toFinset
  refine ⟨text, fun e he hsame => htext ?_⟩
  cases e with
  | str v =>
      obtain rfl := Option.some.inj hsame
      exact List.mem_toFinset.2 (List.mem_filterMap.2 ⟨.str v, he, rfl⟩)
  | _ => simp [SameValue, DriverValue.toAny, GoValue.convertToFloat64] at hsame

/-- **An expectation with an upper bound is never established**: later rows can break it. -/
theorem not_established_of_bounds {e : Json} (h : BoundsRows e) : ¬Established f rows e := by
  obtain ⟨n, hn, hbounds⟩ := h
  intro hall
  have hmeets : ∀ more, MeetsNormalized f (rows ++ more) n := by
    intro more
    obtain ⟨n', hn', hmore⟩ := hall more
    rw [hn, Except.ok.injEq] at hn'
    exact hn' ▸ hmore
  cases n with
  | bool v =>
      have hv : v = false := hbounds
      have hmore : v = true ↔ rows ++ [.filled .null] ≠ [] := hmeets [.filled .null]
      simp [hv] at hmore
  | obj rules =>
      rcases hbounds with ⟨literal, hmax⟩ | ⟨columnRules, hcolumns, column, hcolumn, rules', hrules,
        allowed, hallowed⟩
      · -- one row more than there may be
        have hle := (hmeets (List.replicate ((f.int literal).toNat + 1) (.filled .null))).atMost
          literal hmax
        rw [List.length_append, List.length_replicate] at hle
        omega
      · -- a row with a value that is not allowed
        obtain ⟨text, htext⟩ := exists_not_allowed f allowed
        obtain ⟨rules'', hrules'', hcolumn'⟩ :=
          (hmeets [.filled (.string text)]).columns columnRules hcolumns column hcolumn
        obtain rfl := Json.obj.inj (hrules.symm.trans hrules'')
        obtain ⟨row, -, hfound⟩ := hcolumn'.found
        obtain ⟨e, he, hsame⟩ := hcolumn'.among allowed hallowed (.filled (.string text)) (by simp)
          (.string text) (SqlRow.get?_filled (SqlRow.mem_of_get? hfound))
        exact htext e he hsame
  | null => exact hbounds.elim
  | num literal => exact hbounds.elim
  | str v => exact hbounds.elim
  | arr v => exact hbounds.elim

end Continuations

/-! ## Rows that end with an error -/

section Errors

variable (f : Formats) (s : SqlRows) (e : Json)

/-- Rows that end with an error before the expectation is established do not pass. -/
def FailsOnError : Prop :=
  s.Failed → ¬Established f s.rows e → ∃ err, validateResult f s e = .error err

/-- The rows end with an error of which the validation is not told: it reads no row, or all of
    them. -/
def SqlRows.FailedSilently : Prop :=
  s.Failed ∧ ((∃ v, normalizeExpected e = .ok (.bool v)) ∨ ¬s.Reported)

variable {f s e}

/-- What has an upper bound and is met passes after such an error. -/
theorem validateResult_of_silent (hfailed : s.FailedSilently e)
    (h : MeetsExpected f s.rows e) : validateResult f s e = .ok () := by
  rcases hfailed.2 with ⟨v, hv⟩ | hread
  · obtain ⟨n, hn, h⟩ := h
    obtain rfl := Except.ok.inj (hv.symm.trans hn)
    unfold validateResult
    exact bind_eq_ok.2 ⟨_, hv, validateRowsExit_ok_iff.2 h⟩
  · exact validateResult_of_meets hread h

/-- An expectation with an upper bound reads all the rows, or none. -/
theorem failedSilently_of_bounds (hfailed : s.Failed) (hbounds : BoundsRows e)
    (h : validateResult f s e = .ok ()) : s.FailedSilently e := by
  refine ⟨hfailed, ?_⟩
  obtain ⟨n, hn, hbounds⟩ := hbounds
  unfold validateResult at h
  obtain ⟨n', hn', h⟩ := bind_eq_ok.1 h
  obtain rfl := Except.ok.inj (hn.symm.trans hn')
  cases n with
  | bool v => exact .inl ⟨v, hn⟩
  | obj rules => exact .inr (validateStructured_ok_iff.1 h).1
  | null => exact hbounds.elim
  | num literal => exact hbounds.elim
  | str v => exact hbounds.elim
  | arr v => exact hbounds.elim

end Errors

/-- **A failed query does not pass**, unless the validation is not told of the error, the
    expectation is one that later rows can break, and the rows before the error do not break it. -/
theorem failsOnError_iff (f : Formats) (s : SqlRows) (e : Json) :
    FailsOnError f s e ↔ (s.FailedSilently e → BoundsRows e → ¬MeetsExpected f s.rows e) := by
  constructor
  · intro hfails hsilent hbounds hmeets
    obtain ⟨err, herr⟩ := hfails hsilent.1 (not_established_of_bounds hbounds)
    rw [validateResult_of_silent hsilent hmeets] at herr
    cases herr
  · intro h hfailed hnot
    cases hresult : validateResult f s e with
    | error err => exact ⟨err, rfl⟩
    | ok u =>
        have hmeets := meets_of_validateResult hresult
        by_cases hbounds : BoundsRows e
        · exact absurd hmeets (h (failedSilently_of_bounds hfailed hbounds hresult) hbounds)
        · obtain ⟨n, hn, hmeets⟩ := hmeets
          have hopen : ¬BoundsNormalized n := fun hb => hbounds ⟨n, hn, hb⟩
          exact absurd (fun more => ⟨n, hn, hmeets.append hopen more⟩) hnot

/-- A query that no row came of, because the connection broke. -/
def brokenRows : SqlRows where
  columns := ["id"]
  columnsErr := none
  rows := []
  err := some "invalid connection"

/-- The conversions of a run in which nothing is converted. -/
def plainFormats : Formats where
  float := fun _ => 0
  overflow := fun _ => 0
  sprint := fun _ => ""
  sprintValue := fun _ => ""

/-- The broken query passes as one that found nothing. -/
theorem broken_rows_pass :
    validateResult plainFormats brokenRows
        (.obj [("mode", .str "rows"), ("value", .bool false)]) = .ok () ∧
      ¬FailsOnError plainFormats brokenRows
        (.obj [("mode", .str "rows"), ("value", .bool false)]) := by
  have hpass : validateResult plainFormats brokenRows
      (.obj [("mode", .str "rows"), ("value", .bool false)]) = .ok () := by decide +kernel
  have hbounds : BoundsRows (.obj [("mode", .str "rows"), ("value", .bool false)]) :=
    ⟨.bool false, rfl, rfl⟩
  refine ⟨hpass, fun hfails => ?_⟩
  obtain ⟨err, herr⟩ := hfails (.inl (by simp [brokenRows])) (not_established_of_bounds hbounds)
  rw [hpass] at herr
  cases herr

end TokyoTester
