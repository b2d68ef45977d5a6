import TokyoTester.Library.Parallel
import Mathlib.Data.List.Sort

set_option autoImplicit false

/-! # Migrations (`pkg/db/migrator.go`)

Every runner that starts brings the schema up to date: it goes through the migrations of its release
in the order of their names, and skips those that `schema_migrations` lists. Runners start at once,
of any release, lose their connection at any call, or stop; then the migrations are run again.

On Postgres a migration and its row are committed together, so that the migrations take effect in
order and each at most once. On MySQL the row is written afterwards, and a migration may run again. -/

namespace TokyoTester

/-- A transaction that has not ended. -/
structure MigrationTx where
  executed : Option String := none
  inserted : Option String := none
deriving DecidableEq

/-- `schema_migrations` in the order in which its rows were committed, the migrations whose SQL ran
    to its end and was committed, and the open transactions by the number of their migrator. -/
structure MigrationTable where
  recorded : List String := []
  executed : List String := []
  tx : ℕ → Option MigrationTx := fun _ => none

namespace MigrationTable

/-- The `dbType` of a migrator. -/
inductive DbType where
  | postgres
  | mysql
  | other (name : String)
deriving DecidableEq

/-! ## Statements -/

inductive MigrationOp where
  /-- `ensureMigrationsTable`. -/
  | createTable
  /-- `selectMigrationQuery`. -/
  | select (name : String)
  /-- The query of `columnExists`. -/
  | columnExists (table column : String)
  /-- A statement outside of a transaction: the SQL of a migration, and its row. -/
  | exec (name : String)
  | record (name : String)
  /-- The transaction of a migrator. -/
  | begin (migrator : ℕ)
  | txExec (migrator : ℕ) (name : String)
  | txInsert (migrator : ℕ) (name : String)
  | commit (migrator : ℕ)
  | rollback (migrator : ℕ)

abbrev MigrationOp.Reply : MigrationOp → Type
  | .select _ | .columnExists _ _ => Except String Bool
  | .rollback _ => Unit
  | .createTable | .exec _ | .record _ | .begin _ | .txExec _ _ | .txInsert _ _ | .commit _ =>
    Except String Unit

abbrev MigrationProgram (α : Type) := Program MigrationOp MigrationOp.Reply α

def call (op : MigrationOp) : MigrationProgram op.Reply := Program.perform op

/-- The server does what it is asked for, and whether a column is there is its to say; it fails and
    does nothing; or it does it and the answer is lost. -/
inductive MigrationAnswer where
  | done (columnExists : Bool)
  | failed (message : String)
  | lost (message : String)

def duplicateKey : String := "duplicate key value violates unique constraint"

def badConnection : String := "driver: bad connection"

def setTx (m : MigrationTable) (migrator : ℕ) (tx : Option MigrationTx) : MigrationTable :=
  { m with tx := fun i => if i = migrator then tx else m.tx i }

def query (answer : MigrationAnswer) (m : MigrationTable) (found : Bool → Bool) :
    Except String Bool × MigrationTable :=
  match answer with
  | .done columnExists => (.ok (found columnExists), m)
  | .failed e | .lost e => (.error e, m)

/-- A statement outside of a transaction. -/
def autocommit (answer : MigrationAnswer) (m m' : MigrationTable) :
    Except String Unit × MigrationTable :=
  match answer with
  | .done _ => (.ok (), m')
  | .failed e => (.error e, m)
  | .lost e => (.error e, m')

/-- A statement of a transaction; one whose answer is lost was lost with its transaction. -/
def within (migrator : ℕ) (answer : MigrationAnswer) (m : MigrationTable)
    (f : MigrationTx → MigrationTx) : Except String Unit × MigrationTable :=
  match m.tx migrator, answer with
  | none, _ => (.error badConnection, m)
  | some tx, .done _ => (.ok (), m.setTx migrator (some (f tx)))
  | some _, .failed e | some _, .lost e => (.error e, m)

/-- What is committed together. -/
def publish (m : MigrationTable) (tx : MigrationTx) : MigrationTable :=
  { m with
    recorded := m.recorded ++ tx.inserted.toList
    executed := m.executed ++ tx.executed.toList }

def handle (op : MigrationOp) (answer : MigrationAnswer) (m : MigrationTable) :
    op.Reply × MigrationTable :=
  match op with
  | .createTable => autocommit answer m m
  | .select name => query answer m fun _ => decide (name ∈ m.recorded)
  | .columnExists _ _ => query answer m id
  | .exec name => autocommit answer m (m.publish { executed := some name })
  | .record name =>
    if name ∈ m.recorded then (.error duplicateKey, m)
    else autocommit answer m (m.publish { inserted := some name })
  | .begin migrator =>
    match answer with
    | .done _ => (.ok (), m.setTx migrator (some {}))
    | .failed e | .lost e => (.error e, m)
  | .txExec migrator name => within migrator answer m fun tx => { tx with executed := some name }
  | .txInsert migrator name =>
    if name ∈ m.recorded then (.error duplicateKey, m)
    else within migrator answer m fun tx => { tx with inserted := some name }
  | .commit migrator =>
    match m.tx migrator with
    | none => (.error badConnection, m)
    | some tx => autocommit answer (m.setTx migrator none) ((m.publish tx).setTx migrator none)
  | .rollback migrator => ((), m.setTx migrator none)

/-- A row with the key of one that another transaction has inserted waits for the end of that
    transaction, or gives up. -/
def MayAnswer (op : MigrationOp) (answer : MigrationAnswer) (m : MigrationTable) : Prop :=
  (∃ e, answer = .failed e) ∨
    match op with
    | .record name => ∀ i, ∀ tx ∈ m.tx i, tx.inserted ≠ some name
    | .txInsert migrator name => ∀ i ≠ migrator, ∀ tx ∈ m.tx i, tx.inserted ≠ some name
    | _ => True

/-- A migrator loses its connection. -/
def disconnect (migrator : ℕ) (m : MigrationTable) : MigrationTable := m.setTx migrator none

/-! ## The migrator -/

/-- The migrations that are recorded without being run when their column is there. -/
def skippable : List String :=
  ["002_add_session_version.sql", "004_project_scope.sql", "005_session_failover.sql"]

/-- `shouldSkipMigration`. -/
def shouldSkipMigration : String → MigrationProgram (Except String Bool)
  | "002_add_session_version.sql" => call (.columnExists "sessions" "version")
  | "004_project_scope.sql" => call (.columnExists "workflows" "project_id")
  | "005_session_failover.sql" => call (.columnExists "sessions" "owner_id")
  | _ => pure (.ok false)

/-- The branch of MySQL: no transaction. -/
def applyDirectly (name : String) : MigrationProgram (Except String Unit) := do
  match ← call (.exec name) with
  | .error e => pure (.error ("failed to execute the migration " ++ name ++ ": " ++ e))
  | .ok _ =>
    match ← call (.record name) with
    | .error e => pure (.error ("failed to record migration " ++ name ++ ": " ++ e))
    | .ok _ => pure (.ok ())

/-- The other branch: one transaction. -/
def applyInTx (migrator : ℕ) (name : String) : MigrationProgram (Except String Unit) := do
  match ← call (.begin migrator) with
  | .error e =>
    pure (.error ("failed to start transaction for migration " ++ name ++ ": " ++ e))
  | .ok _ =>
    match ← call (.txExec migrator name) with
    | .error e => do
      call (.rollback migrator)
      pure (.error ("failed to execute the migration " ++ name ++ ": " ++ e))
    | .ok _ =>
      match ← call (.txInsert migrator name) with
      | .error e => do
        call (.rollback migrator)
        pure (.error ("failed to record migration " ++ name ++ ": " ++ e))
      | .ok _ =>
        match ← call (.commit migrator) with
        | .error e => pure (.error ("failed to commit migration " ++ name ++ ": " ++ e))
        | .ok _ => pure (.ok ())

/-- The body of the loop of `RunMigrations`. -/
def runMigration (db : DbType) (migrator : ℕ) (name : String) :
    MigrationProgram (Except String Unit) := do
  match ← call (.select name) with
  | .error e => pure (.error ("failed to check migration " ++ name ++ ": " ++ e))
  | .ok true => pure (.ok ())
  | .ok false =>
    match ← shouldSkipMigration name with
    | .error e => pure (.error ("failed to inspect migration " ++ name ++ ": " ++ e))
    | .ok true =>
      match ← call (.record name) with
      | .error e => pure (.error ("failed to record skipped migration " ++ name ++ ": " ++ e))
      | .ok _ => pure (.ok ())
    | .ok false => if db = .mysql then applyDirectly name else applyInTx migrator name

/-- The loop of `RunMigrations`. -/
def runEach (db : DbType) (migrator : ℕ) : List String → MigrationProgram (Except String Unit)
  | [] => pure (.ok ())
  | name :: names => do
    match ← runMigration db migrator name with
    | .error e => pure (.error e)
    | .ok _ => runEach db migrator names

/-- The files of a release in the order of their names. -/
def sorted (entries : List String) : List String := entries.insertionSort (· ≤ ·)

/-- `RunMigrations`. -/
def runMigrations (db : DbType) (migrator : ℕ) (entries : List String) :
    MigrationProgram (Except String Unit) := do
  match ← call .createTable with
  | .error e => pure (.error ("failed to ensure migrations table: " ++ e))
  | .ok _ =>
    match db with
    | .other name => pure (.error ("unsupported database : " ++ name))
    | .postgres | .mysql => runEach db migrator (sorted entries)

/-! ## Runs -/

/-- The migrations of a release: those of the newest one up to some name. -/
structure Release (names : List String) where
  entries : List String
  initial : sorted entries <+: names

abbrev MigrationRun (names : List String) :=
  Parallel MigrationOp MigrationOp.Reply MigrationTable (Release names) (Except String Unit)

/-- A migrator of a release starts, its next statement is answered, or it loses its connection. -/
abbrev MigrationLabel (names : List String) := Parallel.Label (Release names) MigrationAnswer ℕ

def migrationStep (db : DbType) {names : List String} (s : MigrationRun names)
    (label : MigrationLabel names) : Option (MigrationRun names) :=
  Parallel.step handle (fun migrator release => runMigrations db migrator release.entries)
    disconnect s label

def MigrationSteps (db : DbType) {names : List String} (s : MigrationRun names)
    (labels : List (MigrationLabel names)) (s' : MigrationRun names) : Prop :=
  Trace.Guarded (fun s l s' => migrationStep db s l = some s') (Parallel.guard MayAnswer) s labels s'

/-! ## What the table keeps -/

section Order

variable {names done rest recorded : List String} {name : String}

theorem mem_of_lt (hnames : names.Pairwise (· < ·)) (hsplit : names = done ++ name :: rest)
    {earlier : String} (hearlier : earlier ∈ names) (hlt : earlier < name) : earlier ∈ done := by
  rw [hsplit] at hearlier hnames
  have hlast := (List.pairwise_append.1 hnames).2.1
  rcases List.mem_append.1 hearlier with h | h
  · exact h
  rcases List.mem_cons.1 h with rfl | h
  · exact absurd hlt (String.lt_irrefl _)
  · exact absurd hlt (String.lt_asymm ((List.pairwise_cons.1 hlast).1 earlier h))

/-- What is recorded next follows what is recorded. -/
theorem prefix_snoc (hnames : names.Nodup) (hsplit : names = done ++ name :: rest)
    (hrecorded : recorded <+: names) (hdone : done ⊆ recorded) (hnew : name ∉ recorded) :
    recorded ++ [name] <+: names := by
  have hdoneprefix : done <+: names := ⟨name :: rest, hsplit.symm⟩
  have heq : recorded = done := by
    rcases List.prefix_or_prefix_of_prefix hrecorded hdoneprefix with h | ⟨t, rfl⟩
    · have hnodup : done.Nodup := hnames.sublist hdoneprefix.sublist
      exact h.eq_of_length_le (hnodup.subperm hdone).length_le
    · rw [hsplit, List.prefix_append_right_inj] at hrecorded
      cases t with
      | nil => exact List.append_nil done
      | cons first t =>
          obtain ⟨rfl, -⟩ := List.cons_prefix_cons.1 hrecorded
          exact absurd (by simp) hnew
  rw [heq, hsplit]
  exact ⟨rest, by simp⟩

end Order

/-- The recorded migrations are an initial segment of all; each was run, or may be skipped. A
    migration is run when the earlier ones are recorded, and in a transaction at most once. A row
    that is inserted is not committed, and no other transaction has inserted it. -/
structure Sound (db : DbType) (names : List String) (m : MigrationTable) : Prop where
  initial : m.recorded <+: names
  accounted : ∀ n ∈ m.recorded, n ∈ m.executed ∨ n ∈ skippable
  ordered : ∀ n ∈ m.executed, ∀ earlier ∈ names, earlier < n → earlier ∈ m.recorded
  once : db ≠ .mysql → m.executed.Sublist m.recorded
  inserted : ∀ i, ∀ tx ∈ m.tx i, ∀ n, tx.inserted = some n → n ∉ m.recorded
  alone : ∀ i j, ∀ tx ∈ m.tx i, ∀ tx' ∈ m.tx j, ∀ n, tx.inserted = some n →
    tx'.inserted = some n → i = j

/-- A change leaves the transactions of some migrators alone, or ends them, and no row is lost. -/
structure Changed (db : DbType) (names : List String) (keeps : ℕ → Prop) (m m' : MigrationTable) :
    Prop where
  sound : Sound db names m'
  theirs : ∀ i, keeps i → m'.tx i = m.tx i ∨ m'.tx i = none
  recorded : m.recorded ⊆ m'.recorded
  executed : m.executed ⊆ m'.executed

/-- A change of a sound table. -/
def Change (db : DbType) (names : List String) (keeps : ℕ → Prop) (m m' : MigrationTable) : Prop :=
  Sound db names m → Changed db names keeps m m'

variable {db : DbType} {names : List String} {m m' m'' : MigrationTable} {keeps : ℕ → Prop}
  {migrator : ℕ} {name : String} {done rest : List String}

theorem Change.refl (keeps : ℕ → Prop) (m : MigrationTable) : Change db names keeps m m :=
  fun h => ⟨h, fun _ _ => .inl rfl, fun _ h => h, fun _ h => h⟩

theorem Change.trans (h : Change db names keeps m m') (h' : Change db names keeps m' m'') :
    Change db names keeps m m'' := by
  intro hm
  have h := h hm
  have h' := h' h.sound
  refine ⟨h'.sound, fun i hi => ?_, fun n hn => h'.recorded (h.recorded hn),
    fun n hn => h'.executed (h.executed hn)⟩
  rcases h'.theirs i hi with hsame | hnone
  · rw [hsame]
    exact h.theirs i hi
  · exact .inr hnone

/-- The setting of a migrator. -/
def setting (db : DbType) (names : List String) (migrator : ℕ) :
    Setting MigrationOp MigrationOp.Reply MigrationTable MigrationAnswer where
  handle := handle
  rely := Change db names (· = migrator)
  guard := MayAnswer
  guar := Change db names (· ≠ migrator)
  rely_refl := Change.refl _
  rely_trans := Change.trans

/-! ## Statements one by one -/

/-- A transaction changes before it is committed. -/
theorem sound_setTx {tx : Option MigrationTx} (h : Sound db names m)
    (hinserted : ∀ t ∈ tx, ∀ n, t.inserted = some n → n ∉ m.recorded ∧
      ∀ i ≠ migrator, ∀ t' ∈ m.tx i, t'.inserted ≠ some n) :
    Sound db names (m.setTx migrator tx) := by
  have hself : (m.setTx migrator tx).tx migrator = tx := if_pos rfl
  have hother {i : ℕ} (hi : i ≠ migrator) : (m.setTx migrator tx).tx i = m.tx i := if_neg hi
  refine ⟨h.initial, h.accounted, h.ordered, h.once, fun i t ht n hn => ?_, ?_⟩
  · by_cases hi : i = migrator
    · subst hi
      rw [hself] at ht
      exact (hinserted t ht n hn).1
    · rw [hother hi] at ht
      exact h.inserted i t ht n hn
  · intro i j t ht t' ht' n hn hn'
    by_cases hi : i = migrator <;> by_cases hj : j = migrator
    · rw [hi, hj]
    · subst hi
      rw [hself] at ht
      rw [hother hj] at ht'
      exact absurd hn' ((hinserted t ht n hn).2 j hj t' ht')
    · subst hj
      rw [hself] at ht'
      rw [hother hi] at ht
      exact absurd hn ((hinserted t' ht' n hn').2 i hi t ht)
    · rw [hother hi] at ht
      rw [hother hj] at ht'
      exact h.alone i j t ht t' ht' n hn hn'

theorem change_setTx {tx : Option MigrationTx}
    (hinserted : ∀ t ∈ tx, ∀ n, t.inserted = some n → n ∉ m.recorded ∧
      ∀ i ≠ migrator, ∀ t' ∈ m.tx i, t'.inserted ≠ some n) :
    Change db names (· ≠ migrator) m (m.setTx migrator tx) := fun h =>
  ⟨sound_setTx h hinserted, fun _ hi => .inl (if_neg hi), fun _ hn => hn, fun _ hn => hn⟩

/-- A connection that is lost ends the transaction. -/
theorem change_disconnect (keeps : ℕ → Prop) (migrator : ℕ) (m : MigrationTable) :
    Change db names keeps m (m.disconnect migrator) := by
  refine fun h => ⟨sound_setTx h (by simp), fun i _ => ?_, fun _ hn => hn, fun _ hn => hn⟩
  by_cases hi : i = migrator
  · exact .inr (if_pos hi)
  · exact .inl (if_neg hi)

/-- Rows and migrations are added. -/
theorem sound_publish {tx : MigrationTx} (h : Sound db names m)
    (hinitial : m.recorded ++ tx.inserted.toList <+: names)
    (haccounted : ∀ n, tx.inserted = some n → tx.executed = some n ∨ n ∈ m.executed ∨
      n ∈ skippable)
    (hordered : ∀ n, tx.executed = some n → ∀ earlier ∈ names, earlier < n →
      earlier ∈ m.recorded)
    (honce : db ≠ .mysql → ∀ n, tx.executed = some n → tx.inserted = some n)
    (halone : ∀ n, tx.inserted = some n → ∀ i, ∀ t ∈ m.tx i, t.inserted ≠ some n) :
    Sound db names (m.publish tx) := by
  refine ⟨hinitial, fun n hn => ?_, fun n hn earlier hearlier hlt => ?_, fun hdb => ?_, ?_,
    h.alone⟩
  · rcases List.mem_append.1 hn with hn | hn
    · exact (h.accounted n hn).imp_left fun hrun => List.mem_append_left _ hrun
    · rcases haccounted n (by simpa using hn) with hrun | hrun | hskip
      · exact .inl (List.mem_append_right _ (by simp [hrun]))
      · exact .inl (List.mem_append_left _ hrun)
      · exact .inr hskip
  · refine List.mem_append_left _ ?_
    rcases List.mem_append.1 hn with hn | hn
    · exact h.ordered n hn earlier hearlier hlt
    · exact hordered n (by simpa using hn) earlier hearlier hlt
  · refine (h.once hdb).append ?_
    cases hrun : tx.executed with
    | none => exact List.nil_sublist _
    | some n => rw [honce hdb n hrun]
  · intro i t ht n hn hmem
    rcases List.mem_append.1 hmem with hmem | hmem
    · exact h.inserted i t ht n hn hmem
    · exact halone n (by simpa using hmem) i t ht hn

/-! ## What a migrator knows -/

/-- The first migrations are recorded. -/
structure Reached (db : DbType) (names done : List String) (m : MigrationTable) : Prop where
  sound : Sound db names m
  recorded : done ⊆ m.recorded

/-- The transaction of a migrator, unless it was lost. -/
structure InTx (db : DbType) (names done : List String) (migrator : ℕ) (tx : MigrationTx)
    (m : MigrationTable) : Prop where
  reached : Reached db names done m
  tx : ∀ t ∈ m.tx migrator, t = tx

theorem Reached.stable (h : Reached db names done m) (hchange : Change db names keeps m m') :
    Reached db names done m' :=
  have hchange := hchange h.sound
  ⟨hchange.sound, fun _ hn => hchange.recorded (h.recorded hn)⟩

theorem InTx.stable {tx : MigrationTx} (h : InTx db names done migrator tx m)
    (hchange : Change db names (· = migrator) m m') : InTx db names done migrator tx m' := by
  refine ⟨h.reached.stable hchange, fun t ht => ?_⟩
  rcases (hchange h.reached.sound).theirs migrator rfl with hsame | hnone
  · exact h.tx t (hsame ▸ ht)
  · rw [hnone] at ht
    cases ht

/-- A migration that comes next. -/
structure Next (names done rest : List String) (name : String) : Prop where
  sorted : names.Pairwise (· < ·)
  split : names = done ++ name :: rest

theorem Next.ordered (hnext : Next names done rest name) (h : Reached db names done m) :
    ∀ earlier ∈ names, earlier < name → earlier ∈ m.recorded :=
  fun _ hearlier hlt => h.recorded (mem_of_lt hnext.sorted hnext.split hearlier hlt)

theorem Next.initial (hnext : Next names done rest name) (h : Reached db names done m)
    (hnew : name ∉ m.recorded) : m.recorded ++ [name] <+: names :=
  prefix_snoc hnext.sorted.nodup hnext.split h.sound.initial h.recorded hnew

theorem Reached.snoc (h : Reached db names done m) (hname : name ∈ m.recorded) :
    Reached db names (done ++ [name]) m :=
  ⟨h.sound, by simpa [List.append_subset] using ⟨h.recorded, hname⟩⟩

/-! ## The migrator keeps its promise -/

/-- A statement that changes nothing. -/
theorem safe_query {op : MigrationOp} {known : op.Reply → MigrationTable → Prop}
    (hsame : ∀ answer m, (handle op answer m).2 = m)
    (hstable : ∀ {r m m'}, Change db names (· = migrator) m m' → known r m → known r m')
    (hknown : ∀ answer m, Reached db names done m → known (handle op answer m).1 m)
    (h : Reached db names done m) : (setting db names migrator).Safe known (call op) m := by
  refine Setting.Safe.perform_stable (fun hm h => Reached.stable h hm) hstable ?_ h
  intro answer m h _
  show Change db names _ m (handle op answer m).2 ∧
    known (handle op answer m).1 (handle op answer m).2
  rw [hsame]
  exact ⟨Change.refl _ m, hknown answer m h⟩

/-- A statement outside of a transaction that adds to the table. -/
theorem change_publish {tx : MigrationTx} (h : Sound db names (m.publish tx)) :
    Change db names keeps m (m.publish tx) := fun _ =>
  ⟨h, fun _ _ => .inl rfl, fun _ hn => List.mem_append_left _ hn,
    fun _ hn => List.mem_append_left _ hn⟩

/-- A statement outside of a transaction, by its answer; `m'` is what it does. -/
theorem autocommit_cases (known : Except String Unit → MigrationTable → Prop)
    (answer : MigrationAnswer) (hfailed : ∀ e, Change db names keeps m m'' ∧ known (.error e) m'')
    (hdone : (∀ e, answer ≠ .failed e) →
      Change db names keeps m m' ∧ ∀ r, known r m') :
    Change db names keeps m (autocommit answer m'' m').2 ∧
      known (autocommit answer m'' m').1 (autocommit answer m'' m').2 := by
  cases answer with
  | done _ => exact (hdone (by simp)).imp_right fun h => h _
  | failed e => exact hfailed e
  | lost e => exact (hdone (by simp)).imp_right fun h => h _

/-- The row of a migration that was run, or may be skipped. -/
theorem safe_record (hnext : Next names done rest name)
    (h : Reached db names done m ∧ (name ∈ m.executed ∨ name ∈ skippable)) :
    (setting db names migrator).Safe
      (fun r m => r = .ok () → Reached db names (done ++ [name]) m) (call (.record name)) m := by
  have hstable {m m' : MigrationTable} (hm : Change db names (· = migrator) m m')
      (h : Reached db names done m ∧ (name ∈ m.executed ∨ name ∈ skippable)) :
      Reached db names done m' ∧ (name ∈ m'.executed ∨ name ∈ skippable) :=
    ⟨h.1.stable hm, h.2.imp_left fun hn => (hm h.1.sound).executed hn⟩
  refine Setting.Safe.perform_stable hstable (fun hm h hr => (h hr).stable hm) ?_ h
  rintro answer m ⟨h, haccounted⟩ hfree
  show Change db names _ m (if _ then _ else _ : Except String Unit × MigrationTable).2 ∧
    ((if _ then _ else _ : Except String Unit × MigrationTable).1 = .ok () →
      Reached db names _ (if _ then _ else _ : Except String Unit × MigrationTable).2)
  split_ifs with hmem
  · exact ⟨Change.refl _ m, fun hr => by cases hr⟩
  refine autocommit_cases (fun r m => r = .ok () → Reached db names (done ++ [name]) m)
    answer (fun e => ⟨Change.refl _ m, fun hr => by cases hr⟩) fun hanswer => ?_
  have hsound : Sound db names (m.publish { inserted := some name }) := by
    refine sound_publish h.sound (hnext.initial h hmem) ?_ ?_ ?_ ?_
    · rintro n ⟨⟩
      exact .inr haccounted
    · exact fun n hn => by cases hn
    · exact fun _ n hn => by cases hn
    · rintro n ⟨⟩
      exact hfree.resolve_left fun ⟨e, he⟩ => hanswer e he
  refine ⟨change_publish hsound, fun r _ => Reached.snoc ⟨hsound, fun n hn => ?_⟩ ?_⟩
  · exact List.mem_append_left _ (h.recorded hn)
  · exact List.mem_append_right _ (List.mem_singleton_self name)

/-- The SQL of a migration, without a transaction. -/
theorem safe_exec (hnext : Next names done rest name) (hdb : db = .mysql)
    (h : Reached db names done m) :
    (setting db names migrator).Safe
      (fun r m => Reached db names done m ∧ (r = .ok () → name ∈ m.executed))
      (call (.exec name)) m := by
  refine Setting.Safe.perform_stable (fun hm h => h.stable hm) ?_ ?_ h
  · exact fun hm h => ⟨h.1.stable hm, fun hr => (hm h.1.sound).executed (h.2 hr)⟩
  intro answer m h _
  refine autocommit_cases (fun r m => Reached db names done m ∧
    (r = .ok () → name ∈ m.executed)) answer
    (fun e => ⟨Change.refl _ m, h, fun hr => by cases hr⟩) fun _ => ?_
  have hsound : Sound db names (m.publish { executed := some name }) := by
    refine sound_publish h.sound ?_ ?_ ?_ ?_ ?_
    · rw [Option.toList_none, List.append_nil]
      exact h.sound.initial
    · exact fun n hn => by cases hn
    · rintro n ⟨⟩
      exact hnext.ordered h
    · exact fun hne => absurd hdb hne
    · exact fun n hn => by cases hn
  refine ⟨change_publish hsound, fun r => ⟨⟨hsound, fun n hn => ?_⟩, fun _ => ?_⟩⟩
  · exact List.mem_append_left _ (h.recorded hn)
  · exact List.mem_append_right _ (List.mem_singleton_self name)

/-- A statement of a transaction, by its answer; `f` is what it does. -/
theorem within_cases (known : Except String Unit → MigrationTable → Prop)
    {f : MigrationTx → MigrationTx} (answer : MigrationAnswer) (hfailed : ∀ e, known (.error e) m)
    (hdone : (∀ e, answer ≠ .failed e) → ∀ tx ∈ m.tx migrator,
      Change db names (· ≠ migrator) m (m.setTx migrator (some (f tx))) ∧
        known (.ok ()) (m.setTx migrator (some (f tx)))) :
    Change db names (· ≠ migrator) m (within migrator answer m f).2 ∧
      known (within migrator answer m f).1 (within migrator answer m f).2 := by
  unfold within
  cases htx : m.tx migrator with
  | none => exact ⟨Change.refl _ m, hfailed _⟩
  | some tx =>
      cases answer with
      | done _ => exact hdone (by simp) tx htx
      | failed e => exact ⟨Change.refl _ m, hfailed e⟩
      | lost e => exact ⟨Change.refl _ m, hfailed e⟩

/-- The transaction after a statement that succeeded, and the migrator as before after one that did
    not. -/
def AfterTx (db : DbType) (names done : List String) (migrator : ℕ) (tx : MigrationTx)
    (r : Except String Unit) (m : MigrationTable) : Prop :=
  Reached db names done m ∧ (r = .ok () → InTx db names done migrator tx m)

theorem AfterTx.stable {tx : MigrationTx} {r : Except String Unit}
    (h : AfterTx db names done migrator tx r m) (hchange : Change db names (· = migrator) m m') :
    AfterTx db names done migrator tx r m' :=
  ⟨h.1.stable hchange, fun hr => (h.2 hr).stable hchange⟩

theorem afterTx_error {tx : MigrationTx} (h : Reached db names done m) (e : String) :
    AfterTx db names done migrator tx (.error e) m := ⟨h, fun hr => by cases hr⟩

/-- The transaction has changed. -/
theorem afterTx_ok {tx : MigrationTx} (h : Reached db names done m)
    (hchange : Change db names (· ≠ migrator) m (m.setTx migrator (some tx))) :
    AfterTx db names done migrator tx (.ok ()) (m.setTx migrator (some tx)) := by
  have hreached : Reached db names done (m.setTx migrator (some tx)) :=
    ⟨(hchange h.sound).sound, h.recorded⟩
  refine ⟨hreached, fun _ => ⟨hreached, fun t ht => ?_⟩⟩
  have hself : (m.setTx migrator (some tx)).tx migrator = some tx := if_pos rfl
  rw [hself] at ht
  exact (Option.some.inj ht).symm

theorem safe_begin (h : Reached db names done m) :
    (setting db names migrator).Safe (AfterTx db names done migrator {}) (call (.begin migrator))
      m := by
  refine Setting.Safe.perform_stable (fun hm h => h.stable hm) (fun hm h => h.stable hm) ?_ h
  intro answer m h _
  have hchange : Change db names (· ≠ migrator) m (m.setTx migrator (some {})) :=
    change_setTx (by rintro t ⟨⟩ n hn; cases hn)
  cases answer with
  | done _ => exact ⟨hchange, afterTx_ok h hchange⟩
  | failed e => exact ⟨Change.refl _ m, afterTx_error h e⟩
  | lost e => exact ⟨Change.refl _ m, afterTx_error h e⟩

theorem safe_txExec (h : InTx db names done migrator {} m) :
    (setting db names migrator).Safe (AfterTx db names done migrator { executed := some name })
      (call (.txExec migrator name)) m := by
  refine Setting.Safe.perform_stable (fun hm h => h.stable hm) (fun hm h => h.stable hm) ?_ h
  intro answer m h _
  refine within_cases _ answer (afterTx_error h.reached) fun _ tx htx => ?_
  obtain rfl := h.tx tx htx
  have hchange : Change db names (· ≠ migrator) m
      (m.setTx migrator (some { executed := some name })) :=
    change_setTx (by rintro t ⟨⟩ n hn; cases hn)
  exact ⟨hchange, afterTx_ok h.reached hchange⟩

/-- What a migration leaves in its transaction. -/
def migrated (name : String) : MigrationTx := { executed := some name, inserted := some name }

theorem safe_txInsert (h : InTx db names done migrator { executed := some name } m) :
    (setting db names migrator).Safe (AfterTx db names done migrator (migrated name))
      (call (.txInsert migrator name)) m := by
  refine Setting.Safe.perform_stable (fun hm h => h.stable hm) (fun hm h => h.stable hm) ?_ h
  intro answer m h hfree
  show Change db names _ m (if _ then _ else _ : Except String Unit × MigrationTable).2 ∧
    AfterTx db names done migrator _ (if _ then _ else _ : Except String Unit × MigrationTable).1
      (if _ then _ else _ : Except String Unit × MigrationTable).2
  split_ifs with hmem
  · exact ⟨Change.refl _ m, afterTx_error h.reached _⟩
  refine within_cases _ answer (afterTx_error h.reached) fun hanswer tx htx => ?_
  obtain rfl := h.tx tx htx
  have hchange : Change db names (· ≠ migrator) m (m.setTx migrator (some (migrated name))) := by
    refine change_setTx ?_
    rintro t ⟨⟩ n ⟨⟩
    exact ⟨hmem, hfree.resolve_left fun ⟨e, he⟩ => hanswer e he⟩
  exact ⟨hchange, afterTx_ok h.reached hchange⟩

/-- The migration and its row take effect together. -/
theorem safe_commit (hnext : Next names done rest name)
    (h : InTx db names done migrator (migrated name) m) :
    (setting db names migrator).Safe
      (fun r m => r = .ok () → Reached db names (done ++ [name]) m) (call (.commit migrator)) m := by
  refine Setting.Safe.perform_stable (fun hm h => h.stable hm) (fun hm h hr => (h hr).stable hm)
    ?_ h
  intro answer m h _
  show Change db names _ m (handle (.commit migrator) answer m).2 ∧
    ((handle (.commit migrator) answer m).1 = .ok () →
      Reached db names (done ++ [name]) (handle (.commit migrator) answer m).2)
  cases htx : m.tx migrator with
  | none =>
      have heq : handle (.commit migrator) answer m = (.error badConnection, m) := by
        simp only [handle, htx]
      rw [heq]
      exact ⟨Change.refl _ m, fun hr => by cases hr⟩
  | some tx =>
      obtain rfl := h.tx tx htx
      have heq : handle (.commit migrator) answer m =
          autocommit answer (m.setTx migrator none)
            ((m.setTx migrator none).publish (migrated name)) := by
        simp only [handle, htx]
        rfl
      rw [heq]
      have hclosed : Change db names (· ≠ migrator) m (m.setTx migrator none) :=
        change_setTx (by simp)
      refine autocommit_cases (fun r m => r = .ok () → Reached db names (done ++ [name]) m) answer
        (fun e => ⟨hclosed, fun hr => by cases hr⟩) fun _ => ?_
      have hreached := h.reached
      have hnew : name ∉ m.recorded := hreached.sound.inserted migrator _ htx name rfl
      have hsound : Sound db names ((m.setTx migrator none).publish (migrated name)) := by
        have hended : Reached db names done (m.setTx migrator none) :=
          ⟨(hclosed hreached.sound).sound, hreached.recorded⟩
        refine sound_publish hended.sound (hnext.initial hended hnew) ?_ ?_ ?_ ?_
        · exact fun n hn => .inl hn
        · rintro n ⟨⟩
          exact hnext.ordered hended
        · exact fun _ n hn => hn
        · -- another transaction has not inserted it
          rintro n ⟨⟩ i t ht hinserted
          have hi : i ≠ migrator := by
            rintro rfl
            rw [show (m.setTx i none).tx i = none from if_pos rfl] at ht
            cases ht
          rw [show (m.setTx migrator none).tx i = m.tx i from if_neg hi] at ht
          exact hi (hreached.sound.alone i migrator t ht _ htx name hinserted rfl)
      refine ⟨hclosed.trans (change_publish hsound), fun r _ => Reached.snoc ⟨hsound, ?_⟩ ?_⟩
      · exact fun n hn => List.mem_append_left _ (hreached.recorded hn)
      · exact List.mem_append_right _ (List.mem_singleton_self name)

/-- A migration that failed in its transaction is rolled back. -/
theorem safe_rollback {r : Except String Unit} (hr : r ≠ .ok ()) :
    (setting db names migrator).Safe
      (fun r m => r = .ok () → Reached db names (done ++ [name]) m)
      (do call (.rollback migrator); pure r) m := by
  intro m' hm' answer _
  have hclosed : Change db names (· ≠ migrator) m' (m'.setTx migrator none) :=
    change_setTx (by simp)
  exact ⟨hclosed, fun m'' _ hok => absurd hok hr⟩

/-! ## A migrator -/

section Migrator

theorem safe_applyDirectly (hnext : Next names done rest name) (hdb : db = .mysql)
    (h : Reached db names done m) :
    (setting db names migrator).Safe
      (fun r m => r = .ok () → Reached db names (done ++ [name]) m) (applyDirectly name) m := by
  refine Setting.Safe.bind (safe_exec hnext hdb h) fun r m hm => ?_
  cases r with
  | error e => exact Setting.Safe.pure fun _ _ hr => by cases hr
  | ok _ =>
  refine Setting.Safe.bind (safe_record hnext ⟨hm.1, .inl (hm.2 rfl)⟩) fun r m hm => ?_
  cases r with
  | error e => exact Setting.Safe.pure fun _ _ hr => by cases hr
  | ok _ => exact Setting.Safe.pure fun _ hm' _ => (hm rfl).stable hm'

theorem safe_applyInTx (hnext : Next names done rest name) (h : Reached db names done m) :
    (setting db names migrator).Safe
      (fun r m => r = .ok () → Reached db names (done ++ [name]) m) (applyInTx migrator name) m := by
  refine Setting.Safe.bind (safe_begin h) fun r m hm => ?_
  cases r with
  | error e => exact Setting.Safe.pure fun _ _ hr => by cases hr
  | ok _ =>
  refine Setting.Safe.bind (safe_txExec (hm.2 rfl)) fun r m hm => ?_
  cases r with
  | error e => exact safe_rollback (by simp)
  | ok _ =>
  refine Setting.Safe.bind (safe_txInsert (hm.2 rfl)) fun r m hm => ?_
  cases r with
  | error e => exact safe_rollback (by simp)
  | ok _ =>
  refine Setting.Safe.bind (safe_commit hnext (hm.2 rfl)) fun r m hm => ?_
  cases r with
  | error e => exact Setting.Safe.pure fun _ _ hr => by cases hr
  | ok _ => exact Setting.Safe.pure fun _ hm' _ => (hm rfl).stable hm'

/-- A migration that may be skipped is one of the three. -/
theorem safe_shouldSkipMigration (h : Reached db names done m) :
    (setting db names migrator).Safe
      (fun r m => Reached db names done m ∧ (r = .ok true → name ∈ skippable))
      (shouldSkipMigration name) m := by
  have hcolumn (table column : String) (hname : name ∈ skippable) :
      (setting db names migrator).Safe
        (fun r m => Reached db names done m ∧ (r = .ok true → name ∈ skippable))
        (call (.columnExists table column)) m :=
    safe_query (fun answer m => by cases answer <;> rfl) (fun hm h => ⟨h.1.stable hm, h.2⟩)
      (fun answer m h => ⟨h, fun _ => hname⟩) h
  unfold shouldSkipMigration
  split
  · exact hcolumn _ _ (by decide)
  · exact hcolumn _ _ (by decide)
  · exact hcolumn _ _ (by decide)
  · exact Setting.Safe.pure fun _ hm' => ⟨h.stable hm', fun hr => by cases hr⟩

theorem safe_runMigration (hnext : Next names done rest name) (h : Reached db names done m) :
    (setting db names migrator).Safe
      (fun r m => r = .ok () → Reached db names (done ++ [name]) m)
      (runMigration db migrator name) m := by
  have hselect : (setting db names migrator).Safe
      (fun r m => Reached db names done m ∧ (r = .ok true → name ∈ m.recorded))
      (call (.select name)) m := by
    refine safe_query (fun answer m => by cases answer <;> rfl) ?_ ?_ h
    · exact fun hm h => ⟨h.1.stable hm, fun hr => (hm h.1.sound).recorded (h.2 hr)⟩
    · intro answer m h
      refine ⟨h, fun hr => ?_⟩
      cases answer with
      | done _ => exact of_decide_eq_true (Except.ok.inj hr)
      | failed e => cases hr
      | lost e => cases hr
  -- recorded already, skipped and recorded, or applied: each leaves the name recorded
  refine Setting.Safe.bind hselect fun r m hm => ?_
  match r with
  | .error e => exact Setting.Safe.pure fun _ _ hr => by cases hr
  | .ok true => exact Setting.Safe.pure fun _ hm' _ => (hm.1.snoc (hm.2 rfl)).stable hm'
  | .ok false =>
  refine Setting.Safe.bind (safe_shouldSkipMigration hm.1) fun r m hm => ?_
  match r with
  | .error e => exact Setting.Safe.pure fun _ _ hr => by cases hr
  | .ok true =>
    refine Setting.Safe.bind (safe_record hnext ⟨hm.1, .inr (hm.2 rfl)⟩) fun r m hm => ?_
    cases r with
    | error e => exact Setting.Safe.pure fun _ _ hr => by cases hr
    | ok _ => exact Setting.Safe.pure fun _ hm' _ => (hm rfl).stable hm'
  | .ok false =>
    by_cases hdb : db = .mysql
    · rw [if_pos hdb]
      exact safe_applyDirectly hnext hdb hm.1
    · rw [if_neg hdb]
      exact safe_applyInTx hnext hm.1

/-- The loop goes through the migrations in order. -/
theorem safe_runEach (hnames : names.Pairwise (· < ·)) : ∀ (todo : List String) {done m},
    done ++ todo <+: names → Reached db names done m →
      (setting db names migrator).Safe (fun r m => r = .ok () → Reached db names (done ++ todo) m)
        (runEach db migrator todo) m
  | [], done, m, _, h => by
      rw [List.append_nil]
      exact Setting.Safe.pure fun _ hm' _ => h.stable hm'
  | name :: todo, done, m, hprefix, h => by
      obtain ⟨rest, hsplit⟩ := hprefix
      have hnext : Next names done (todo ++ rest) name := ⟨hnames, by rw [← hsplit]; simp⟩
      have happend : done ++ name :: todo = done ++ [name] ++ todo := by simp
      refine Setting.Safe.bind (safe_runMigration hnext h) fun r m hm => ?_
      cases r with
      | error e => exact Setting.Safe.pure fun _ _ hr => by cases hr
      | ok _ =>
          rw [happend]
          exact safe_runEach hnames todo ⟨rest, by rw [← happend, hsplit]⟩ (hm rfl)

/-- **A migrator** that returns without an error leaves its migrations recorded. -/
theorem safe_runMigrations (hnames : names.Pairwise (· < ·)) (release : Release names)
    (h : Sound db names m) :
    (setting db names migrator).Safe
      (fun r m => r = .ok () → Reached db names (sorted release.entries) m)
      (runMigrations db migrator release.entries) m := by
  have hstart : Reached db names [] m := ⟨h, List.nil_subset _⟩
  have hcreated : (setting db names migrator).Safe (fun _ => Reached db names [])
      (call .createTable) m :=
    safe_query (fun answer m => by cases answer <;> rfl) (fun hm h => h.stable hm)
      (fun _ _ h => h) hstart
  refine Setting.Safe.bind hcreated fun r m hm => ?_
  cases r with
  | error e => exact Setting.Safe.pure fun _ _ hr => by cases hr
  | ok _ =>
  cases db with
  | other name => exact Setting.Safe.pure fun _ _ hr => by cases hr
  | postgres => exact safe_runEach hnames _ release.initial hm
  | mysql => exact safe_runEach hnames _ release.initial hm

end Migrator

/-! ## Every run -/

section Run

variable {labels : List (MigrationLabel names)} {s : MigrationRun names}

theorem sound_empty : Sound db names {} := by
  refine ⟨List.nil_prefix, ?_, ?_, fun _ => List.Sublist.refl _, ?_, ?_⟩
  · exact fun n hn => by cases hn
  · exact fun n hn => by cases hn
  · exact fun i tx htx => by cases htx
  · exact fun i j tx htx => by cases htx

/-- **Migrations take effect in order.** In every run that starts with an empty database, the
    recorded migrations are an initial segment of all, and each was run unless its column may be
    there; a migration runs when the earlier ones are recorded, and outside of MySQL each at most
    once; and a migrator that returned without an error has left its migrations recorded. -/
theorem migrations_in_order (hnames : names.Pairwise (· < ·))
    (h : MigrationSteps db { shared := {} } labels s) :
    s.shared.recorded <+: names ∧
      (∀ n ∈ s.shared.recorded, n ∈ s.shared.executed ∨ n ∈ skippable) ∧
      (∀ n ∈ s.shared.executed, ∀ earlier ∈ names, earlier < n → earlier ∈ s.shared.recorded) ∧
      (db ≠ .mysql → s.shared.executed.Sublist s.shared.recorded) ∧
      ∀ (migrator : ℕ) release p, s.threads[migrator]? = some (release, p) →
        p.result? = some (.ok ()) → ∀ n ∈ release.entries, n ∈ s.shared.recorded := by
  obtain ⟨hsound, hsafe⟩ := Parallel.guarded_each (setting db names)
    (fun _ release r m => r = .ok () → Reached db names (sorted release.entries) m) h
    (fun _ => rfl) (fun _ => rfl)
    (fun hij hguar hm => have hm := hguar hm
      ⟨hm.sound, fun k hk => hm.theirs k fun hki => hij (hki.symm.trans hk), hm.recorded,
        hm.executed⟩)
    (fun i migrator m => change_disconnect _ migrator m) (Sound db names)
    (fun hguar hm => (hguar hm).sound)
    (fun {migrator m} hm => (change_disconnect (fun _ => True) migrator m hm).sound)
    (fun _ release _ hm => safe_runMigrations hnames release hm) sound_empty
    (fun i t ht => by cases ht)
  refine ⟨hsound.initial, hsound.accounted, hsound.ordered, hsound.once, ?_⟩
  intro migrator release p hthread hresult n hn
  have hreached := (hsafe migrator _ hthread).result hresult rfl
  exact hreached.recorded ((List.mem_insertionSort _).2 hn)

/-- The first two migrations. -/
def firstMigrations : List String := ["001_initial_schema.sql", "002_add_session_version.sql"]

def firstRelease : Release firstMigrations := ⟨["001_initial_schema.sql"], by decide⟩

def secondRelease : Release firstMigrations := ⟨firstMigrations, by decide +kernel⟩

/-- The first migrator commits its only migration and does not hear of it, since its connection is
    lost; the second one finds the row and goes on with the next migration. -/
def lostCommit : List (MigrationLabel firstMigrations) :=
  .start firstRelease :: List.replicate 5 (.call 0 (.done false)) ++
    [.call 0 (.lost "EOF"), .environment 0, .start secondRelease] ++
    List.replicate 8 (.call 1 (.done false))

theorem lostCommit_runs : ∃ s, MigrationSteps .postgres { shared := {} } lostCommit s ∧
    s.threads =
      [(firstRelease, .done (.error "failed to commit migration 001_initial_schema.sql: EOF")),
        (secondRelease, .done (.ok ()))] := by
  refine ⟨_, .cons ?_ rfl (.cons ?_ rfl (.cons ?_ rfl (.cons ?_ rfl (.cons ?_ rfl (.cons ?_ rfl
    (.cons ?_ rfl (.cons ?_ rfl (.cons ?_ rfl (.cons ?_ rfl (.cons ?_ rfl (.cons ?_ rfl
    (.cons ?_ rfl (.cons ?_ rfl (.cons ?_ rfl (.cons ?_ rfl (.cons ?_ rfl
    (.nil _))))))))))))))))), rfl⟩
  case refine_6 =>
    -- no other transaction is open
    rintro c ⟨⟩
    refine .inr fun i hi tx htx => ?_
    have hnone : (if i = 0 then _ else if i = 0 then _ else none) = some tx := htx
    have hne : i ≠ 0 := hi
    rw [if_neg hne, if_neg hne] at hnone
    cases hnone
  case refine_16 =>
    rintro c ⟨⟩
    refine .inr fun i hi tx htx => ?_
    have hne : i ≠ 1 := hi
    by_cases hfirst : i = 0
    · subst hfirst
      cases (show none = some tx from htx)
    · have hnone : (if i = 1 then _ else if i = 1 then _ else if i = 0 then _ else
          if i = 0 then _ else if i = 0 then _ else if i = 0 then _ else if i = 0 then _ else none)
            = some tx := htx
      simp only [if_neg hne, if_neg hfirst] at hnone
      cases hnone
  all_goals
    rintro c ⟨⟩
    try exact .inr trivial

theorem migrations_in_order_lostCommit : ∃ s,
    MigrationSteps .postgres { shared := {} } lostCommit s ∧
      s.shared.recorded <+: firstMigrations ∧
      s.shared.executed.Sublist s.shared.recorded ∧
      ∀ n ∈ firstMigrations, n ∈ s.shared.recorded := by
  obtain ⟨s, hs, hthreads⟩ := lostCommit_runs
  obtain ⟨hinitial, -, -, honce, hreturned⟩ := migrations_in_order (by decide +kernel) hs
  refine ⟨s, hs, hinitial, honce (by decide), ?_⟩
  exact hreturned 1 secondRelease (.done (.ok ())) (by rw [hthreads]; rfl) rfl

end Run

end MigrationTable

end TokyoTester
