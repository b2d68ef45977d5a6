import TokyoTester.Database.Schema
import TokyoTester.Library.Numbering
import TokyoTester.Library.Parallel

set_option autoImplicit false

/-! # Revision numbers (`pkg/db/mysql/revisions.go`)

A revision gets its number in a transaction of its own: the greatest number of the workflow is read
without a lock, the row is inserted with the next one, and the transaction commits. Two calls may
read the same number; the unique key `uq_workflow_revisions_workflow_number` makes the later insert
wait and fail, and the call begins again. Here any number of calls run in parallel on the table,
and the database may refuse any statement or lose its reply. -/

namespace TokyoTester

open Numbering

/-- What the driver reports: the number of a `MySQLError`, or anything else. -/
inductive SqlError where
  | mysql (number : Nat)
  | other (message : String)
deriving DecidableEq, Repr, Inhabited

/-- `isRetryableRevisionAllocationError`: a duplicate key, a deadlock or a lock timeout. -/
def isRetryableRevisionAllocationError : SqlError → Bool
  | .mysql number => number = 1062 || number = 1213 || number = 1205
  | .other _ => false

/-- Why `CreateWorkflowRevision` fails. -/
inductive RevisionError where
  | sql (error : SqlError)
  /-- `failed to allocate workflow revision after retries` -/
  | exhausted
deriving DecidableEq, Repr, Inhabited

/-- A transaction: the call that began it, and how many attempts that call had left. -/
structure RevisionTx where
  ctx : Nat
  attemptsLeft : Nat
deriving DecidableEq, Repr, Inhabited

/-- The statements of `CreateWorkflowRevision`. -/
inductive RevisionOp where
  | beginTx (ctx attemptsLeft : Nat)
  /-- `SELECT COALESCE(MAX(revision_number), 0) + 1` -/
  | selectNext (tx : RevisionTx) (workflowId : String)
  | insert (tx : RevisionTx) (row : WorkflowRevision)
  | commit (tx : RevisionTx)
  | rollback (tx : RevisionTx)

def RevisionOp.Reply : RevisionOp → Type
  | beginTx .. => Except SqlError RevisionTx
  | selectNext .. => Except SqlError Int
  | insert .. => Except SqlError Unit
  | commit _ => Except SqlError Unit
  | rollback _ => Unit

abbrev RevisionProgram := Program RevisionOp RevisionOp.Reply

namespace RevisionTx

/-- `BeginTx`, at read committed. -/
def start (ctx attemptsLeft : Nat) : RevisionProgram (Except SqlError RevisionTx) :=
  Program.perform (RevisionOp.beginTx ctx attemptsLeft)

def selectNext (tx : RevisionTx) (workflowId : String) : RevisionProgram (Except SqlError Int) :=
  Program.perform (RevisionOp.selectNext tx workflowId)

def insert (tx : RevisionTx) (row : WorkflowRevision) : RevisionProgram (Except SqlError Unit) :=
  Program.perform (RevisionOp.insert tx row)

def commit (tx : RevisionTx) : RevisionProgram (Except SqlError Unit) :=
  Program.perform (RevisionOp.commit tx)

def rollback (tx : RevisionTx) : RevisionProgram Unit := Program.perform (RevisionOp.rollback tx)

end RevisionTx

/-- The attempts of `CreateWorkflowRevision`. On success the result is the argument with the number
    that was written into it. -/
def allocateRevision (ctx : Nat) (revision : WorkflowRevision) :
    Nat → RevisionProgram (Except RevisionError WorkflowRevision)
  | 0 => pure (.error .exhausted)
  | attemptsLeft + 1 => do
    match ← RevisionTx.start ctx attemptsLeft with
    | .error err => pure (.error (.sql err))
    | .ok tx =>
    match ← tx.selectNext revision.workflowId with
    | .error err =>
      tx.rollback
      pure (.error (.sql err))
    | .ok nextRevision =>
    match ← tx.insert { revision with revisionNumber := nextRevision } with
    | .error err =>
      tx.rollback
      if isRetryableRevisionAllocationError err then allocateRevision ctx revision attemptsLeft
      else pure (.error (.sql err))
    | .ok _ =>
    match ← tx.commit with
    | .error err =>
      if isRetryableRevisionAllocationError err then allocateRevision ctx revision attemptsLeft
      else pure (.error (.sql err))
    | .ok _ => pure (.ok { revision with revisionNumber := nextRevision })

/-- `CreateWorkflowRevision`, as the call number `ctx`. -/
def createWorkflowRevision (ctx : Nat) (revision : WorkflowRevision) :
    RevisionProgram (Except RevisionError WorkflowRevision) :=
  allocateRevision ctx revision 10

/-! ## The table under read committed -/

/-- The table `workflow_revisions`: its committed rows in the order of their commits, the
    transactions under way, and the rows these have inserted. -/
structure RevisionTable where
  committed : List WorkflowRevision := []
  active : List RevisionTx := []
  uncommitted : List (RevisionTx × WorkflowRevision) := []
deriving DecidableEq, Repr, Inhabited

/-- What becomes of a statement: it is done, it is refused, or it is done and its reply is lost. -/
inductive SqlAnswer where
  | done
  | refused (error : SqlError)
  | lost (error : SqlError)
deriving DecidableEq, Repr, Inhabited

def SqlAnswer.takesEffect : SqlAnswer → Bool
  | done | lost _ => true
  | refused _ => false

def SqlAnswer.reply {β : Type} (value : β) : SqlAnswer → Except SqlError β
  | done => .ok value
  | refused error | lost error => .error error

namespace RevisionTable

/-- The rows that a transaction has inserted. -/
def rowsOf (tx : RevisionTx) (t : RevisionTable) : List WorkflowRevision :=
  (t.uncommitted.filter fun r => r.1 = tx).map Prod.snd

/-- The number after the greatest one that a transaction sees: among the committed rows and those
    it has inserted itself. -/
def selectNext (tx : RevisionTx) (workflowId : String) (t : RevisionTable) : Int :=
  (numbers WorkflowRevision.workflowId WorkflowRevision.revisionNumber workflowId
    (t.committed ++ t.rowsOf tx)).foldl max 0 + 1

/-- The transaction ends, and its rows are gone. -/
def rollback (tx : RevisionTx) (t : RevisionTable) : RevisionTable :=
  { t with
    active := t.active.filter fun r => r ≠ tx
    uncommitted := t.uncommitted.filter fun r => r.1 ≠ tx }

/-- The transaction ends, and its rows are the last ones committed. -/
def commit (tx : RevisionTx) (t : RevisionTable) : RevisionTable :=
  { t.rollback tx with committed := t.committed ++ t.rowsOf tx }

/-- The effect of a statement. -/
def effect (t : RevisionTable) : RevisionOp → RevisionTable
  | .beginTx ctx attemptsLeft => { t with active := t.active ++ [⟨ctx, attemptsLeft⟩] }
  | .selectNext _ _ => t
  | .insert tx row => { t with uncommitted := t.uncommitted ++ [(tx, row)] }
  | .commit tx => t.commit tx
  | .rollback tx => t.rollback tx

/-- The reply to a statement. -/
def reply (answer : SqlAnswer) (t : RevisionTable) : (op : RevisionOp) → op.Reply
  | .beginTx ctx attemptsLeft => answer.reply ⟨ctx, attemptsLeft⟩
  | .selectNext tx workflowId => answer.reply (t.selectNext tx workflowId)
  | .insert _ _ => answer.reply ()
  | .commit _ => answer.reply ()
  | .rollback _ => ()

/-- The handler of the statements. -/
def handle (op : RevisionOp) (answer : SqlAnswer) (t : RevisionTable) : op.Reply × RevisionTable :=
  (t.reply answer op, if answer.takesEffect then t.effect op else t)

/-- Two rows that the primary key or the unique key excludes. -/
def Conflict (r s : WorkflowRevision) : Prop :=
  r.id = s.id ∨ r.workflowId = s.workflowId ∧ r.revisionNumber = s.revisionNumber

instance (r s : WorkflowRevision) : Decidable (Conflict r s) :=
  inferInstanceAs (Decidable (_ ∨ _))

/-- A statement may take effect: its transaction is under way, and a row inserted is in conflict
    with no committed row (it would be refused) and with none of another transaction (it waits until
    that one ends). -/
def allows (t : RevisionTable) : RevisionOp → Prop
  | .beginTx _ _ | .rollback _ => True
  | .selectNext tx _ | .commit tx => tx ∈ t.active
  | .insert tx row => tx ∈ t.active ∧ (∀ r ∈ t.committed, ¬Conflict r row) ∧
      ∀ r ∈ t.uncommitted, ¬Conflict r.2 row

instance (t : RevisionTable) (op : RevisionOp) : Decidable (t.allows op) := by
  cases op <;> unfold allows <;> infer_instance

/-- The answers the database can give. It may refuse any statement, with any error. -/
def Answers (op : RevisionOp) (answer : SqlAnswer) (t : RevisionTable) : Prop :=
  answer.takesEffect = true → t.allows op

instance (op : RevisionOp) (answer : SqlAnswer) (t : RevisionTable) :
    Decidable (Answers op answer t) :=
  inferInstanceAs (Decidable (_ → _))

end RevisionTable

/-! ## A call alone -/

theorem RevisionTable.selectNext_empty {tx : RevisionTx} {workflowId : String}
    {rows : List WorkflowRevision} :
    RevisionTable.selectNext tx workflowId { committed := rows }
      = ((rows.filter fun r => decide (r.workflowId = workflowId)).map
          WorkflowRevision.revisionNumber).foldl max 0 + 1 := by
  simp [selectNext, numbers, rowsOf]

/-- Four statements that are answered at once add the row with the next number. -/
theorem allocateRevision_run {ctx attemptsLeft : Nat} {revision : WorkflowRevision}
    {rows : List WorkflowRevision} {number : Int}
    (h : RevisionTable.selectNext ⟨ctx, attemptsLeft⟩ revision.workflowId { committed := rows }
      = number) :
    (allocateRevision ctx revision (attemptsLeft + 1)).run RevisionTable.handle
        (List.replicate 4 .done) { committed := rows }
      = some (.ok { revision with revisionNumber := number },
          { committed := rows ++ [{ revision with revisionNumber := number }] }) := by
  subst h
  generalize hrow : { revision with
    revisionNumber := RevisionTable.selectNext ⟨ctx, attemptsLeft⟩ revision.workflowId
      { committed := rows } } = row
  have hcommit : RevisionTable.commit ⟨ctx, attemptsLeft⟩
      { committed := rows, active := [⟨ctx, attemptsLeft⟩]
        uncommitted := [(⟨ctx, attemptsLeft⟩, row)] } = { committed := rows ++ [row] } := by
    simp [RevisionTable.commit, RevisionTable.rollback, RevisionTable.rowsOf]
  rw [← hcommit, ← hrow]
  rfl

/-! ## What the table keeps -/

namespace RevisionTable

variable {t t' : RevisionTable} {tx : RevisionTx} {row : WorkflowRevision} {me left : Nat}

/-- The numbers of a workflow's committed rows, in the order of their commits. -/
def numbersOf (workflowId : String) (t : RevisionTable) : List Int :=
  numbers WorkflowRevision.workflowId WorkflowRevision.revisionNumber workflowId t.committed

/-- The number after those of the committed rows. -/
def nextOf (workflowId : String) (t : RevisionTable) : Int :=
  next WorkflowRevision.workflowId WorkflowRevision.revisionNumber workflowId t.committed

/-- The committed rows are numbered, and of each workflow at most one row waits for its commit,
    with the next number. -/
structure Sound (t : RevisionTable) : Prop where
  numbered : Numbered WorkflowRevision.workflowId WorkflowRevision.revisionNumber t.committed
  one : (t.uncommitted.map fun r => r.2.workflowId).Nodup
  next : ∀ r ∈ t.uncommitted, r.2.revisionNumber = t.nextOf r.2.workflowId
  underway : ∀ r ∈ t.uncommitted, r.1 ∈ t.active

/-- What the table keeps while `n` calls have begun. -/
structure Invariant (n : Nat) (t : RevisionTable) : Prop where
  sound : t.Sound
  begun : ∀ tx ∈ t.active, tx.ctx < n

/-- A transaction that is still under way has kept its rows. -/
def KeepsTx (tx : RevisionTx) (t t' : RevisionTable) : Prop :=
  tx ∈ t'.active → tx ∈ t.active ∧ t'.rowsOf tx = t.rowsOf tx

/-- What any step does to the table, seen by the calls that `seen` selects. -/
structure Change (seen : Nat → Prop) (t t' : RevisionTable) : Prop where
  sound : t.Sound → t'.Sound
  committed : t.committed <+: t'.committed
  keeps : ∀ tx : RevisionTx, seen tx.ctx → KeepsTx tx t t'

theorem KeepsTx.trans {t'' : RevisionTable} (h : KeepsTx tx t t') (h' : KeepsTx tx t' t'') :
    KeepsTx tx t t'' := by
  intro htx
  obtain ⟨hactive, hrows⟩ := h' htx
  obtain ⟨hactive, hrows'⟩ := h hactive
  exact ⟨hactive, hrows.trans hrows'⟩

theorem Change.refl (seen : Nat → Prop) (t : RevisionTable) : Change seen t t :=
  ⟨id, List.prefix_refl _, fun _ _ h => ⟨h, rfl⟩⟩

theorem Change.trans {seen : Nat → Prop} {t'' : RevisionTable} (h : Change seen t t')
    (h' : Change seen t' t'') : Change seen t t'' :=
  ⟨h'.sound ∘ h.sound, h.committed.trans h'.committed,
    fun tx htx => (h.keeps tx htx).trans (h'.keeps tx htx)⟩

/-- A row that may be inserted, and whose number is not beyond the next one, has the next one. -/
theorem Sound.insert (h : t.Sound) (hallows : t.allows (.insert tx row))
    (hpos : 1 ≤ row.revisionNumber) (hle : row.revisionNumber ≤ t.nextOf row.workflowId) :
    (t.effect (.insert tx row)).Sound := by
  obtain ⟨hactive, hcommitted, huncommitted⟩ := hallows
  have hnumber : row.revisionNumber = t.nextOf row.workflowId := by
    refine h.numbered.eq_next hpos hle ?_
    intro hmem
    obtain ⟨r, hr, hrnumber⟩ := List.mem_map.1 hmem
    simp only [List.mem_filter, decide_eq_true_eq] at hr
    exact hcommitted r hr.1 (.inr ⟨hr.2, hrnumber⟩)
  -- another row of the workflow would carry the same number
  have hother : ∀ r ∈ t.uncommitted, r.2.workflowId ≠ row.workflowId := by
    intro r hr hworkflow
    refine huncommitted r hr (.inr ⟨hworkflow, ?_⟩)
    rw [h.next r hr, hworkflow, hnumber]
  refine ⟨h.numbered, ?_, ?_, ?_⟩
  · simp only [effect, List.map_append, List.map_singleton]
    refine List.nodup_append.2 ⟨h.one, List.nodup_singleton _, ?_⟩
    rintro w hw w' hw' rfl
    obtain ⟨r, hr, rfl⟩ := List.mem_map.1 hw
    exact hother r hr (List.mem_singleton.1 hw')
  · intro r hr
    rcases List.mem_append.1 hr with hr | hr
    · exact h.next r hr
    · rw [List.mem_singleton.1 hr]
      exact hnumber
  · intro r hr
    rcases List.mem_append.1 hr with hr | hr
    · exact h.underway r hr
    · rw [List.mem_singleton.1 hr]
      exact hactive

theorem Sound.rollback (h : t.Sound) (tx : RevisionTx) : (t.rollback tx).Sound := by
  refine ⟨h.numbered, ?_, ?_, ?_⟩
  · exact h.one.sublist (List.filter_sublist.map _)
  · intro r hr
    exact h.next r (List.mem_of_mem_filter hr)
  · intro r hr
    obtain ⟨hmem, hne⟩ := List.mem_filter.1 hr
    exact List.mem_filter.2 ⟨h.underway r hmem, hne⟩

theorem mem_rowsOf {r : WorkflowRevision} : r ∈ t.rowsOf tx ↔ (tx, r) ∈ t.uncommitted := by
  simp only [rowsOf, List.mem_map, List.mem_filter, decide_eq_true_eq, Prod.exists, exists_eq_right]

/-- The commit of a transaction with one row. -/
theorem Sound.commit (h : t.Sound) (hrow : t.rowsOf tx = [row]) : (t.commit tx).Sound := by
  have hmem : (tx, row) ∈ t.uncommitted := mem_rowsOf.1 (hrow ▸ List.mem_singleton_self row)
  have hrollback := h.rollback tx
  have hcommitted : (t.commit tx).committed = t.committed ++ [row] := by
    rw [← hrow]
    rfl
  refine ⟨?_, hrollback.one, ?_, hrollback.underway⟩
  · rw [hcommitted]
    exact h.numbered.append (h.next _ hmem)
  · intro r hr
    have hr' : r ∈ (t.rollback tx).uncommitted := hr
    obtain ⟨hr, hne⟩ := List.mem_filter.1 hr'
    -- the row committed was the only one of its workflow
    have hworkflow : row.workflowId ≠ r.2.workflowId := by
      intro heq
      have := List.inj_on_of_nodup_map h.one hr hmem heq.symm
      simp [this] at hne
    unfold nextOf Numbering.next
    rw [hcommitted, numbers_append_of_ne hworkflow]
    exact h.next r hr

/-! ## One statement of a call -/

theorem rowsOf_rollback_of_ne {tx' : RevisionTx} (h : tx' ≠ tx) :
    (t.rollback tx).rowsOf tx' = t.rowsOf tx' := by
  unfold rowsOf rollback
  dsimp only
  rw [List.filter_filter]
  congr 1
  refine List.filter_congr fun r _ => ?_
  by_cases hr : r.1 = tx'
  · simp [hr, h]
  · simp [hr]

theorem rowsOf_insert_of_ne {tx' : RevisionTx} (h : tx' ≠ tx) :
    (t.effect (.insert tx row)).rowsOf tx' = t.rowsOf tx' := by
  simp [rowsOf, effect, List.filter_append, Ne.symm h]

theorem rowsOf_insert_self :
    (t.effect (.insert tx row)).rowsOf tx = t.rowsOf tx ++ [row] := by
  simp [rowsOf, effect, List.filter_append]

/-- A transaction that ends takes only its own rows along. -/
theorem keepsTx_rollback (tx tx' : RevisionTx) (t : RevisionTable) :
    KeepsTx tx' t (t.rollback tx) := by
  intro hactive
  obtain ⟨hmem, hne⟩ := List.mem_filter.1 hactive
  exact ⟨hmem, rowsOf_rollback_of_ne (of_decide_eq_true hne)⟩

/-- The promise of a call: it leaves the transactions of the others alone. -/
def Guar (me : Nat) : RevisionTable → RevisionTable → Prop := Change fun ctx => ctx ≠ me

/-- What a call relies on: the others leave its transactions alone. -/
def Rely (me : Nat) : RevisionTable → RevisionTable → Prop := Change fun ctx => ctx = me

/-- The setting of the call number `me`. -/
def setting (me : Nat) : Setting RevisionOp RevisionOp.Reply RevisionTable SqlAnswer where
  handle := handle
  rely := Rely me
  guard := Answers
  guar := Guar me
  rely_refl := Change.refl _
  rely_trans := Change.trans

/-- Before an attempt: no transaction is under way that has fewer attempts left. -/
structure Ready (me left : Nat) (t : RevisionTable) : Prop where
  sound : t.Sound
  later : ∀ tx ∈ t.active, tx.ctx = me → left ≤ tx.attemptsLeft

/-- During an attempt: while the transaction is under way, these are the rows it has inserted. -/
structure Inside (me left : Nat) (rows : List WorkflowRevision) (t : RevisionTable) : Prop
    extends Ready me left t where
  rows : ⟨me, left⟩ ∈ t.active → t.rowsOf ⟨me, left⟩ = rows

variable {rows : List WorkflowRevision}

theorem Ready.rely (h : Ready me left t) (hrely : Rely me t t') : Ready me left t' :=
  ⟨hrely.sound h.sound, fun tx htx hme => h.later tx (hrely.keeps tx hme htx).1 hme⟩

theorem Inside.rely (h : Inside me left rows t) (hrely : Rely me t t') :
    Inside me left rows t' := by
  refine ⟨h.toReady.rely hrely, fun hactive => ?_⟩
  obtain ⟨hbefore, hrows⟩ := hrely.keeps _ rfl hactive
  exact hrows.trans (h.rows hbefore)

/-- A number that is not beyond the next one. -/
def NotBeyond (workflowId : String) (number : Int) (t : RevisionTable) : Prop :=
  1 ≤ number ∧ number ≤ t.nextOf workflowId

theorem NotBeyond.rely {workflowId : String} {number : Int} (h : NotBeyond workflowId number t)
    (hrely : Rely me t t') : NotBeyond workflowId number t' :=
  ⟨h.1, Int.le_trans h.2 (next_mono hrely.committed)⟩

/-- The rule for a statement. -/
theorem safe_perform {op : RevisionOp} {post : op.Reply → RevisionTable → Prop}
    (h : ∀ t', Rely me t t' → ∀ answer, Answers op answer t' →
      Guar me t' (t'.handle op answer).2 ∧ post (t'.handle op answer).1 (t'.handle op answer).2)
    (hstable : ∀ {reply t t'}, post reply t → Rely me t t' → post reply t') :
    (setting me).Safe post (Program.perform op) t :=
  Setting.Safe.perform fun t' hrely answer hanswer =>
    ⟨(h t' hrely answer hanswer).1, fun _ hrely' => hstable (h t' hrely answer hanswer).2 hrely'⟩

theorem reply_eq_ok {β : Type} {value v : β} {answer : SqlAnswer}
    (h : answer.reply value = .ok v) : answer = .done ∧ value = v := by
  cases answer with
  | done => exact ⟨rfl, Except.ok.inj h⟩
  | refused error => cases h
  | lost error => cases h

theorem guar_handle {op : RevisionOp} {answer : SqlAnswer}
    (h : answer.takesEffect = true → Guar me t (t.effect op)) : Guar me t (t.handle op answer).2 := by
  unfold handle
  dsimp only
  split_ifs with heffect
  · exact h heffect
  · exact Change.refl _ t

/-- After a step that begins no transaction. -/
theorem Ready.after (h : Ready me left t) (hguar : Guar me t t') (hactive : t'.active ⊆ t.active) :
    Ready me left t' :=
  ⟨hguar.sound h.sound, fun tx htx => h.later tx (hactive htx)⟩

theorem active_handle_subset {op : RevisionOp} {answer : SqlAnswer}
    (h : (t.effect op).active ⊆ t.active) : (t.handle op answer).2.active ⊆ t.active := by
  unfold handle
  dsimp only
  split_ifs
  · exact h
  · exact List.Subset.refl _

theorem safe_start (h : Ready me (left + 1) t) :
    (setting me).Safe (fun reply t => ∀ tx, reply = .ok tx → tx = ⟨me, left⟩ ∧ Inside me left [] t)
      (RevisionTx.start me left) t := by
  refine safe_perform (fun t' hrely answer hanswer => ⟨guar_handle fun _ => ?_, ?_⟩) ?_
  · refine ⟨fun hsound => ⟨hsound.numbered, hsound.one, hsound.next, fun r hr =>
      List.mem_append_left _ (hsound.underway r hr)⟩, List.prefix_refl _, ?_⟩
    intro tx hne htx
    rcases List.mem_append.1 htx with htx | htx
    · exact ⟨htx, rfl⟩
    · rw [List.mem_singleton.1 htx] at hne
      exact absurd rfl hne
  · intro tx htx
    obtain ⟨rfl, rfl⟩ := reply_eq_ok htx
    have hready := h.rely hrely
    refine ⟨rfl, ⟨⟨⟨hready.sound.numbered, hready.sound.one, hready.sound.next, fun r hr =>
      List.mem_append_left _ (hready.sound.underway r hr)⟩, ?_⟩, fun _ => ?_⟩⟩
    · intro tx htx hme
      rcases List.mem_append.1 htx with htx | htx
      · exact Nat.le_of_succ_le (hready.later tx htx hme)
      · rw [List.mem_singleton.1 htx]
    · -- a row of this very transaction would be of one under way before
      refine List.eq_nil_iff_forall_not_mem.2 fun r hr => ?_
      have hbefore := hready.later _ (hready.sound.underway _ (mem_rowsOf.1 hr)) rfl
      exact absurd hbefore (Nat.not_succ_le_self left)
  · intro reply t t' hpost hrely tx htx
    exact ⟨(hpost tx htx).1, (hpost tx htx).2.rely hrely⟩

theorem safe_selectNext (workflowId : String) (h : Inside me left [] t) :
    (setting me).Safe (fun reply t => Inside me left [] t ∧
        ∀ number, reply = .ok number → NotBeyond workflowId number t)
      (RevisionTx.selectNext ⟨me, left⟩ workflowId) t := by
  refine safe_perform (fun t' hrely answer hanswer => ⟨guar_handle fun _ => Change.refl _ _, ?_⟩) ?_
  · have hinside := h.rely hrely
    have hsame : (t'.handle (.selectNext ⟨me, left⟩ workflowId) answer).2 = t' := by
      unfold handle
      dsimp only
      split_ifs <;> rfl
    rw [hsame]
    refine ⟨hinside, fun number hnumber => ?_⟩
    obtain ⟨rfl, rfl⟩ := reply_eq_ok hnumber
    have hrows := hinside.rows (hanswer rfl)
    unfold selectNext NotBeyond nextOf
    rw [hrows, List.append_nil, hinside.sound.numbered.foldl_max]
    unfold Numbering.next
    omega
  · rintro reply t t' ⟨hinside, hnumber⟩ hrely
    exact ⟨hinside.rely hrely, fun number h => (hnumber number h).rely hrely⟩

theorem safe_insert (row : WorkflowRevision) (h : Inside me left [] t)
    (hnumber : NotBeyond row.workflowId row.revisionNumber t) :
    (setting me).Safe (fun reply t => Ready me left t ∧ (reply = .ok () → Inside me left [row] t))
      (RevisionTx.insert ⟨me, left⟩ row) t := by
  refine safe_perform (fun t' hrely answer hanswer => ?_) ?_
  · have hinside := h.rely hrely
    have hbeyond := hnumber.rely hrely
    have hguar : Guar me t' (t'.handle (.insert ⟨me, left⟩ row) answer).2 := by
      refine guar_handle fun heffect => ⟨fun hsound =>
        hsound.insert (hanswer heffect) hbeyond.1 hbeyond.2, List.prefix_refl _, ?_⟩
      intro tx hne htx
      refine ⟨htx, rowsOf_insert_of_ne ?_⟩
      rintro rfl
      exact hne rfl
    have hready := hinside.toReady.after hguar
      (active_handle_subset (List.Subset.refl _))
    refine ⟨hguar, hready, fun hreply => ⟨hready, fun hactive => ?_⟩⟩
    obtain ⟨rfl, -⟩ := reply_eq_ok hreply
    have hrows := hinside.rows hactive
    exact rowsOf_insert_self.trans (by rw [hrows, List.nil_append])
  · rintro reply t t' ⟨hready, hok⟩ hrely
    exact ⟨hready.rely hrely, fun h => (hok h).rely hrely⟩

theorem safe_rollback (h : Ready me left t) :
    (setting me).Safe (fun _ t => Ready me left t) (RevisionTx.rollback ⟨me, left⟩) t := by
  refine safe_perform (fun t' hrely answer hanswer => ?_) fun hready hrely => hready.rely hrely
  have hguar : Guar me t' (t'.handle (.rollback ⟨me, left⟩) answer).2 :=
    guar_handle fun _ => ⟨fun hsound => hsound.rollback _, List.prefix_refl _,
      fun tx _ => keepsTx_rollback _ tx t'⟩
  exact ⟨hguar, (h.rely hrely).after hguar
    (active_handle_subset List.filter_sublist.subset)⟩

theorem safe_commit (h : Inside me left [row] t) :
    (setting me).Safe (fun reply t => Ready me left t ∧ (reply = .ok () → row ∈ t.committed))
      (RevisionTx.commit ⟨me, left⟩) t := by
  refine safe_perform (fun t' hrely answer hanswer => ?_) ?_
  · have hinside := h.rely hrely
    have hguar : Guar me t' (t'.handle (.commit ⟨me, left⟩) answer).2 :=
      guar_handle fun heffect => ⟨fun hsound => hsound.commit (hinside.rows (hanswer heffect)),
        List.prefix_append _ _, fun tx _ => keepsTx_rollback _ tx t'⟩
    refine ⟨hguar, hinside.toReady.after hguar
      (active_handle_subset List.filter_sublist.subset), fun hreply => ?_⟩
    obtain ⟨rfl, -⟩ := reply_eq_ok hreply
    refine List.mem_append_right _ ?_
    rw [hinside.rows (hanswer rfl)]
    exact List.mem_singleton_self row
  · rintro reply t t' ⟨hready, hok⟩ hrely
    exact ⟨hready.rely hrely, fun h => hrely.committed.subset (hok h)⟩

/-! ## Calls -/

/-- A call that succeeds has written the number of its committed row into its argument. -/
def Recorded (revision : WorkflowRevision) (result : Except RevisionError WorkflowRevision)
    (t : RevisionTable) : Prop :=
  ∀ row, result = .ok row →
    row ∈ t.committed ∧ row = { revision with revisionNumber := row.revisionNumber }

theorem safe_error {revision : WorkflowRevision} {err : RevisionError} :
    (setting me).Safe (Recorded revision) (pure (.error err)) t :=
  Setting.Safe.pure fun _ _ _ h => by cases h

/-- **The attempts of a call**, by induction on how many are left. -/
theorem safe_allocateRevision (revision : WorkflowRevision) :
    ∀ {left t}, Ready me left t →
      (setting me).Safe (Recorded revision) (allocateRevision me revision left) t := by
  intro left
  -- on the attempts left: a duplicate number is rolled back and read again
  induction left with
  | zero => exact fun _ => safe_error
  | succ left ih =>
      intro t hready
      refine (safe_start hready).bind fun reply t hreply => ?_
      cases reply with
      | error err => exact safe_error
      | ok tx =>
      obtain ⟨rfl, hinside⟩ := hreply tx rfl
      refine (safe_selectNext revision.workflowId hinside).bind fun reply t hreply => ?_
      cases reply with
      | error err => exact (safe_rollback hreply.1.toReady).bind fun _ _ _ => safe_error
      | ok number =>
      refine (safe_insert { revision with revisionNumber := number } hreply.1
        (hreply.2 number rfl)).bind fun reply t hreply => ?_
      cases reply with
      | error err =>
          refine (safe_rollback hreply.1).bind fun _ t hready => ?_
          split_ifs
          · exact ih hready
          · exact safe_error
      | ok _ =>
      refine (safe_commit (hreply.2 rfl)).bind fun reply t hreply => ?_
      cases reply with
      | error err =>
          dsimp only
          split_ifs
          · exact ih hreply.1
          · exact safe_error
      | ok _ =>
          refine Setting.Safe.pure fun t' hrely row hrow => ?_
          obtain rfl := Except.ok.inj hrow
          exact ⟨hrely.committed.subset (hreply.2 rfl), rfl⟩

end RevisionTable

/-! ## Runs -/

/-- Calls of `CreateWorkflowRevision` in parallel on one table. -/
abbrev RevisionCalls :=
  Parallel RevisionOp RevisionOp.Reply RevisionTable WorkflowRevision
    (Except RevisionError WorkflowRevision)

/-- A call begins, a statement is answered, or the server ends a transaction by itself. -/
abbrev RevisionLabel := Parallel.Label WorkflowRevision SqlAnswer RevisionTx

def revisionStep : RevisionCalls → RevisionLabel → Option RevisionCalls :=
  Parallel.step RevisionTable.handle createWorkflowRevision RevisionTable.rollback

/-- What a run keeps. -/
theorem revisions_invariant {s : RevisionCalls} {labels : List RevisionLabel}
    (h : Trace.Guarded (fun s l s' => revisionStep s l = some s')
      (Parallel.guard RevisionTable.Answers) { shared := {} } labels s) :
    s.shared.Sound ∧ Parallel.AllSafe RevisionTable.setting RevisionTable.Recorded s := by
  have hrun := Parallel.guarded_safe RevisionTable.setting RevisionTable.Recorded
    RevisionTable.Invariant h (fun _ => rfl) (fun _ => rfl) ?_ ?_ ?_ ?_ ?_ ?_ ?_ ?_
  · exact ⟨hrun.1.sound, hrun.2⟩
  · -- what a call promises is what every other relies on
    intro i j t t' hij hguar
    exact ⟨hguar.sound, hguar.committed, fun tx htx => hguar.keeps tx (htx ▸ Ne.symm hij)⟩
  · intro i tx t
    exact ⟨fun hsound => hsound.rollback tx, List.prefix_refl _,
      fun tx' _ => RevisionTable.keepsTx_rollback tx tx' t⟩
  · intro n t hinv
    exact ⟨hinv.sound, fun tx htx => Nat.lt_succ_of_lt (hinv.begun tx htx)⟩
  · intro i n t t' hi hguar hinv
    refine ⟨hguar.sound hinv.sound, fun tx htx => ?_⟩
    by_cases hme : tx.ctx = i
    · exact hme ▸ hi
    · exact hinv.begun tx (hguar.keeps tx hme htx).1
  · intro n tx t hinv
    exact ⟨hinv.sound.rollback tx, fun tx' htx => hinv.begun tx' (List.mem_of_mem_filter htx)⟩
  · intro i t revision hinv
    refine RevisionTable.safe_allocateRevision revision ⟨hinv.sound, fun tx htx hme => ?_⟩
    exact absurd (hinv.begun tx htx) (hme ▸ Nat.lt_irrefl _)
  · exact ⟨⟨numbered_nil, List.nodup_nil, by simp, by simp⟩, by simp⟩
  · intro i t ht
    cases ht

/-- **Revision numbers**: whatever the calls and the order of their statements, the committed
    revisions of each workflow are numbered `1, …, n` in the order of their commits, and a call that
    succeeds knows the number of its row. -/
theorem revision_numbers_consecutive {s : RevisionCalls} {labels : List RevisionLabel}
    (h : Trace.Guarded (fun s l s' => revisionStep s l = some s')
      (Parallel.guard RevisionTable.Answers) { shared := {} } labels s) :
    (∀ workflowId, (s.shared.numbersOf workflowId).Nodup ∧
      (∀ k, k ∈ s.shared.numbersOf workflowId ↔
        1 ≤ k ∧ k ≤ (s.shared.numbersOf workflowId).length) ∧
      (s.shared.numbersOf workflowId).Pairwise (· < ·)) ∧
    ∀ (i : Nat) revision row, s.threads[i]? = some (revision, Program.done (.ok row)) →
      row ∈ s.shared.committed ∧ row = { revision with revisionNumber := row.revisionNumber } := by
  obtain ⟨hsound, hsafe⟩ := revisions_invariant h
  refine ⟨fun workflowId => ⟨hsound.numbered.nodup, fun k => ?_, hsound.numbered.pairwise⟩, ?_⟩
  · exact hsound.numbered.mem_iff.trans (and_congr_right' Int.lt_add_one_iff)
  · intro i revision row hi
    exact (hsafe i _ hi).result rfl row rfl

def sampleRevision (id : String) : WorkflowRevision where
  id := id
  projectId := "project"
  workflowId := "workflow"
  revisionNumber := 0
  workflowVersion := 3
  snapshot := ⟨none, []⟩
  message := "Manual checkpoint"
  createdBy := "user"
  createdAt := 10

/-- Two calls read the same number. The second one's row is refused when the first has committed,
    and its next attempt succeeds. -/
def racingCalls : List RevisionLabel :=
  [.start (sampleRevision "a"), .start (sampleRevision "b"),
    .call 0 .done, .call 1 .done, .call 0 .done, .call 1 .done,
    .call 0 .done, .call 0 .done, .call 1 (.refused (.mysql 1062)), .call 1 .done,
    .call 1 .done, .call 1 .done, .call 1 .done, .call 1 .done]

theorem revision_numbers_raced :
    ∃ s : RevisionCalls, Trace.Guarded (fun s l s' => revisionStep s l = some s')
        (Parallel.guard RevisionTable.Answers) { shared := {} } racingCalls s ∧
      s.shared.numbersOf "workflow" = [1, 2] ∧ (s.shared.numbersOf "workflow").Nodup := by
  have hruns : (Trace.run (Trace.restrict revisionStep (Parallel.guard RevisionTable.Answers))
      { shared := {} } racingCalls).map (fun s => s.shared.numbersOf "workflow")
        = some [1, 2] := by decide +kernel
  obtain ⟨s, hs, hnumbers⟩ := Option.map_eq_some_iff.1 hruns
  have hrun := Trace.Guarded.of_run hs
  exact ⟨s, hrun, hnumbers, ((revision_numbers_consecutive hrun).1 "workflow").1⟩

end TokyoTester
