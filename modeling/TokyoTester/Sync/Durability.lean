import Mathlib.Algebra.Order.BigOperators.Group.Multiset
import TokyoTester.Library.Trace
import TokyoTester.Sync.Client

set_option autoImplicit false

/-! # The queue of the sync service and its copy in the browser (`sync-service.ts`)

The sync service keeps a copy of its queue in `localStorage` and takes it up again when the page
is loaded. A flush takes its batch out of the queue and saves what is left before it sends, so
while the batch is on its way it is in the memory of the tab only; what `flushOnPageHide` hands to
the browser is in neither. The copy holds every change that is not acknowledged exactly when
nothing is on its way. -/

namespace TokyoTester

/-- A `commitBatch` that waits for the server: its batch, and the repaired one if that was sent. -/
structure PendingCommit where
  batch : List SyncChange
  repaired : Option (List SyncChange) := none
deriving Repr, Inhabited

/-- The sync service of a tab, the copy of its queue, and the beacons that the browser sends on its
    own. `outstanding` is what the server has still to acknowledge: every change that was queued,
    in its latest form, and that was not superseded. -/
structure SyncService where
  running : Bool := true
  enabled : Bool := true
  maxBatchSize : Nat := 100
  queue : List SyncChange := []
  storage : Option (List SyncChange) := none
  commits : List PendingCommit := []
  beacons : List (List SyncChange) := []
  outstanding : Multiset SyncChange := 0
deriving Inhabited

/-- What becomes of a beacon: nobody is signed in or no project is chosen and its request cannot
    be made, the browser does not take it, or the browser takes it. -/
inductive Beacon where
  | threw | refused | accepted
deriving DecidableEq, Repr, Inhabited

/-- What can happen. Each time the queue is saved, the browser may refuse to store it. -/
inductive ServiceLabel where
  | setEnabled (enabled : Bool)
  | queueChange (entityId : String) (changeType : ChangeType) (data : ChangeData) (now : Time)
      (saved : Bool)
  | flush (saved : Bool)
  /-- A round of `flushPendingBeforeRun`. -/
  | flushBeforeRun (saved : Bool)
  /-- The server's answer to the request of a commit. -/
  | answered (k : Nat) (response : SyncBatchResponse) (saved : Bool)
  /-- The request of a commit fails. -/
  | failed (k : Nat) (saved : Bool)
  | flushOnPageHide (beacon : Beacon) (saved savedAgain : Bool)
  /-- The server's answer to a beacon, which only the browser sees. -/
  | beaconAnswered (k : Nat) (response : SyncBatchResponse)
  /-- The tab is killed. -/
  | kill
  /-- The page is loaded. -/
  | restore

/-- The server has done what it was asked. -/
def SyncBatchResponse.acknowledges (response : SyncBatchResponse) : Bool :=
  response.success && response.errors.isEmpty

/-- The entities that are synced before a run. -/
def isPreRunChange (change : SyncChange) : Bool :=
  change.data.entityType = "workflow" || change.data.entityType = "scenario"

/-- `dequeueMatching`: the first matching changes, and the others. -/
def dequeueMatching (p : SyncChange → Bool) : Nat → List SyncChange →
    List SyncChange × List SyncChange
  | _, [] => ([], [])
  | n, change :: rest =>
    match p change, n with
    | true, n + 1 =>
      let r := dequeueMatching p n rest
      (change :: r.1, r.2)
    | _, n =>
      let r := dequeueMatching p n rest
      (r.1, change :: r.2)

/-- The queued change that an incoming one supersedes. -/
def superseded (incoming : SyncChange) (queue : List SyncChange) : Multiset SyncChange :=
  (queue.find? (·.sameEntity incoming)).elim 0 ({·})

namespace SyncService

/-- `persistQueue`. -/
def persistQueue (saved : Bool) (s : SyncService) : SyncService :=
  if s.queue.isEmpty then { s with storage := none }
  else if saved then { s with storage := some s.queue }
  else s

/-- What the copy holds. -/
def stored (s : SyncService) : List SyncChange := s.storage.getD []

/-- `queueChange`. -/
def queueChange (incoming : SyncChange) (saved : Bool) (s : SyncService) : SyncService :=
  if !s.enabled then s
  else
    match coalesceQueuedChange incoming s.queue with
    | some queue =>
      { s with
        queue
        outstanding := s.outstanding - superseded incoming s.queue +
          {{ incoming with changeType := .insert, clientVersion := 0 }} }.persistQueue saved
    | none =>
      { s with
        queue := s.queue ++ [incoming]
        outstanding := s.outstanding + {incoming} }.persistQueue saved

/-- What is left of the queue is saved. -/
def leave (queue : List SyncChange) (saved : Bool) (s : SyncService) : SyncService :=
  { s with queue }.persistQueue saved

/-- `commitBatch` up to its request. -/
def commitBatch (batch : List SyncChange) (s : SyncService) : SyncService :=
  { s with commits := s.commits ++ [{ batch }] }

/-- `flush` up to its request. -/
def flush (saved : Bool) (s : SyncService) : SyncService :=
  if !s.enabled || s.queue.isEmpty then s
  else
    let batch := s.queue.take s.maxBatchSize
    let left := s.leave (s.queue.drop s.maxBatchSize) saved
    if batch.isEmpty then left else left.commitBatch batch

/-- A round of `flushPendingBeforeRun` up to its request. -/
def flushBeforeRun (saved : Bool) (s : SyncService) : SyncService :=
  if !s.queue.any isPreRunChange then s
  else
    let (batch, queue) := dequeueMatching isPreRunChange s.maxBatchSize s.queue
    let left := s.leave queue saved
    if batch.isEmpty then left else left.commitBatch batch

/-- A batch goes back to the front of the queue. -/
def requeue (batch : List SyncChange) (saved : Bool) (s : SyncService) : SyncService :=
  { s with queue := batch ++ s.queue }.persistQueue saved

/-- `commitBatch` after the answer to its request. -/
def answered (k : Nat) (response : SyncBatchResponse) (saved : Bool) (s : SyncService) :
    Option SyncService :=
  match s.commits[k]? with
  | none => none
  | some commit =>
    let done := { s with commits := s.commits.eraseIdx k }
    match commit.repaired with
    | some repaired =>
      if response.acknowledges then
        some { done with outstanding := s.outstanding - commit.batch }
      else
        some ({ done with
          outstanding := s.outstanding - commit.batch + repaired }.requeue repaired saved)
    | none =>
      match repairMissingEntityUpdates commit.batch response.errors with
      | some repaired =>
        some { s with commits := s.commits.set k { commit with repaired := some repaired } }
      | none =>
        if response.acknowledges then
          some { done with outstanding := s.outstanding - commit.batch }
        else some (done.requeue commit.batch saved)

/-- `commitBatch` after its request has failed. -/
def failed (k : Nat) (saved : Bool) (s : SyncService) : Option SyncService :=
  match s.commits[k]? with
  | none => none
  | some commit =>
    some ({ s with commits := s.commits.eraseIdx k }.requeue commit.batch saved)

/-- `flushOnPageHide`. -/
def flushOnPageHide (beacon : Beacon) (saved savedAgain : Bool) (s : SyncService) : SyncService :=
  if !s.enabled || s.queue.isEmpty then s
  else
    let batch := s.queue.take s.maxBatchSize
    let left := s.leave (s.queue.drop s.maxBatchSize) saved
    if batch.isEmpty then left
    else
      match beacon with
      | .threw => left
      | .refused => left.requeue batch savedAgain
      | .accepted => { left with beacons := left.beacons ++ [batch] }

/-- The answer to a beacon: when it acknowledges nothing, the changes are lost. -/
def beaconAnswered (k : Nat) (response : SyncBatchResponse) (s : SyncService) :
    Option SyncService :=
  match s.beacons[k]? with
  | none => none
  | some batch =>
    if response.acknowledges then
      some { s with beacons := s.beacons.eraseIdx k, outstanding := s.outstanding - batch }
    else some s

/-- The tab is killed: its memory is gone. -/
def kill (s : SyncService) : SyncService := { s with running := false, queue := [], commits := [] }

/-- The page is loaded: the constructor with `restoreQueue`, with the memory of a killed tab. -/
def restore (s : SyncService) : SyncService :=
  { s with running := true, enabled := true, maxBatchSize := 100, queue := s.stored }

/-- One step, when it can happen. -/
def step (s : SyncService) : ServiceLabel → Option SyncService
  | .beaconAnswered k response => s.beaconAnswered k response
  | .restore => if s.running then none else some s.restore
  | label =>
    if !s.running then none
    else
      match label with
      | .setEnabled enabled => some { s with enabled }
      | .queueChange entityId changeType data now saved =>
        some (s.queueChange (queuedChange entityId changeType data now) saved)
      | .flush saved => some (s.flush saved)
      | .flushBeforeRun saved => some (s.flushBeforeRun saved)
      | .answered k response saved => s.answered k response saved
      | .failed k saved => s.failed k saved
      | .flushOnPageHide beacon saved savedAgain =>
        some (s.flushOnPageHide beacon saved savedAgain)
      | .kill => some s.kill
      | _ => none

/-! ## The condition -/

/-- The batches of commits and of beacons. -/
def batches (commits : List PendingCommit) (beacons : List (List SyncChange)) :
    Multiset SyncChange :=
  (commits.map fun c => Multiset.ofList c.batch).sum + (beacons.map Multiset.ofList).sum

/-- What is on its way. -/
def inFlight (s : SyncService) : Multiset SyncChange := batches s.commits s.beacons

/-- The copy holds every change that is outstanding, and a page that is loaded after the tab is
    killed has them all in its queue. -/
def Durable (s : SyncService) : Prop :=
  s.outstanding ≤ s.stored ∧ s.outstanding ≤ s.kill.restore.queue

/-- The steps that lose nothing: the browser stores what is saved, a beacon's request can be made,
    and the tab is not killed while something is on its way. -/
def Careful (s : SyncService) : ServiceLabel → Prop
  | .setEnabled _ => True
  | .queueChange _ _ _ _ saved => saved = true
  | .flush saved => saved = true
  | .flushBeforeRun saved => saved = true
  | .answered _ _ saved => saved = true
  | .failed _ saved => saved = true
  | .flushOnPageHide beacon saved savedAgain =>
    saved = true ∧ savedAgain = true ∧ beacon ≠ .threw
  | .beaconAnswered _ _ => True
  | .kill => s.inFlight = 0
  | .restore => True

instance (s : SyncService) : (label : ServiceLabel) → Decidable (s.Careful label)
  | .setEnabled _ => .isTrue trivial
  | .queueChange _ _ _ _ saved => inferInstanceAs (Decidable (saved = true))
  | .flush saved => inferInstanceAs (Decidable (saved = true))
  | .flushBeforeRun saved => inferInstanceAs (Decidable (saved = true))
  | .answered _ _ saved => inferInstanceAs (Decidable (saved = true))
  | .failed _ saved => inferInstanceAs (Decidable (saved = true))
  | .flushOnPageHide beacon saved savedAgain =>
    inferInstanceAs (Decidable (saved = true ∧ savedAgain = true ∧ beacon ≠ .threw))
  | .beaconAnswered _ _ => .isTrue trivial
  | .kill => inferInstanceAs (Decidable (s.inFlight = 0))
  | .restore => .isTrue trivial

/-! ## Saving -/

section Persist

variable (saved : Bool) (s : SyncService)

@[simp] theorem persistQueue_running : (s.persistQueue saved).running = s.running := by
  unfold persistQueue
  split_ifs <;> rfl

@[simp] theorem persistQueue_queue : (s.persistQueue saved).queue = s.queue := by
  unfold persistQueue
  split_ifs <;> rfl

@[simp] theorem persistQueue_commits : (s.persistQueue saved).commits = s.commits := by
  unfold persistQueue
  split_ifs <;> rfl

@[simp] theorem persistQueue_beacons : (s.persistQueue saved).beacons = s.beacons := by
  unfold persistQueue
  split_ifs <;> rfl

@[simp] theorem persistQueue_outstanding :
    (s.persistQueue saved).outstanding = s.outstanding := by
  unfold persistQueue
  split_ifs <;> rfl

@[simp] theorem persistQueue_inFlight : (s.persistQueue saved).inFlight = s.inFlight := by
  simp [inFlight]

/-- What is saved is the queue. -/
@[simp] theorem persistQueue_storage : ((s.persistQueue true).storage).getD [] = s.queue := by
  unfold persistQueue
  cases s.queue with
  | nil => rfl
  | cons change rest => rfl

@[simp] theorem persistQueue_stored : (s.persistQueue true).stored = s.queue :=
  s.persistQueue_storage

end Persist

/-! ## The invariant -/

/-- What careful steps keep: the copy of a running tab is its queue, and every outstanding change
    is in the copy or on its way. -/
structure Tracked (s : SyncService) : Prop where
  copy : s.running = true → s.stored = s.queue
  conserved : s.outstanding = s.stored + s.inFlight

variable {s s' : SyncService}

/-- A state whose queue has just been saved. -/
theorem Tracked.saved (h : s.outstanding = s.queue + s.inFlight) :
    (s.persistQueue true).Tracked where
  copy _ := by simp
  conserved := by simpa using h

theorem Tracked.outstanding_eq (h : s.Tracked) (hrunning : s.running = true) :
    s.outstanding = s.queue + s.inFlight := by
  rw [h.conserved, h.copy hrunning]

/-! ## What is on its way -/

section Batches

variable {commits : List PendingCommit} {beacons : List (List SyncChange)}

theorem batches_commit (commit : PendingCommit) :
    batches (commits ++ [commit]) beacons = batches commits beacons + commit.batch := by
  simp only [batches, List.map_append, List.map_singleton, List.sum_append, List.sum_singleton]
  exact add_right_comm _ _ _

theorem batches_beacon (batch : List SyncChange) :
    batches commits (beacons ++ [batch]) = batches commits beacons + batch := by
  simp only [batches, List.map_append, List.map_singleton, List.sum_append, List.sum_singleton]
  exact (add_assoc _ _ _).symm

/-- The sum over a list without one of its elements. -/
theorem sum_eraseIdx {α M : Type} [AddCommMonoid M] (f : α → M) {l : List α} {k : Nat} {a : α}
    (h : l[k]? = some a) : ((l.eraseIdx k).map f).sum + f a = (l.map f).sum := by
  obtain ⟨hk, rfl⟩ := List.getElem?_eq_some_iff.1 h
  have hperm := (List.getElem_cons_eraseIdx_perm hk).map f
  rw [← hperm.sum_eq, List.map_cons, List.sum_cons, add_comm]

theorem batches_eraseIdx {k : Nat} {commit : PendingCommit} (h : commits[k]? = some commit) :
    batches commits beacons = batches (commits.eraseIdx k) beacons + commit.batch := by
  unfold batches
  rw [add_right_comm, sum_eraseIdx (fun c : PendingCommit => Multiset.ofList c.batch) h]

theorem batches_eraseIdx_beacon {k : Nat} {batch : List SyncChange}
    (h : beacons[k]? = some batch) :
    batches commits beacons = batches commits (beacons.eraseIdx k) + batch := by
  unfold batches
  rw [add_assoc, sum_eraseIdx Multiset.ofList h]

/-- A repair does not change the batch of a commit. -/
theorem batches_set {k : Nat} {commit commit' : PendingCommit} (h : commits[k]? = some commit)
    (hbatch : commit'.batch = commit.batch) :
    batches (commits.set k commit') beacons = batches commits beacons := by
  unfold batches
  have hmap : (commits.set k commit').map (fun c => Multiset.ofList c.batch)
      = commits.map fun c => Multiset.ofList c.batch := by
    refine List.ext_getElem? fun j => ?_
    by_cases hj : k = j
    · subst hj
      obtain ⟨hk, rfl⟩ := List.getElem?_eq_some_iff.1 h
      simp [hk, hbatch]
    · simp [List.getElem?_set_ne hj]
  rw [hmap]

end Batches

/-! ## Careful steps -/

/-- Coalescing replaces the superseded change. -/
theorem coalesceQueuedChange_eq {incoming : SyncChange} {queue queue' : List SyncChange}
    (h : coalesceQueuedChange incoming queue = some queue') :
    superseded incoming queue ≤ queue ∧ (queue' : Multiset SyncChange)
      = queue - superseded incoming queue +
        {{ incoming with changeType := .insert, clientVersion := 0 }} := by
  induction queue generalizing queue' with
  | nil => cases h
  | cons existing rest ih =>
      unfold coalesceQueuedChange at h
      by_cases hsame : existing.sameEntity incoming = true
      · rw [if_pos hsame] at h
        split_ifs at h
        obtain rfl := Option.some.inj h
        have hsuperseded : superseded incoming (existing :: rest) = {existing} := by
          simp [superseded, hsame]
        rw [hsuperseded, ← Multiset.cons_coe, ← Multiset.cons_coe, Multiset.sub_singleton,
          Multiset.erase_cons_head, Multiset.add_comm, Multiset.singleton_add]
        exact ⟨by simp, rfl⟩
      · rw [if_neg hsame] at h
        obtain ⟨rest', hrest, rfl⟩ := Option.map_eq_some_iff.1 h
        obtain ⟨hle, heq⟩ := ih hrest
        have hsuperseded : superseded incoming (existing :: rest) = superseded incoming rest := by
          simp [superseded, hsame]
        rw [hsuperseded, ← Multiset.cons_coe, ← Multiset.cons_coe, heq, ← Multiset.cons_add]
        refine ⟨hle.trans (Multiset.le_cons_self _ _), ?_⟩
        rw [← Multiset.singleton_add, ← Multiset.singleton_add, add_tsub_assoc_of_le hle]

theorem Tracked.queueChange (h : s.Tracked) (hrunning : s.running = true) (incoming : SyncChange) :
    (s.queueChange incoming true).Tracked := by
  unfold SyncService.queueChange
  split_ifs
  · exact h
  · have hqueue := h.outstanding_eq hrunning
    cases hcoalesce : coalesceQueuedChange incoming s.queue with
    | none =>
        refine Tracked.saved ?_
        show s.outstanding + {incoming} = ((s.queue ++ [incoming] : List SyncChange)) + s.inFlight
        rw [hqueue, ← Multiset.coe_add, Multiset.coe_singleton, add_right_comm]
    | some queue =>
        obtain ⟨hle, heq⟩ := coalesceQueuedChange_eq hcoalesce
        refine Tracked.saved ?_
        show s.outstanding - superseded incoming s.queue + _ = queue + s.inFlight
        rw [hqueue, heq, ← tsub_add_eq_add_tsub hle, add_right_comm]

section Taken

variable {batch queue : List SyncChange} (h : s.Tracked) (hrunning : s.running = true)
  (hsplit : (s.queue : Multiset SyncChange) = batch + queue)

include h hrunning hsplit

theorem Tracked.outstanding_split :
    s.outstanding = (queue : Multiset SyncChange) + (s.inFlight + batch) := by
  rw [h.outstanding_eq hrunning, hsplit, add_comm (batch : Multiset SyncChange), add_assoc,
    add_comm (batch : Multiset SyncChange)]

/-- The batch is sent. -/
theorem Tracked.commitBatch : ((s.leave queue true).commitBatch batch).Tracked where
  copy _ := by
    show (s.leave queue true).stored = (s.leave queue true).queue
    simp [leave]
  conserved := by
    show (s.leave queue true).outstanding = ((s.leave queue true).stored : Multiset SyncChange) +
      batches ((s.leave queue true).commits ++ [⟨batch, none⟩]) (s.leave queue true).beacons
    rw [batches_commit]
    simpa [leave, inFlight] using h.outstanding_split hrunning hsplit

/-- The browser has taken the batch. -/
theorem Tracked.beacon :
    { s.leave queue true with beacons := (s.leave queue true).beacons ++ [batch] }.Tracked where
  copy _ := by
    show (s.leave queue true).stored = (s.leave queue true).queue
    simp [leave]
  conserved := by
    show (s.leave queue true).outstanding = ((s.leave queue true).stored : Multiset SyncChange) +
      batches (s.leave queue true).commits ((s.leave queue true).beacons ++ [batch])
    rw [batches_beacon]
    simpa [leave, inFlight] using h.outstanding_split hrunning hsplit

/-- The batch is empty. -/
theorem Tracked.leave (hempty : batch = []) : (s.leave queue true).Tracked := by
  refine Tracked.saved ?_
  show s.outstanding = (queue : Multiset SyncChange) + s.inFlight
  rw [h.outstanding_split hrunning hsplit, hempty, Multiset.coe_nil, add_zero]

/-- The batch is put back. -/
theorem Tracked.putBack : ((s.leave queue true).requeue batch true).Tracked := by
  refine Tracked.saved ?_
  show (s.leave queue true).outstanding
    = ((batch ++ (s.leave queue true).queue : List SyncChange) : Multiset SyncChange) +
      (s.leave queue true).inFlight
  unfold SyncService.leave
  rw [persistQueue_outstanding, persistQueue_queue, persistQueue_inFlight, ← Multiset.coe_add,
    ← hsplit]
  exact h.outstanding_eq hrunning

end Taken

theorem coe_take_add_drop (queue : List SyncChange) (n : Nat) :
    (queue : Multiset SyncChange) = queue.take n + queue.drop n := by
  rw [Multiset.coe_add, List.take_append_drop]

theorem coe_dequeueMatching (p : SyncChange → Bool) (n : Nat) (queue : List SyncChange) :
    (queue : Multiset SyncChange)
      = (dequeueMatching p n queue).1 + (dequeueMatching p n queue).2 := by
  induction queue generalizing n with
  | nil => rfl
  | cons change rest ih =>
      unfold dequeueMatching
      split
      · rw [← Multiset.cons_coe, ← Multiset.cons_coe, Multiset.cons_add, ← ih]
      · rw [← Multiset.cons_coe, ← Multiset.cons_coe, Multiset.add_cons, ← ih]

theorem Tracked.flush (h : s.Tracked) (hrunning : s.running = true) : (s.flush true).Tracked := by
  unfold SyncService.flush
  have hsplit := coe_take_add_drop s.queue s.maxBatchSize
  split_ifs with hidle
  · exact h
  · dsimp only
    split_ifs with hempty
    · exact h.leave hrunning hsplit (by simpa using hempty)
    · exact h.commitBatch hrunning hsplit

theorem Tracked.flushBeforeRun (h : s.Tracked) (hrunning : s.running = true) :
    (s.flushBeforeRun true).Tracked := by
  unfold SyncService.flushBeforeRun
  have hsplit := coe_dequeueMatching isPreRunChange s.maxBatchSize s.queue
  split_ifs with hidle
  · exact h
  · dsimp only
    split_ifs with hempty
    · exact h.leave hrunning hsplit (by simpa using hempty)
    · exact h.commitBatch hrunning hsplit

theorem Tracked.flushOnPageHide (h : s.Tracked) (hrunning : s.running = true) {beacon : Beacon}
    (hbeacon : beacon ≠ .threw) : (s.flushOnPageHide beacon true true).Tracked := by
  unfold SyncService.flushOnPageHide
  have hsplit := coe_take_add_drop s.queue s.maxBatchSize
  split_ifs with hidle
  · exact h
  · dsimp only
    split_ifs with hempty
    · exact h.leave hrunning hsplit (by simpa using hempty)
    · cases beacon with
      | threw => exact absurd rfl hbeacon
      | refused => exact h.putBack hrunning hsplit
      | accepted => exact h.beacon hrunning hsplit

/-! ### Answers -/

section Answer

variable {k : Nat} {commit : PendingCommit} (h : s.Tracked) (hk : s.commits[k]? = some commit)

include h hk

/-- The server acknowledges a batch. -/
theorem Tracked.acknowledged :
    { s with
      commits := s.commits.eraseIdx k, outstanding := s.outstanding - commit.batch }.Tracked where
  copy := h.copy
  conserved := by
    have hconserved := h.conserved
    unfold inFlight at hconserved
    show s.outstanding - commit.batch
      = (s.stored : Multiset SyncChange) + batches (s.commits.eraseIdx k) s.beacons
    rw [hconserved, batches_eraseIdx hk, ← add_assoc, add_tsub_cancel_right]

/-- A batch goes back to the queue, in another form perhaps. -/
theorem Tracked.requeued (hrunning : s.running = true) (batch : List SyncChange) :
    ({ s with
      commits := s.commits.eraseIdx k
      outstanding := s.outstanding - commit.batch + batch }.requeue batch true).Tracked := by
  refine Tracked.saved ?_
  have hqueue := h.outstanding_eq hrunning
  unfold inFlight at hqueue
  show s.outstanding - commit.batch + batch
    = ((batch ++ s.queue : List SyncChange) : Multiset SyncChange) +
      batches (s.commits.eraseIdx k) s.beacons
  rw [hqueue, batches_eraseIdx hk, ← add_assoc, add_tsub_cancel_right, ← Multiset.coe_add,
    add_comm, add_assoc]

/-- A batch goes back to the queue as it was. -/
theorem Tracked.returned (hrunning : s.running = true) :
    ({ s with commits := s.commits.eraseIdx k }.requeue commit.batch true).Tracked := by
  have hsame : s.outstanding - commit.batch + commit.batch = s.outstanding := by
    refine tsub_add_cancel_of_le ?_
    have hconserved := h.conserved
    unfold inFlight at hconserved
    rw [hconserved, batches_eraseIdx hk, ← add_assoc]
    exact Multiset.le_add_left _ _
  have := h.requeued hk hrunning commit.batch
  rwa [hsame] at this

end Answer

theorem Tracked.answered {k : Nat} {response : SyncBatchResponse} (h : s.Tracked)
    (hrunning : s.running = true) (hstep : s.answered k response true = some s') :
    s'.Tracked := by
  unfold SyncService.answered at hstep
  cases hk : s.commits[k]? with
  | none =>
      rw [hk] at hstep
      cases hstep
  | some commit =>
      rw [hk] at hstep
      dsimp only at hstep
      -- a second answer is the one to the repaired batch, which is not repaired again
      cases hrepaired : commit.repaired with
      | some repaired =>
          rw [hrepaired] at hstep
          dsimp only at hstep
          split_ifs at hstep
          · obtain rfl := Option.some.inj hstep
            exact h.acknowledged hk
          · obtain rfl := Option.some.inj hstep
            exact h.requeued hk hrunning repaired
      | none =>
          rw [hrepaired] at hstep
          dsimp only at hstep
          cases hrepair : repairMissingEntityUpdates commit.batch response.errors with
          | some repaired =>
              rw [hrepair] at hstep
              obtain rfl := Option.some.inj hstep
              refine ⟨h.copy, ?_⟩
              show s.outstanding = (s.stored : Multiset SyncChange) +
                batches (s.commits.set k { commit with repaired := some repaired }) s.beacons
              rw [batches_set hk (by rfl)]
              exact h.conserved
          | none =>
              rw [hrepair] at hstep
              dsimp only at hstep
              split_ifs at hstep
              · obtain rfl := Option.some.inj hstep
                exact h.acknowledged hk
              · obtain rfl := Option.some.inj hstep
                exact h.returned hk hrunning

theorem Tracked.failed {k : Nat} (h : s.Tracked) (hrunning : s.running = true)
    (hstep : s.failed k true = some s') : s'.Tracked := by
  unfold SyncService.failed at hstep
  cases hk : s.commits[k]? with
  | none =>
      rw [hk] at hstep
      cases hstep
  | some commit =>
      rw [hk] at hstep
      obtain rfl := Option.some.inj hstep
      exact h.returned hk hrunning

theorem Tracked.beaconAnswered {k : Nat} {response : SyncBatchResponse} (h : s.Tracked)
    (hstep : s.beaconAnswered k response = some s') : s'.Tracked := by
  unfold SyncService.beaconAnswered at hstep
  cases hk : s.beacons[k]? with
  | none =>
      rw [hk] at hstep
      cases hstep
  | some batch =>
      rw [hk] at hstep
      dsimp only at hstep
      split_ifs at hstep
      · obtain rfl := Option.some.inj hstep
        refine ⟨h.copy, ?_⟩
        have hconserved := h.conserved
        unfold inFlight at hconserved
        show s.outstanding - batch
          = (s.stored : Multiset SyncChange) + batches s.commits (s.beacons.eraseIdx k)
        rw [hconserved, batches_eraseIdx_beacon hk, ← add_assoc, add_tsub_cancel_right]
      · obtain rfl := Option.some.inj hstep
        exact h

/-- Nothing is on its way when the tab is killed. -/
theorem Tracked.kill (h : s.Tracked) (hsettled : s.inFlight = 0) : s.kill.Tracked where
  copy hrunning := by cases hrunning
  conserved := by
    obtain ⟨-, hbeacons⟩ := add_eq_zero.1 hsettled
    show s.outstanding = (s.stored : Multiset SyncChange) + batches [] s.beacons
    rw [h.conserved, hsettled]
    unfold batches
    rw [hbeacons]
    rfl

theorem Tracked.restore (h : s.Tracked) : s.restore.Tracked := ⟨fun _ => rfl, h.conserved⟩

/-- **A careful step keeps the invariant.** -/
theorem Tracked.step {label : ServiceLabel} (h : s.Tracked) (hcareful : s.Careful label)
    (hstep : s.step label = some s') : s'.Tracked := by
  cases label with
  -- every other step runs only while the tab is open
  | beaconAnswered k response => exact h.beaconAnswered hstep
  | restore =>
      obtain ⟨-, hsome⟩ := Option.ite_none_left_eq_some.1 hstep
      obtain rfl := Option.some.inj hsome
      exact h.restore
  | setEnabled enabled =>
      obtain ⟨-, hsome⟩ := Option.ite_none_left_eq_some.1 hstep
      obtain rfl := Option.some.inj hsome
      exact ⟨h.copy, h.conserved⟩
  | queueChange entityId changeType data now saved =>
      obtain ⟨hrunning, hsome⟩ := Option.ite_none_left_eq_some.1 hstep
      obtain rfl := Option.some.inj hsome
      obtain rfl : saved = true := hcareful
      exact h.queueChange (by simpa using hrunning) _
  | flush saved =>
      obtain ⟨hrunning, hsome⟩ := Option.ite_none_left_eq_some.1 hstep
      obtain rfl := Option.some.inj hsome
      obtain rfl : saved = true := hcareful
      exact h.flush (by simpa using hrunning)
  | flushBeforeRun saved =>
      obtain ⟨hrunning, hsome⟩ := Option.ite_none_left_eq_some.1 hstep
      obtain rfl := Option.some.inj hsome
      obtain rfl : saved = true := hcareful
      exact h.flushBeforeRun (by simpa using hrunning)
  | answered k response saved =>
      obtain ⟨hrunning, hsome⟩ := Option.ite_none_left_eq_some.1 hstep
      obtain rfl : saved = true := hcareful
      exact h.answered (by simpa using hrunning) hsome
  | failed k saved =>
      obtain ⟨hrunning, hsome⟩ := Option.ite_none_left_eq_some.1 hstep
      obtain rfl : saved = true := hcareful
      exact h.failed (by simpa using hrunning) hsome
  | flushOnPageHide beacon saved savedAgain =>
      obtain ⟨hrunning, hsome⟩ := Option.ite_none_left_eq_some.1 hstep
      obtain rfl := Option.some.inj hsome
      obtain ⟨rfl, rfl, hbeacon⟩ := hcareful
      exact h.flushOnPageHide (by simpa using hrunning) hbeacon
  | kill =>
      obtain ⟨-, hsome⟩ := Option.ite_none_left_eq_some.1 hstep
      obtain rfl := Option.some.inj hsome
      exact h.kill hcareful

/-- What is outstanding is in the copy exactly when nothing is on its way. -/
theorem Tracked.durable_iff (h : s.Tracked) : s.Durable ↔ s.inFlight = 0 := by
  have hrestored : s.kill.restore.queue = s.stored := rfl
  unfold Durable
  rw [hrestored, and_self, h.conserved]
  constructor
  · intro hle
    have hzero : (s.stored : Multiset SyncChange) + s.inFlight ≤ s.stored + 0 := by simpa using hle
    exact Multiset.le_zero.1 (Multiset.add_le_add_iff_left.1 hzero)
  · intro hzero
    rw [hzero, add_zero]

end SyncService

/-- **The copy of the sync queue is complete exactly when nothing is on its way**: in every state
    that careful steps reach from an empty browser. -/
theorem sync_queue_durable_iff {labels : List ServiceLabel} {s : SyncService}
    (h : Trace.Guarded (fun s l s' => SyncService.step s l = some s') SyncService.Careful {} labels
      s) : s.Durable ↔ s.inFlight = 0 := by
  have start : SyncService.Tracked {} := ⟨fun _ => rfl, rfl⟩
  exact (h.invariant SyncService.Tracked (fun hg hs hi => hi.step hg hs) start).durable_iff

/-- A queued update of a workflow. -/
def sampleQueued (saved : Bool) : ServiceLabel :=
  .queueChange "workflow" .update
    (.workflow (some { (default : Workflow) with id := "workflow", version := 2 })) 10 saved

/-- A flush whose request fails: the batch is back in the copy before the tab is killed, and the
    page that is loaded next has it. -/
theorem sync_queue_durable_requeued :
    ∃ s, Trace.Guarded (fun s l s' => SyncService.step s l = some s') SyncService.Careful {}
        [sampleQueued true, .flush true, .failed 0 true, .kill, .restore] s ∧
      s.queue.length = 1 ∧ s.Durable := by
  have hruns : (Trace.run (Trace.restrict SyncService.step SyncService.Careful) {}
      [sampleQueued true, .flush true, .failed 0 true, .kill, .restore]).map (fun s =>
        (s.queue.length, decide (s.inFlight = 0))) = some (1, true) := by decide +kernel
  obtain ⟨s, hs, hend⟩ := Option.map_eq_some_iff.1 hruns
  obtain ⟨hlength, hsettled⟩ := Prod.mk.inj hend
  have hrun := Trace.Guarded.of_run hs
  exact ⟨s, hrun, hlength, (sync_queue_durable_iff hrun).2 (of_decide_eq_true hsettled)⟩

/-- A flush whose request is on its way when the tab is killed: the change is nowhere. -/
theorem sync_queue_forgets_flight :
    ∃ s, Trace.Steps (fun s l s' => SyncService.step s l = some s') {}
        [sampleQueued true, .flush true] s ∧
      Multiset.card s.outstanding = 1 ∧ s.stored = [] ∧ s.kill.restore.queue = [] ∧
      ¬ s.Durable := by
  have hruns : (Trace.run SyncService.step {} [sampleQueued true, .flush true]).map (fun s =>
      (Multiset.card s.outstanding, s.storage.isNone)) = some (1, true) := by decide +kernel
  obtain ⟨s, hs, hend⟩ := Option.map_eq_some_iff.1 hruns
  obtain ⟨hcard, hstorage⟩ := Prod.mk.inj hend
  have hstored : s.stored = [] := by
    unfold SyncService.stored
    rw [Option.isNone_iff_eq_none.1 hstorage]
    rfl
  refine ⟨s, Trace.Steps.of_run hs, hcard, hstored, hstored, ?_⟩
  intro hdurable
  have hle := Multiset.card_le_card hdurable.1
  rw [hcard, hstored] at hle
  exact absurd hle (by decide)

end TokyoTester
