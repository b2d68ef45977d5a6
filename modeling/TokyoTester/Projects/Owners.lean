import TokyoTester.Library.Text
import TokyoTester.Projects.Members

set_option autoImplicit false

/-! # Every team has an owner

A request that is alone leaves every team its owner when it spells its user as the table does: the
check of `isFinalOwner` is made on the rows that the write finds. When requests interleave, or a user
is spelled differently, the check may be out of date or miss its target, and a run leaves every team
an owner exactly when no write takes away the last one that it finds. -/

namespace TokyoTester

open Table

namespace ProjectTables

variable {key : String → String} {t t' : ProjectTables} {p u v project : String}
  {role : ProjectRole}

/-- Every team has an owner. -/
def OwnedTeams (key : String → String) (t : ProjectTables) : Prop :=
  ∀ project ∈ t.projects, project.kind = .team →
    ∃ m ∈ t.projectMembers, key m.projectId = key project.id ∧ m.role = .owner

instance (key : String → String) (t : ProjectTables) : Decidable (t.OwnedTeams key) :=
  inferInstanceAs (Decidable (∀ project ∈ t.projects, project.kind = .team →
    ∃ m ∈ t.projectMembers, key m.projectId = key project.id ∧ m.role = .owner))

/-- The keys of the tables. -/
structure Sound (key : String → String) (t : ProjectTables) : Prop where
  projects : Keyed (fun project : Project => key project.id) t.projects
  members : Keyed (memberKey key) t.projectMembers
  users : Keyed (fun user : User => key user.id) t.users
  ofProject : ∀ m ∈ t.projectMembers, ∃ project ∈ t.projects, key project.id = key m.projectId
  ofUser : ∀ m ∈ t.projectMembers, ∃ user ∈ t.users, key user.id = key m.userId

/-! ## The owners of a project -/

/-- The users who own a project, as the database compares them. -/
def ownersOf (key : String → String) (p : String) (t : ProjectTables) : List String :=
  (t.projectMembers.filter fun m => key m.projectId = key p && m.role = .owner).map
    fun m => key m.userId

theorem mem_ownersOf : v ∈ t.ownersOf key p ↔
    ∃ m ∈ t.projectMembers, memberKey key m = (key p, v) ∧ m.role = .owner := by
  unfold ownersOf memberKey
  simp only [List.mem_map, List.mem_filter, Bool.and_eq_true, decide_eq_true_eq, Prod.mk.injEq]
  constructor
  · rintro ⟨m, ⟨hm, hp, hrole⟩, hv⟩
    exact ⟨m, hm, ⟨hp, hv⟩, hrole⟩
  · rintro ⟨m, hm, ⟨hp, hv⟩, hrole⟩
    exact ⟨m, ⟨hm, hp, hrole⟩, hv⟩

theorem ownedTeams_iff :
    t.OwnedTeams key ↔
      ∀ project ∈ t.projects, project.kind = .team → ∃ v, v ∈ t.ownersOf key project.id := by
  unfold OwnedTeams
  refine forall₃_congr fun project _ _ => ?_
  constructor
  · rintro ⟨m, hm, hproject, hrole⟩
    exact ⟨key m.userId, mem_ownersOf.2 ⟨m, hm, Prod.ext hproject rfl, hrole⟩⟩
  · rintro ⟨v, hv⟩
    obtain ⟨m, hm, hkey, hrole⟩ := mem_ownersOf.1 hv
    exact ⟨m, hm, congrArg Prod.fst hkey, hrole⟩

/-- The users of a project are different ones. -/
theorem Sound.users_nodup (h : t.Sound key) (p : String) :
    ((t.projectMembers.filter fun m => key m.projectId = key p).map
      fun m => key m.userId).Nodup := by
  refine List.Nodup.map_on ?_ (h.members.of_map.filter _)
  intro m hm m' hm' huser
  obtain ⟨hm, hp⟩ := List.mem_filter.1 hm
  obtain ⟨hm', hp'⟩ := List.mem_filter.1 hm'
  refine List.inj_on_of_nodup_map h.members hm hm' ?_
  rw [memberKey, memberKey, of_decide_eq_true hp, of_decide_eq_true hp', huser]

/-! ## The check on the rows that are read -/

/-- The members of a project with their identifiers as the database compares them. -/
def comparedMembers (key : String → String) (p : String) (t : ProjectTables) :
    List ProjectMemberUser :=
  (t.listMembers key p).map fun r => { r with id := key r.id }

/-- The join has a row for each member, with its user and its role. -/
theorem Sound.comparedMembers_eq (h : t.Sound key) (p : String) :
    (t.comparedMembers key p).map (fun r => (r.id, r.projectRole))
      = (t.projectMembers.filter fun m => key m.projectId = key p).map
        fun m => (key m.userId, m.role) := by
  unfold comparedMembers listMembers
  have hmem : ∀ m ∈ t.projectMembers.filter fun m => key m.projectId = key p,
      m ∈ t.projectMembers :=
    fun m hm => List.mem_of_mem_filter hm
  generalize t.projectMembers.filter (fun m => key m.projectId = key p) = members at hmem
  induction members with
  | nil => rfl
  | cons m members ih =>
      obtain ⟨hm, hmembers⟩ := List.forall_mem_cons.1 hmem
      have hfound : (t.users.find? fun u => key u.id = key m.userId).isSome = true := by
        obtain ⟨user, huser, hid⟩ := h.ofUser m hm
        exact List.find?_isSome.2 ⟨user, huser, decide_eq_true hid⟩
      obtain ⟨user, huser⟩ := Option.isSome_iff_exists.1 hfound
      have hid : key user.id = key m.userId := by simpa using List.find?_some huser
      rw [List.filterMap_cons, huser, Option.map_some]
      dsimp only
      rw [List.map_cons, List.map_cons, List.map_cons, ih hmembers, hid]

theorem Sound.mem_comparedMembers (h : t.Sound key) :
    (∃ r ∈ t.comparedMembers key p, r.id = v ∧ r.projectRole = role) ↔
      ∃ m ∈ t.projectMembers, memberKey key m = (key p, v) ∧ m.role = role := by
  have hpair : (v, role) ∈ (t.comparedMembers key p).map (fun r => (r.id, r.projectRole)) ↔
      ∃ m ∈ t.projectMembers, key m.projectId = key p ∧ (key m.userId, m.role) = (v, role) := by
    rw [h.comparedMembers_eq p]
    simp [List.mem_filter, and_assoc]
  rw [List.mem_map] at hpair
  simp only [Prod.mk.injEq] at hpair
  rw [hpair]
  simp only [memberKey, Prod.mk.injEq, and_assoc]

/-- A list of different elements has no other one. -/
theorem length_le_one_iff {l : List String} (h : l.Nodup) (hu : u ∈ l) :
    l.length ≤ 1 ↔ ∀ v ∈ l, v = u := by
  constructor
  · intro hle v hv
    obtain ⟨w, rfl⟩ := List.length_eq_one_iff.1 (Nat.le_antisymm hle (List.length_pos_of_mem hu))
    rw [List.mem_singleton.1 hv, List.mem_singleton.1 hu]
  · intro hall
    have hsub : l ⊆ [u] := fun v hv => List.mem_singleton.2 (hall v hv)
    exact (h.subperm hsub).length_le

/-- **The check**, as the database compares, finds the only owner. -/
theorem Sound.isFinalOwner_iff (h : t.Sound key) :
    isFinalOwner (t.comparedMembers key p) u = true ↔
      u ∈ t.ownersOf key p ∧ ∀ v ∈ t.ownersOf key p, v = u := by
  have hkeyed : Keyed ProjectMemberUser.id (t.comparedMembers key p) := by
    have hids := congrArg (List.map Prod.fst) (h.comparedMembers_eq p)
    simp only [List.map_map] at hids
    unfold Keyed
    exact hids ▸ h.users_nodup p
  have howners : ∀ v, v ∈ ((t.comparedMembers key p).filter fun m => m.projectRole = .owner).map
      ProjectMemberUser.id ↔ v ∈ t.ownersOf key p := by
    intro v
    rw [mem_ownersOf, ← h.mem_comparedMembers]
    simp [List.mem_filter, and_assoc, and_comm]
  have htarget : ((t.comparedMembers key p).find? fun m => m.id = u).any
      (fun r => r.projectRole = .owner) = true ↔ u ∈ t.ownersOf key p := by
    rw [mem_ownersOf, ← h.mem_comparedMembers, Option.any_eq_true]
    constructor
    · rintro ⟨r, hr, hrole⟩
      obtain ⟨hmem, hid⟩ := find_some hr
      exact ⟨r, hmem, hid, of_decide_eq_true hrole⟩
    · rintro ⟨r, hmem, rfl, hrole⟩
      exact ⟨r, hkeyed.find_mem hmem, decide_eq_true hrole⟩
  unfold isFinalOwner
  rw [Bool.and_eq_true, htarget, decide_eq_true_eq]
  refine and_congr_right fun hu => ?_
  have hnodup : (((t.comparedMembers key p).filter fun m => m.projectRole = .owner).map
      ProjectMemberUser.id).Nodup :=
    hkeyed.sublist (List.filter_sublist.map ProjectMemberUser.id)
  rw [← List.length_map ProjectMemberUser.id,
    length_le_one_iff hnodup ((howners u).2 hu)]
  exact forall_congr' fun v => imp_congr_left (howners v)

/-! ## What a statement does to the owners -/

theorem mem_insertMember {rows : List ProjectMember} {m r : ProjectMember} (h : r ∈ rows) :
    r ∈ insertMember key rows m := by
  unfold insertMember
  split_ifs
  · exact h
  · exact List.mem_append_left _ h

theorem mem_insertMembers {members rows : List ProjectMember} {r : ProjectMember} (h : r ∈ rows) :
    r ∈ members.foldl (insertMember key) rows := by
  induction members generalizing rows with
  | nil => exact h
  | cons m members ih => exact ih (mem_insertMember h)

theorem ownersOf_deleteMember :
    v ∈ (t.effect key (.deleteMember p u)).ownersOf key project ↔
      v ∈ t.ownersOf key project ∧ ¬ (key project = key p ∧ v = key u) := by
  simp only [mem_ownersOf, effect, List.mem_filter, decide_eq_true_eq, ne_eq]
  constructor
  · rintro ⟨m, ⟨hm, hother⟩, hkey, hrole⟩
    refine ⟨⟨m, hm, hkey, hrole⟩, fun hsame => hother ?_⟩
    rw [hkey, hsame.1, hsame.2]
  · rintro ⟨⟨m, hm, hkey, hrole⟩, hother⟩
    refine ⟨m, ⟨hm, fun hsame => hother ?_⟩, hkey, hrole⟩
    exact Prod.mk.inj (hkey.symm.trans hsame)

theorem ownersOf_updateRole (hrole : role ≠ .owner) :
    v ∈ (t.effect key (.updateRole p u role)).ownersOf key project ↔
      v ∈ t.ownersOf key project ∧ ¬ (key project = key p ∧ v = key u) := by
  simp only [mem_ownersOf, effect, updateWhere, List.mem_map]
  constructor
  · rintro ⟨_, ⟨m, hm, rfl⟩, hkey, howner⟩
    split_ifs at hkey howner with hsame
    · exact absurd howner hrole
    · refine ⟨⟨m, hm, hkey, howner⟩, fun hout => hsame ?_⟩
      simp [hkey, hout.1, hout.2]
  · rintro ⟨⟨m, hm, hkey, howner⟩, hother⟩
    refine ⟨m, ⟨m, hm, ?_⟩, hkey, howner⟩
    rw [if_neg]
    rw [decide_eq_true_eq, hkey, Prod.mk.injEq]
    exact hother

theorem ownersOf_promote (h : v ∈ t.ownersOf key project) :
    v ∈ (t.effect key (.updateRole p u .owner)).ownersOf key project := by
  simp only [mem_ownersOf, effect, updateWhere, List.mem_map] at h ⊢
  obtain ⟨m, hm, hkey, hrole⟩ := h
  refine ⟨_, ⟨m, hm, rfl⟩, ?_, ?_⟩
  · split_ifs
    · exact hkey
    · exact hkey
  · split_ifs
    · rfl
    · exact hrole

/-- The write leaves the project an owner: its target is not the only one that the database finds. -/
def leavesOwner (key : String → String) (t : ProjectTables) (projectId userId : String) : Bool :=
  !((t.projects.any fun project => key project.id = key projectId && project.kind = .team) &&
    isFinalOwner (t.comparedMembers key projectId) (key userId))

/-- A statement leaves every team an owner. -/
def leavesOwners (key : String → String) (t : ProjectTables) : ProjectOp → Bool
  | .deleteMember projectId userId => t.leavesOwner key projectId userId
  | .updateRole projectId userId projectRole =>
    projectRole = .owner || t.leavesOwner key projectId userId
  | _ => true

theorem comparedMembers_congr (h : key p = key project) :
    t.comparedMembers key p = t.comparedMembers key project := by
  unfold comparedMembers listMembers
  rw [h]

/-- A statement that takes a user out of the owners of a project. -/
theorem ownedTeams_without (hs : t.Sound key) (ho : t.OwnedTeams key)
    (hprojects : t'.projects = t.projects)
    (howners : ∀ {project v}, v ∈ t'.ownersOf key project ↔
      v ∈ t.ownersOf key project ∧ ¬ (key project = key p ∧ v = key u)) :
    t'.OwnedTeams key ↔ t.leavesOwner key p u = true := by
  unfold leavesOwner
  rw [Bool.not_eq_true', Bool.and_eq_false_iff, ownedTeams_iff, hprojects]
  rw [ownedTeams_iff] at ho
  constructor
  · intro howned
    rw [or_iff_not_imp_left, Bool.not_eq_false, List.any_eq_true]
    rintro ⟨project, hp, hteam⟩
    simp only [Bool.and_eq_true, decide_eq_true_eq] at hteam
    obtain ⟨hid, hteam⟩ := hteam
    obtain ⟨v, hv⟩ := howned project hp hteam
    obtain ⟨hv, hother⟩ := howners.1 hv
    rw [← Bool.not_eq_true, comparedMembers_congr hid.symm, hs.isFinalOwner_iff]
    rintro ⟨-, hall⟩
    exact hother ⟨hid, hall v hv⟩
  · intro hleft project hp hteam
    obtain ⟨v, hv⟩ := ho project hp hteam
    by_cases hout : key project.id = key p ∧ v = key u
    · -- the user is an owner, so the check has found another one
      obtain ⟨hid, rfl⟩ := hout
      have hfinal : isFinalOwner (t.comparedMembers key p) (key u) = false := by
        refine hleft.resolve_left ?_
        rw [Bool.not_eq_false, List.any_eq_true]
        exact ⟨project, hp, by simp [hteam, hid]⟩
      rw [← Bool.not_eq_true, comparedMembers_congr hid.symm, hs.isFinalOwner_iff, not_and,
        not_forall] at hfinal
      obtain ⟨w, hw⟩ := hfinal hv
      rw [Classical.not_imp] at hw
      exact ⟨w, howners.2 ⟨hw.1, fun h => hw.2 h.2⟩⟩
    · exact ⟨v, howners.2 ⟨hv, hout⟩⟩

/-- **What a statement keeps.** -/
theorem effect_owned (hs : t.Sound key) (ho : t.OwnedTeams key) (op : ProjectOp) :
    (t.effect key op).OwnedTeams key ↔ t.leavesOwners key op = true := by
  cases op with
  | selectProject projectId => exact iff_of_true ho rfl
  | selectMembers projectId => exact iff_of_true ho rfl
  | createTeam projectId adminUserId =>
      refine iff_of_true ?_ rfl
      intro project hp hteam
      rcases List.mem_append.1 hp with hp | hp
      · obtain ⟨m, hm, hproject, hrole⟩ := ho project hp hteam
        exact ⟨m, List.mem_append_left _ hm, hproject, hrole⟩
      · rw [List.mem_singleton.1 hp]
        exact ⟨_, List.mem_append_right _ (List.mem_singleton_self _), rfl, rfl⟩
  | insertMembers members =>
      refine iff_of_true ?_ rfl
      intro project hp hteam
      obtain ⟨m, hm, hproject, hrole⟩ := ho project hp hteam
      exact ⟨m, mem_insertMembers hm, hproject, hrole⟩
  | deleteMember projectId userId =>
      exact ownedTeams_without hs ho rfl fun {_ _} => ownersOf_deleteMember
  | updateRole projectId userId projectRole =>
      by_cases hrole : projectRole = .owner
      · subst hrole
        refine iff_of_true ?_ rfl
        rw [ownedTeams_iff] at ho ⊢
        intro project hp hteam
        obtain ⟨v, hv⟩ := ho project hp hteam
        exact ⟨v, ownersOf_promote hv⟩
      · have hout : (t.effect key (.updateRole projectId userId projectRole)).OwnedTeams key ↔
            t.leavesOwner key projectId userId = true :=
          ownedTeams_without hs ho rfl fun {_ _} => ownersOf_updateRole hrole
        rw [hout, leavesOwners]
        simp [hrole]

/-! ## What a statement does to the keys -/

theorem keyed_insertMember {rows : List ProjectMember} {m : ProjectMember}
    (h : Keyed (memberKey key) rows) : Keyed (memberKey key) (insertMember key rows m) := by
  unfold insertMember
  split_ifs with hany
  · exact h
  · unfold Keyed
    rw [List.map_append, List.map_singleton]
    refine List.nodup_append.2 ⟨h, List.nodup_singleton _, ?_⟩
    rintro k hk k' hk' rfl
    obtain ⟨r, hr, hkey⟩ := List.mem_map.1 hk
    rw [List.mem_singleton] at hk'
    exact hany (List.any_eq_true.2 ⟨r, hr, decide_eq_true (hkey.trans hk')⟩)

theorem mem_of_mem_insertMember {rows : List ProjectMember} {m r : ProjectMember}
    (h : r ∈ insertMember key rows m) : r ∈ rows ∨ r = m := by
  unfold insertMember at h
  split_ifs at h
  · exact .inl h
  · simpa using h

theorem Sound.insertMembers (h : t.Sound key) {members : List ProjectMember}
    (hallows : ∀ m ∈ members, (∃ project ∈ t.projects, key project.id = key m.projectId) ∧
      ∃ user ∈ t.users, key user.id = key m.userId) :
    (t.effect key (.insertMembers members)).Sound key := by
  induction members generalizing t with
  | nil => exact h
  | cons m members ih =>
      obtain ⟨⟨hproject, huser⟩, hmembers⟩ := List.forall_mem_cons.1 hallows
      have hone : Sound key { t with projectMembers := insertMember key t.projectMembers m } := by
        refine ⟨h.projects, keyed_insertMember h.members, h.users, ?_, ?_⟩
        · intro r hr
          rcases mem_of_mem_insertMember hr with hr | rfl
          · exact h.ofProject r hr
          · exact hproject
        · intro r hr
          rcases mem_of_mem_insertMember hr with hr | rfl
          · exact h.ofUser r hr
          · exact huser
      exact ih hone hmembers

theorem Sound.createTeam (h : t.Sound key) {projectId adminUserId : String}
    (hfresh : ∀ project ∈ t.projects, key project.id ≠ key projectId)
    (huser : ∃ user ∈ t.users, key user.id = key adminUserId) :
    (t.effect key (.createTeam projectId adminUserId)).Sound key := by
  have hmember : ∀ m ∈ t.projectMembers, key m.projectId ≠ key projectId := by
    intro m hm hproject
    obtain ⟨project, hp, hid⟩ := h.ofProject m hm
    exact hfresh project hp (hid.trans hproject)
  refine ⟨?_, ?_, h.users, ?_, ?_⟩
  · unfold Keyed effect
    rw [List.map_append, List.map_singleton]
    refine List.nodup_append.2 ⟨h.projects, List.nodup_singleton _, ?_⟩
    rintro k hk k' hk' rfl
    obtain ⟨project, hp, rfl⟩ := List.mem_map.1 hk
    exact hfresh project hp (List.mem_singleton.1 hk')
  · unfold Keyed effect
    rw [List.map_append, List.map_singleton]
    refine List.nodup_append.2 ⟨h.members, List.nodup_singleton _, ?_⟩
    rintro k hk k' hk' rfl
    obtain ⟨m, hm, rfl⟩ := List.mem_map.1 hk
    exact hmember m hm (congrArg Prod.fst (List.mem_singleton.1 hk'))
  · intro m hm
    rcases List.mem_append.1 hm with hm | hm
    · obtain ⟨project, hp, hid⟩ := h.ofProject m hm
      exact ⟨project, List.mem_append_left _ hp, hid⟩
    · rw [List.mem_singleton.1 hm]
      exact ⟨_, List.mem_append_right _ (List.mem_singleton_self _), rfl⟩
  · intro m hm
    rcases List.mem_append.1 hm with hm | hm
    · exact h.ofUser m hm
    · rw [List.mem_singleton.1 hm]
      exact huser

/-- A statement that the database does keeps the keys. -/
theorem Sound.effect (h : t.Sound key) {op : ProjectOp} (hallows : t.allows key op = true) :
    (t.effect key op).Sound key := by
  cases op with
  | selectProject projectId => exact h
  | selectMembers projectId => exact h
  | createTeam projectId adminUserId =>
      simp only [allows, Bool.and_eq_true, Bool.not_eq_true', List.any_eq_false, List.any_eq_true,
        decide_eq_true_eq] at hallows
      exact h.createTeam hallows.1 hallows.2
  | insertMembers members =>
      simp only [allows, List.all_eq_true, Bool.and_eq_true, List.any_eq_true,
        decide_eq_true_eq] at hallows
      exact h.insertMembers hallows
  | deleteMember projectId userId =>
      refine ⟨h.projects, h.members.sublist (List.filter_sublist.map (memberKey key)), h.users,
        ?_, ?_⟩
      · exact fun m hm => h.ofProject m (List.mem_of_mem_filter hm)
      · exact fun m hm => h.ofUser m (List.mem_of_mem_filter hm)
  | updateRole projectId userId projectRole =>
      refine ⟨h.projects, ?_, h.users, ?_, ?_⟩
      · exact h.members.updateWhere fun _ _ _ => rfl
      · intro m hm
        obtain ⟨r, hr, rfl⟩ := List.mem_map.1 hm
        split_ifs
        · exact h.ofProject r hr
        · exact h.ofProject r hr
      · intro m hm
        obtain ⟨r, hr, rfl⟩ := List.mem_map.1 hm
        split_ifs
        · exact h.ofUser r hr
        · exact h.ofUser r hr

end ProjectTables

/-! ## Runs -/

open ProjectTables

/-- The write that is answered passes the check on the rows as they are, and as the database
    compares them. -/
def ChecksInTime (key : String → String) (s : ProjectRequests) (label : ProjectLabel) : Prop :=
  Parallel.guard (fun op answer t => answer.takesEffect = true → t.leavesOwners key op = true) s
    label

instance (key : String → String) (s : ProjectRequests) (label : ProjectLabel) :
    Decidable (ChecksInTime key s label) :=
  inferInstanceAs (Decidable (Parallel.guard _ s label))

section Run

variable {dbType : DbType} {s s' : ProjectRequests} {label : ProjectLabel}

/-- A step is a new request, or answers a statement. -/
theorem projectStep_cases (h : projectStep dbType s label = some s') :
    (Parallel.answered s label = none ∧ s'.shared = s.shared) ∨
    ∃ op answer, Parallel.answered s label = some (op, answer) ∧
      Answers dbType.key op answer s.shared ∧
      s'.shared = (handle dbType.key op answer s.shared).2 := by
  unfold projectStep Trace.restrict at h
  split_ifs at h with hguard
  cases label with
  | start task =>
      obtain rfl := Option.some.inj h
      exact .inl ⟨rfl, rfl⟩
  | call i answer =>
      obtain ⟨task, p, p', shared, hi, hadvance, rfl⟩ := Parallel.call_eq h
      cases p with
      | done a => cases hadvance
      | call op next =>
          obtain ⟨-, rfl⟩ := Prod.mk.inj (Option.some.inj hadvance)
          have hanswered : Parallel.answered s (.call i answer : ProjectLabel)
              = some (op, answer) := by
            simp only [Parallel.answered, hi, Option.bind_some, Program.next?, Option.map_some]
          exact .inr ⟨op, answer, hanswered, hguard (op, answer) hanswered, rfl⟩
  | environment event => exact event.elim

theorem projectStep_sound (h : projectStep dbType s label = some s')
    (hs : s.shared.Sound dbType.key) : s'.shared.Sound dbType.key := by
  rcases projectStep_cases h with ⟨-, hsame⟩ | ⟨op, answer, -, hallows, hshared⟩
  · exact hsame ▸ hs
  · rw [hshared, handle]
    split_ifs with heffect
    · exact hs.effect (hallows heffect)
    · exact hs

theorem projectStep_owned (h : projectStep dbType s label = some s')
    (hs : s.shared.Sound dbType.key) (ho : s.shared.OwnedTeams dbType.key) :
    s'.shared.OwnedTeams dbType.key ↔ ChecksInTime dbType.key s label := by
  unfold ChecksInTime Parallel.guard
  rcases projectStep_cases h with ⟨hnone, hsame⟩ | ⟨op, answer, hsome, -, hshared⟩
  · rw [hsame, hnone]
    exact iff_of_true ho (by simp)
  · rw [hshared, hsome, handle]
    cases heffect : answer.takesEffect with
    | true => simpa [heffect] using effect_owned hs ho op
    | false => simpa [heffect] using ho

/-- **Every team has an owner in every state of a run** if and only if no write of the run takes away
    the last owner that it finds: it passes the check of the final owner on the rows as they are,
    with identifiers as the database compares them. -/
theorem teams_keep_owners (dbType : DbType) (t : ProjectTables) (hs : t.Sound dbType.key)
    (ho : t.OwnedTeams dbType.key) (labels : List ProjectLabel)
    (h : Trace.run (projectStep dbType) { shared := t } labels = some s') :
    (∀ n s₁, Trace.run (projectStep dbType) { shared := t } (labels.take n) = some s₁ →
        s₁.shared.OwnedTeams dbType.key) ↔
      Trace.Guarded (fun s label s' => projectStep dbType s label = some s')
        (ChecksInTime dbType.key) { shared := t } labels s' :=
  Trace.Steps.invariant_iff (fun s : ProjectRequests => s.shared.Sound dbType.key)
    (fun s : ProjectRequests => s.shared.OwnedTeams dbType.key) projectStep_sound
    projectStep_owned (Trace.Steps.of_run h) hs ho

end Run

/-! ## A request alone -/

/-- The setting of a request while no other one runs. -/
def alone (key : String → String) :
    Setting ProjectOp ProjectOp.Reply ProjectTables SqlAnswer where
  handle := handle key
  rely t t' := t' = t
  guard := Answers key
  guar t t' := t.Sound key → t.OwnedTeams key → t'.Sound key ∧ t'.OwnedTeams key
  rely_refl _ := rfl
  rely_trans h h' := h'.trans h

/-- The user to be removed is spelled as in the table, if the table has it. -/
def ProjectTask.Spelled (key : String → String) (t : ProjectTables) : ProjectTask → Prop
  | .removeUserFromProject _ userId => ∀ user ∈ t.users, key user.id = key userId → user.id = userId
  | _ => True

section Alone

variable {key : String → String} {t : ProjectTables}

/-- The check finds a user whom it spells as the table does. -/
theorem isFinalOwner_eq {p userId : String}
    (h : ∀ r ∈ t.listMembers key p, key r.id = key userId → r.id = userId) :
    isFinalOwner (t.comparedMembers key p) (key userId)
      = isFinalOwner (t.listMembers key p) userId := by
  have hfind : ((t.comparedMembers key p).find? fun r => r.id = key userId)
      = ((t.listMembers key p).find? fun r => r.id = userId).map
        fun r => { r with id := key r.id } := by
    unfold comparedMembers
    rw [List.find?_map]
    congr 1
    refine List.find?_congr fun r hr => ?_
    exact decide_eq_decide.2 ⟨h r hr, congrArg key⟩
  unfold isFinalOwner
  rw [hfind, Option.any_map]
  unfold comparedMembers
  rw [List.filter_map, List.length_map]
  rfl

theorem mem_listMembers_user {p : String} {r : ProjectMemberUser} (h : r ∈ t.listMembers key p) :
    ∃ user ∈ t.users, user.id = r.id := by
  obtain ⟨m, -, hm⟩ := List.mem_filterMap.1 h
  obtain ⟨user, huser, rfl⟩ := Option.map_eq_some_iff.1 hm
  exact ⟨user, List.mem_of_find?_eq_some huser, rfl⟩

/-- A statement that leaves every team an owner. -/
theorem safe_statement {op : ProjectOp} (post : op.Reply → ProjectTables → Prop)
    (howners : t.Sound key → t.OwnedTeams key → t.leavesOwners key op = true)
    (hpost : ∀ answer, Answers key op answer t →
      post (reply key answer t op) (handle key op answer t).2) :
    (alone key).Safe post (Program.perform op) t := by
  refine Setting.Safe.perform ?_
  rintro t' rfl answer hallows
  refine ⟨fun hs ho => ?_, ?_⟩
  · unfold alone handle
    dsimp only
    split_ifs with heffect
    · exact ⟨hs.effect (hallows heffect), (effect_owned hs ho op).2 (howners hs ho)⟩
    · exact ⟨hs, ho⟩
  · rintro t'' rfl
    exact hpost answer hallows

/-- The last statement of a request. -/
theorem safe_finish {op : ProjectOp} {f : op.Reply → Except SqlError Unit}
    (howners : t.Sound key → t.OwnedTeams key → t.leavesOwners key op = true) :
    (alone key).Safe (fun _ _ => True) (Program.perform op >>= fun r => finish (f r)) t :=
  Setting.Safe.bind (safe_statement (fun _ _ => True) howners fun _ _ => trivial)
    fun _ _ _ => Setting.Safe.pure fun _ _ => trivial

theorem safe_getTeam {p personal : String} {next : ProjectProgram (Except ProjectError Unit)}
    (hnext : (alone key).Safe (fun _ _ => True) next t) :
    (alone key).Safe (fun _ _ => True) (getTeam p personal next) t := by
  unfold getTeam
  refine Setting.Safe.bind (safe_statement (fun _ t' => t' = t) (fun _ _ => rfl) ?_) ?_
  · intro answer _
    unfold handle
    split_ifs <;> rfl
  · rintro r t' rfl
    split
    · exact Setting.Safe.pure fun _ _ => trivial
    · exact Setting.Safe.pure fun _ _ => trivial
    · split_ifs
      · exact Setting.Safe.pure fun _ _ => trivial
      · exact hnext

/-- The members that are read are those that the next statement finds. -/
theorem safe_selectMembers {p : String}
    {next : Except SqlError (List ProjectMemberUser) → ProjectProgram (Except ProjectError Unit)}
    (herror : ∀ e, (alone key).Safe (fun _ _ => True) (next (.error e)) t)
    (hnext : (alone key).Safe (fun _ _ => True) (next (.ok (t.listMembers key p))) t) :
    (alone key).Safe (fun _ _ => True)
      (Program.perform (ProjectOp.selectMembers p) >>= next) t := by
  refine Setting.Safe.bind (@safe_statement key t (.selectMembers p) (fun r t' => t' = t ∧
    ((∃ e, r = .error e) ∨ r = .ok (t.listMembers key p))) (fun _ _ => rfl) ?_) ?_
  · intro answer _
    refine ⟨?_, ?_⟩
    · unfold handle
      split_ifs <;> rfl
    · cases answer with
      | done => exact .inr rfl
      | refused e => exact .inl ⟨e, rfl⟩
      | lost e => exact .inl ⟨e, rfl⟩
  · rintro r t' ⟨rfl, ⟨e, rfl⟩ | rfl⟩
    · exact herror e
    · exact hnext

theorem safe_insertEach (members : List ProjectMember) :
    (alone key).Safe (fun _ _ => True) (insertEach members) t := by
  induction members generalizing t with
  | nil => exact Setting.Safe.pure fun _ _ => trivial
  | cons m members ih =>
      refine Setting.Safe.bind (safe_statement (fun _ _ => True) (fun _ _ => rfl)
        fun _ _ => trivial) ?_
      intro r t' _
      split
      · exact Setting.Safe.pure fun _ _ => trivial
      · exact ih

/-- **A request alone** that spells its user as the table does keeps every team an owner, whatever
    the database answers. -/
theorem request_alone (dbType : DbType) (task : ProjectTask) (t : ProjectTables)
    (hspelled : task.Spelled dbType.key t) :
    (alone dbType.key).Safe (fun _ _ => True) (task.program dbType) t := by
  cases task with
  | createProject projectId adminUserId => exact safe_finish fun _ _ => rfl
  | addUsersToProject projectId userIds projectRole =>
      show (alone dbType.key).Safe _ (addUsersToProject dbType projectId userIds projectRole) t
      unfold addUsersToProject
      split_ifs
      · exact Setting.Safe.pure fun _ _ => trivial
      · refine safe_getTeam ?_
        cases dbType with
        | postgres => exact safe_finish fun _ _ => rfl
        | mysql collation => exact safe_insertEach _
  | removeUserFromProject projectId userId =>
      refine safe_getTeam (safe_selectMembers (fun _ => Setting.Safe.pure fun _ _ => trivial) ?_)
      dsimp only
      split_ifs with hfinal
      · exact Setting.Safe.pure fun _ _ => trivial
      · refine safe_finish fun _ _ => ?_
        have hspelling : ∀ r ∈ t.listMembers dbType.key projectId,
            dbType.key r.id = dbType.key userId → r.id = userId := by
          intro r hr hkey
          obtain ⟨user, huser, hid⟩ := mem_listMembers_user hr
          exact hid ▸ hspelled user huser (hid ▸ hkey)
        have hcheck := isFinalOwner_eq hspelling
        simp [leavesOwners, leavesOwner, hcheck, hfinal]
  | updateProjectMemberRole projectId userId projectRole =>
      refine safe_getTeam (safe_selectMembers (fun _ => Setting.Safe.pure fun _ _ => trivial) ?_)
      dsimp only
      split_ifs with hmember hfinal
      · exact Setting.Safe.pure fun _ _ => trivial
      · exact Setting.Safe.pure fun _ _ => trivial
      · refine safe_finish fun hs _ => ?_
        by_cases hrole : projectRole = .owner
        · simp [leavesOwners, hrole]
        · have hnot : isFinalOwner (t.listMembers dbType.key projectId) userId = false := by
            simpa [hrole] using hfinal
          -- the member was found as it is spelled, and is the only user of its key
          obtain ⟨found, hfound, hid⟩ : ∃ r ∈ t.listMembers dbType.key projectId,
              r.id = userId := by
            simpa using hmember
          obtain ⟨user, huser, hsame⟩ := mem_listMembers_user hfound
          have hspelling : ∀ r ∈ t.listMembers dbType.key projectId,
              dbType.key r.id = dbType.key userId → r.id = userId := by
            intro r hr hkey
            obtain ⟨user', huser', hsame'⟩ := mem_listMembers_user hr
            have hkeys : dbType.key user'.id = dbType.key user.id := by
              rw [hsame', hkey, ← hid, hsame]
            rw [← hsame', hs.users.eq_of_key huser' huser hkeys, hsame, hid]
          have hcheck := isFinalOwner_eq hspelling
          simp [leavesOwners, leavesOwner, hcheck, hnot]

end Alone

/-! ## Two owners at once -/

/-- A team with two owners. -/
def twoOwners : ProjectTables where
  projects := [{ id := "shop", kind := .team, createdBy := "ada" }]
  projectMembers := [⟨"shop", "ada", .owner⟩, ⟨"shop", "bob", .owner⟩]
  users :=
    [{ id := "ada", email := "ada@shop.test", name := none, role := "admin", isActive := true },
      { id := "bob", email := "bob@shop.test", name := none, role := "user", isActive := true }]

/-- MySQL with a collation that ignores the case. -/
def caseless : DbType := .mysql Text.toLower

theorem twoOwners_sound : twoOwners.Sound caseless.key :=
  ⟨by decide +kernel, by decide +kernel, by decide +kernel, by decide +kernel, by decide +kernel⟩

/-- Two requests, each of which removes one of them, and reads before the other writes. -/
def removeBoth : List ProjectLabel :=
  [.start (.removeUserFromProject "shop" "ada"), .start (.removeUserFromProject "shop" "bob"),
    .call 0 .done, .call 0 .done, .call 1 .done, .call 1 .done, .call 0 .done, .call 1 .done]

/-- Up to the first of the two writes, the team has an owner. -/
theorem teams_keep_owners_twoOwners :
    twoOwners.OwnedTeams caseless.key ∧
      ∀ n s₁, Trace.run (projectStep caseless) { shared := twoOwners } ((removeBoth.take 7).take n)
        = some s₁ → s₁.shared.OwnedTeams caseless.key := by
  have hsome : (Trace.run (Trace.restrict (projectStep caseless) (ChecksInTime caseless.key))
      { shared := twoOwners } (removeBoth.take 7)).isSome = true := by decide +kernel
  obtain ⟨s', hrun⟩ := Option.isSome_iff_exists.1 hsome
  have hguarded := Trace.Guarded.of_run hrun
  have howned : twoOwners.OwnedTeams caseless.key := by decide +kernel
  exact ⟨howned, (teams_keep_owners caseless twoOwners twoOwners_sound howned (removeBoth.take 7)
    hguarded.steps.run_eq).2 hguarded⟩

theorem removeBoth_leaves_no_owner :
    ¬ ∀ (dbType : DbType) (t : ProjectTables), t.Sound dbType.key → t.OwnedTeams dbType.key →
      ∀ labels s', Trace.run (projectStep dbType) { shared := t } labels = some s' →
        s'.shared.OwnedTeams dbType.key := by
  intro hall
  have hsome : ((Trace.run (projectStep caseless) { shared := twoOwners } removeBoth).any
      fun s => !decide (s.shared.OwnedTeams caseless.key)) = true := by decide +kernel
  obtain ⟨s', hrun, hnone⟩ := (Option.any_eq_true _ _).1 hsome
  have howned := hall caseless twoOwners twoOwners_sound (by decide +kernel) removeBoth s' hrun
  simp [howned] at hnone

/-- One request is enough when it spells the final owner differently: the check misses the row that
    the `DELETE` finds. -/
example : ((Trace.run (projectStep caseless)
    { shared := { twoOwners with projectMembers := [⟨"shop", "ada", .owner⟩] } }
    [.start (.removeUserFromProject "shop" "ADA"), .call 0 .done, .call 0 .done, .call 0 .done]).any
      fun s => !decide (s.shared.OwnedTeams caseless.key)) = true := by
  decide +kernel

end TokyoTester
