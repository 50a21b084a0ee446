import OpenOxide.Access.Escalation

/-!
# The administrators of an organization

A change of a role and a removal ask whether the actor may make them and then
write, and the writes of other calls may come in between.  Nothing counts the
administrators, so an organization is sure to keep one only while the actor of
every change is one of them when it is written.
-/

namespace OpenOxide.Access

open Relational Concurrency

/-- A call of `update_member_role`, or of `remove_member` if there is no role,
that has passed its checks.  Of these only the last does not read the tables. -/
structure MemberChange where
  actorId : Int
  organizationId : Int
  userId : Int
  role : Option MemberRole
  checked : userId ≠ actorId ∨ role = some .admin

namespace Directory

/-- What the call then writes. -/
def writeChange (directory : Directory) (change : MemberChange) : Directory :=
  match change.role with
  | some role =>
    (directory.updateRole change.userId change.organizationId role).2
  | none => (directory.removeMember change.userId change.organizationId).2

theorem updateMemberRole_writes {directory next : Directory}
    {actorId organizationId userId : Int} {text : String}
    (succeeded : PermissionGroupService.updateMemberRole directory actorId
      organizationId userId text = .ok next) :
    ∃ role checked, requestedRole text = .ok role ∧
      next = directory.writeChange
        ⟨actorId, organizationId, userId, some role, checked⟩ := by
  simp only [PermissionGroupService.updateMemberRole, bind_eq_ok,
    ensure_eq_ok, ensureHit_eq_ok] at succeeded
  obtain ⟨_, _, role, read, _, checked, _, rfl⟩ := succeeded
  exact ⟨role, by simpa using checked, read, rfl⟩

theorem removeMember_writes {directory next : Directory}
    {actorId organizationId userId : Int}
    (succeeded : PermissionGroupService.removeMember directory actorId
      organizationId userId = .ok next) :
    ∃ checked, next = directory.writeChange
      ⟨actorId, organizationId, userId, none, checked⟩ := by
  simp only [PermissionGroupService.removeMember, bind_eq_ok, ensure_eq_ok,
    ensureHit_eq_ok] at succeeded
  obtain ⟨_, _, _, other, _, rfl⟩ := succeeded
  exact ⟨.inl (by simpa using other), rfl⟩

def hasAdmin (directory : Directory) (organizationId : Int) : Bool :=
  directory.members.any fun member =>
    member.organizationId == organizationId && member.role == .admin

variable {directory : Directory} {organizationId : Int}

theorem hasAdmin_writeChange {change : MemberChange} {member : Member}
    (present : member ∈ directory.members) (admin : member.role = .admin)
    (spared : isMember change.userId change.organizationId member = true →
      change.role = some .admin) :
    (directory.writeChange change).hasAdmin member.organizationId = true := by
  apply List.any_eq_true.mpr
  unfold writeChange
  cases given : change.role with
  | none =>
    refine ⟨member, List.mem_filter.mpr ⟨present, ?_⟩, by simp [admin]⟩
    simpa [given] using spared
  | some role =>
    refine ⟨_, mem_updateWhere.mpr ⟨member, present, rfl⟩, ?_⟩
    split
    · rename_i hit
      simpa [given] using spared hit
    · simp [admin]

/-- As long as every actor is an administrator of the organization when the
change is written, the organization keeps one. -/
theorem organization_keeps_admin {changes : List MemberChange}
    (meets : AllMeet writeChange (fun directory change => directory.role
      change.actorId change.organizationId = some .admin) directory changes)
    (initial : directory.hasAdmin organizationId = true) :
    (serveAll writeChange directory changes).hasAdmin organizationId = true := by
  refine meets.invariant (hasAdmin · organizationId = true) initial ?_
  intro directory change admin own
  by_cases same : change.organizationId = organizationId
  · obtain ⟨member, found, role⟩ := Option.map_eq_some_iff.mp own
    have actor := List.find?_some found
    simp only [isMember, Bool.and_eq_true, beq_iff_eq] at actor
    rw [← same, ← actor.2]
    refine hasAdmin_writeChange (List.mem_of_find?_eq_some found) role ?_
    intro hit
    simp only [isMember, Bool.and_eq_true, beq_iff_eq] at hit
    exact change.checked.resolve_left (absurd (hit.1.symm.trans actor.1))
  · obtain ⟨member, present, both⟩ := List.any_eq_true.mp admin
    simp only [Bool.and_eq_true, beq_iff_eq] at both
    rw [← both.1]
    refine hasAdmin_writeChange present both.2 ?_
    intro hit
    simp only [isMember, Bool.and_eq_true, beq_iff_eq] at hit
    exact absurd (hit.2.symm.trans both.1) same

/-- Ann makes Bob an administrator and Bob removes Ann. -/
theorem organization_keeps_admin_two :
    (serveAll writeChange oneTenant [⟨1, 1, 2, some .admin, .inr rfl⟩,
      ⟨2, 1, 1, none, .inl (by decide)⟩]).hasAdmin 1 = true :=
  organization_keeps_admin ⟨rfl, rfl, trivial⟩ rfl

/-- The owner of the platform removes the only administrator. -/
theorem owner_removes_last_admin :
    let owned := { oneTenant with users := oneTenant.users ++
      [⟨4, none, none, none, "", "hash", some .owner, 1⟩] }
    owned.hasAdmin 1 = true ∧ (serveGroups openWorld owned
      ⟨0, .removeMember 4 1 1⟩).hasAdmin 1 = false := by
  decide +kernel

end Directory

end OpenOxide.Access
