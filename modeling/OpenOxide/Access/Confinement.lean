import OpenOxide.Access.Groups

/-!
# Groups stay inside their organization

A membership is confined when it has no group, a global one or one of its own
organization.  `assign_group` checks this itself.  `create_invite` does not: it
stores any group that exists, and `accept_invite` copies it into the membership.
`add_member` takes the group with the identifier 1 for every organization.

So confinement is an invariant of the sequences in which these two calls name a
valid group, and pending invitations have to be part of the invariant.
-/

namespace OpenOxide.Access

open Relational Concurrency

variable {directory next : Directory}

namespace Directory

theorem validGroup_iff {organizationId groupId : Int} :
    directory.validGroup organizationId groupId = true ↔
      ∃ group ∈ directory.groups, group.id = groupId ∧
        (group.organizationId = none ∨
          group.organizationId = some organizationId) := by
  simp [validGroup, List.any_eq_true]

/-- Every membership and every pending invitation names a group that is valid in
its organization. -/
structure Confined (directory : Directory) : Prop where
  members : ∀ member ∈ directory.members, ∀ groupId,
    member.groupId = some groupId →
      directory.validGroup member.organizationId groupId = true
  invites : ∀ invite ∈ directory.invites, invite.status = .pending →
    directory.validGroup invite.organizationId invite.groupId = true

/-- Valid groups stay valid. -/
def KeepsGroups (directory next : Directory) : Prop :=
  ∀ organizationId groupId,
    directory.validGroup organizationId groupId = true →
      next.validGroup organizationId groupId = true

theorem keepsGroups_of_subset
    (kept : ∀ group ∈ directory.groups, ∃ other ∈ next.groups,
      other.id = group.id ∧ other.organizationId = group.organizationId) :
    directory.KeepsGroups next := by
  intro organizationId groupId valid
  obtain ⟨group, present, same, place⟩ := validGroup_iff.mp valid
  obtain ⟨other, stays, id, organization⟩ := kept group present
  refine validGroup_iff.mpr ⟨other, stays, id.trans same, ?_⟩
  rwa [organization]

theorem keepsGroups_of_eq
    (same : next.groups = directory.groups) : directory.KeepsGroups next := by
  apply keepsGroups_of_subset
  intro group present
  exact ⟨group, same ▸ present, by simp, by simp⟩

theorem Confined.step (confined : directory.Confined)
    (groups : directory.KeepsGroups next)
    (members : ∀ member ∈ next.members, ∀ groupId,
      member.groupId = some groupId →
        directory.validGroup member.organizationId groupId = true)
    (invites : ∀ invite ∈ next.invites, invite.status = .pending →
      invite ∈ directory.invites ∨
        directory.validGroup invite.organizationId invite.groupId = true) :
    next.Confined := by
  constructor
  · intro member present groupId named
    exact groups _ _ (members member present groupId named)
  · intro invite present pending
    apply groups
    rcases invites invite present pending with old | valid
    · exact confined.invites invite old pending
    · exact valid

theorem pending_updateWhere {hits : OrganizationInvite → Bool}
    {status : InviteStatus} (closed : status ≠ .pending) :
    ∀ invite ∈ updateWhere hits (fun invite => { invite with status })
      directory.invites, invite.status = .pending →
        invite ∈ directory.invites ∨ directory.validGroup
          invite.organizationId invite.groupId = true := by
  intro invite present pending
  obtain ⟨old, member, ⟨_, rfl⟩ | ⟨_, rfl⟩⟩ :=
    cases_of_mem_updateWhere present
  · exact absurd pending closed
  · exact .inl member

theorem Confined.join (confined : directory.Confined) {new : Member}
    (valid : ∀ groupId, new.groupId = some groupId →
      directory.validGroup new.organizationId groupId = true) :
    ∀ member ∈ directory.members ++ [new], ∀ groupId,
      member.groupId = some groupId →
        directory.validGroup member.organizationId groupId = true :=
  forall_mem_insert confined.members valid

end Directory

/-- The condition on a call: an invitation and a new membership get a group that
is global or belongs to their organization. -/
def namesValidGroup (directory : Directory) (request : GroupRequest) : Bool :=
  match request.call with
  | .createInvite _ organizationId _ _ groupId _ =>
    directory.validGroup organizationId groupId
  | .addMember _ organizationId _ _ _ =>
    directory.validGroup organizationId 1
  | _ => true

/-- Deleting a group keeps the other groups, and nothing names the deleted
one any more. -/
theorem confined_deleteGroup {world : GroupWorld}
    {now actorId organizationId groupId : Int}
    (confined : directory.Confined)
    (effect : Effect world directory now
      (.deleteGroup actorId organizationId groupId) next) :
    next.Confined := by
  have others : ∀ place other, other ≠ groupId →
      directory.validGroup place other = true →
        next.validGroup place other = true := by
    cases effect
    intro place other different valid
    obtain ⟨group, present, same, inside⟩ := Directory.validGroup_iff.mp valid
    refine Directory.validGroup_iff.mpr ⟨group, ?_, same, inside⟩
    apply List.mem_filter.mpr
    refine ⟨present, ?_⟩
    simp [Directory.isOwnGroup, same, different]
  cases effect
  constructor
  · intro member present named assigned
    obtain ⟨old, kept, ⟨_, rfl⟩ | ⟨missed, rfl⟩⟩ :=
      cases_of_mem_updateWhere present
    · cases assigned
    · have different : named ≠ groupId := by
        rintro rfl
        rw [assigned, beq_self_eq_true] at missed
        cases missed
      exact others _ _ different (confined.members member kept named assigned)
  · intro invite present pending
    obtain ⟨kept, different⟩ := List.mem_filter.mp present
    exact others _ _ (bne_iff_ne.mp different)
      (confined.invites invite kept pending)

/-- One call that names a valid group keeps confinement. -/
theorem confined_effect {world : GroupWorld} {request : GroupRequest}
    (confined : directory.Confined)
    (named : namesValidGroup directory request = true)
    (effect : Effect world directory request.now request.call next) :
    next.Confined := by
  obtain ⟨now, call⟩ := request
  have same := confined.members
  have old : ∀ invite ∈ directory.invites, invite.status = .pending →
      invite ∈ directory.invites ∨
        directory.validGroup invite.organizationId invite.groupId = true := by
    intro invite present pending
    exact .inl present
  cases effect with
  | createGroup delegated resolved =>
    refine confined.step ?_ same old
    apply Directory.keepsGroups_of_subset
    intro group present
    exact ⟨group, List.mem_append_left _ present, rfl, rfl⟩
  | updateGroup =>
    refine confined.step ?_ same old
    apply Directory.keepsGroups_of_subset
    intro group present
    refine ⟨_, mem_updateWhere.mpr ⟨group, present, rfl⟩, ?_, ?_⟩
    · split <;> rfl
    · split <;> rfl
  | @deleteGroup actorId =>
    exact confined_deleteGroup confined
      (@Effect.deleteGroup world _ now actorId _ _)
  | assignGroup delegated valid =>
    refine confined.step (Directory.keepsGroups_of_eq rfl) ?_ old
    intro member present groupId assigned
    obtain ⟨old, kept, ⟨hit, rfl⟩ | ⟨_, rfl⟩⟩ :=
      cases_of_mem_updateWhere present
    · cases assigned
      simp only [Directory.isMember, Bool.and_eq_true, beq_iff_eq] at hit
      exact hit.2 ▸ valid
    · exact confined.members member kept groupId assigned
  | replaceUserPolicies resolved delegated =>
    exact confined.step (Directory.keepsGroups_of_eq rfl) same old
  | createInvite =>
    refine confined.step (Directory.keepsGroups_of_eq rfl) same ?_
    exact forall_mem_insert old fun _ => .inr named
  | cancelInvite | listInvites =>
    exact confined.step (Directory.keepsGroups_of_eq rfl) same
      (Directory.pending_updateWhere (by decide))
  | @acceptInvite userId token invite found outside existing =>
    refine confined.step (Directory.keepsGroups_of_eq rfl) (confined.join ?_)
      (Directory.pending_updateWhere (by decide))
    intro groupId assigned
    cases assigned
    have pending := List.find?_some found
    simp only [Bool.and_eq_true, beq_iff_eq] at pending
    exact confined.invites invite (List.mem_of_find?_eq_some found) pending.1.2
  | addMember privileged existing =>
    refine confined.step (Directory.keepsGroups_of_eq rfl) (confined.join ?_)
      old
    intro groupId assigned
    cases assigned
    exact named
  | updateMemberRole privileged =>
    refine confined.step (Directory.keepsGroups_of_eq rfl) ?_ old
    intro member present groupId assigned
    obtain ⟨old, kept, ⟨_, rfl⟩ | ⟨_, rfl⟩⟩ :=
      cases_of_mem_updateWhere present
    · exact confined.members old kept groupId assigned
    · exact confined.members member kept groupId assigned
  | removeMember privileged =>
    refine confined.step (Directory.keepsGroups_of_eq rfl) ?_ old
    intro member present groupId assigned
    exact confined.members member (List.mem_filter.mp present).1 groupId
      assigned

/-- After every sequence of calls that name valid groups, every member has no
group, a global group, or a group of the member's own organization. -/
theorem members_stay_confined (world : GroupWorld) {directory : Directory}
    {requests : List GroupRequest} (confined : directory.Confined)
    (named : AllMeet (serveGroups world)
      (fun directory request => namesValidGroup directory request = true)
      directory requests) :
    ∀ member ∈ (serveAll (serveGroups world) directory requests).members,
      member.groupId = none ∨
        ∃ group ∈ (serveAll (serveGroups world) directory requests).groups,
          member.groupId = some group.id ∧
            (group.organizationId = none ∨
              group.organizationId = some member.organizationId) := by
  have after : (serveAll (serveGroups world) directory requests).Confined := by
    apply named.invariant Directory.Confined confined
    intro directory request confined valid
    apply serveGroups_keeps confined
    intro next effect
    exact confined_effect confined valid effect
  intro member present
  cases assigned : member.groupId with
  | none => exact .inl rfl
  | some groupId =>
    obtain ⟨group, stored, same, inside⟩ := Directory.validGroup_iff.mp
      (after.members member present groupId assigned)
    exact .inr ⟨group, stored, by rw [same], inside⟩

/-- Two organizations, each with an administrator and a group of its own, and a
user who is in neither. -/
def twoTenants : Directory where
  users := [⟨1, some "ann@example.org", some "Ann", none, "", "hash",
      some .member, 1⟩,
    ⟨2, some "ben@example.org", some "Ben", none, "", "hash", some .member, 1⟩,
    ⟨3, some "cay@example.org", some "Cay", none, "", "hash", some .member, 1⟩]
  nextUser := 4
  organizations := [⟨1, "Ann's Organization", none, "ann-organization", 1⟩,
    ⟨2, "Ben's Organization", none, "ben-organization", 2⟩]
  nextOrganization := 3
  members := [⟨1, .admin, 1, 1, none⟩, ⟨2, .admin, 2, 2, none⟩]
  nextMember := 3
  groups := [⟨1, "owner", false, none⟩, ⟨2, "Ann's crew", false, some 1⟩,
    ⟨3, "Ben's crew", false, some 2⟩]
  nextGroup := 4
  policies := [⟨1, "project:read"⟩, ⟨2, "app:deploy"⟩]
  groupPolicies := [⟨2, 1⟩, ⟨3, 2⟩]
  userPolicies := []
  invites := []
  nextInvite := 1

/-- The administrator of the first organization invites the third user into a
group, and the user accepts. -/
def inviteInto (groupId : Int) : List GroupRequest :=
  [⟨0, .createInvite 1 1 "cay@example.org" "member" groupId (some "token")⟩,
    ⟨10, .acceptInvite 3 "token"⟩]

theorem confined_twoTenants : twoTenants.Confined :=
  ⟨by decide, by decide⟩

theorem members_stay_confined_invite :
    twoTenants.Confined ∧
      AllMeet (serveGroups openWorld)
        (fun directory request => namesValidGroup directory request = true)
        twoTenants (inviteInto 2) ∧
      ∀ member ∈ (serveAll (serveGroups openWorld) twoTenants
          (inviteInto 2)).members,
        member.groupId = none ∨
          ∃ group ∈ (serveAll (serveGroups openWorld) twoTenants
              (inviteInto 2)).groups,
            member.groupId = some group.id ∧
              (group.organizationId = none ∨
                group.organizationId = some member.organizationId) := by
  have named : AllMeet (serveGroups openWorld)
      (fun directory request => namesValidGroup directory request = true)
      twoTenants (inviteInto 2) := by
    decide +kernel
  exact ⟨confined_twoTenants, named,
    members_stay_confined openWorld confined_twoTenants named⟩

/-- Invited into a group of the second organization, the user is a member of the
first one with that group. -/
theorem invite_leaves_organization :
    (∀ member ∈ twoTenants.members, member.groupId = none) ∧
      twoTenants.invites = [] ∧
      ⟨3, .member, 3, 1, some 3⟩ ∈
        (serveAll (serveGroups openWorld) twoTenants (inviteInto 3)).members ∧
      ∀ group ∈ (serveAll (serveGroups openWorld) twoTenants
          (inviteInto 3)).groups,
        group.id = 3 → group.organizationId = some 2 := by
  decide +kernel

end OpenOxide.Access
