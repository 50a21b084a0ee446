import OpenOxide.Access.Escalation

/-!
# What is left of a removed member

`remove_member` deletes the row of `organization_members` and nothing else.  The
rows of `user_policy` that belong to the user in the organization stay, hidden
while there is no membership, and `effective_actions` reads them again when the
user is added a second time.  The group then decides alone exactly when these
rows neither deny an action of the group nor grant one that it lacks.
-/

namespace OpenOxide.Access

open Relational Concurrency

variable {userId organizationId groupId : Int}

namespace Directory

/-- The user has no membership of the organization. -/
def Outside (directory : Directory) (userId organizationId : Int) : Prop :=
  ∀ member ∈ directory.members, isMember userId organizationId member = false

/-- The overrides stored for the user change nothing about the actions of the
group. -/
structure Inert (directory : Directory) (userId organizationId groupId : Int) :
    Prop where
  denials : ∀ action ∈ directory.overrides userId organizationId .deny,
    action ∉ directory.groupActions groupId
  grants : ∀ action ∈ directory.overrides userId organizationId .grant,
    action ∈ directory.groupActions groupId ∨
      action ∈ directory.overrides userId organizationId .deny

/-- One membership is added, and no table that decides about actions changes
otherwise. -/
structure Joins (directory next : Directory) (member : Member) :
    Prop where
  members : next.members = directory.members ++ [member]
  policies : next.policies = directory.policies
  groupPolicies : next.groupPolicies = directory.groupPolicies
  userPolicies : next.userPolicies = directory.userPolicies

namespace Joins

variable {directory next : Directory} {member : Member}
  (joins : directory.Joins next member)

include joins

theorem groupActions_eq :
    next.groupActions groupId = directory.groupActions groupId := by
  simp only [groupActions, policyActions, joins.groupPolicies, joins.policies]

variable (outside : directory.Outside userId organizationId)
  (own : isMember userId organizationId member = true)
  (assigned : member.groupId = some groupId)

include outside own assigned

theorem mem_memberActions_iff {action : String} :
    action ∈ next.memberActions userId organizationId ↔
      action ∈ directory.groupActions groupId := by
  rw [mem_memberActions, joins.members]
  constructor
  · rintro ⟨other, present, mine, group, named, listed⟩
    rcases List.mem_append.mp present with old | new
    · rw [outside other old] at mine
      cases mine
    · rw [List.mem_singleton.mp new, assigned] at named
      cases named
      exact joins.groupActions_eq ▸ listed
  · intro listed
    exact ⟨member, by simp, own, groupId, assigned,
      joins.groupActions_eq.symm ▸ listed⟩

theorem effectiveActions_iff :
    (∀ action, action ∈ next.effectiveActions userId organizationId ↔
      action ∈ next.groupActions groupId) ↔
        directory.Inert userId organizationId groupId := by
  simp only [mem_effectiveActions, overrides, policyActions,
    joins.userPolicies, joins.policies, joins.groupActions_eq,
    joins.mem_memberActions_iff outside own assigned]
  constructor
  · intro exactly
    refine ⟨?_, ?_⟩
    · intro action denied allowed
      exact ((exactly action).mpr allowed).2 denied
    · intro action granted
      by_cases denied : action ∈ directory.overrides userId organizationId .deny
      · exact .inr denied
      · exact .inl ((exactly action).mp ⟨.inr granted, denied⟩)
  · intro inert action
    constructor
    · rintro ⟨allowed | granted, denied⟩
      · exact allowed
      · exact (inert.grants action granted).resolve_right denied
    · intro allowed
      exact ⟨.inl allowed, fun denied => inert.denials action denied allowed⟩

end Joins

end Directory

/-- A row of `organization_members` is as old as its user and organization say,
or it is the row of `accept_invite` or `add_member`. -/
theorem Effect.joins {world : GroupWorld} {directory next : Directory}
    {now : Int} {call : GroupCall}
    (effect : Effect world directory now call next)
    {member : Member} (present : member ∈ next.members)
    (outside : directory.Outside member.userId member.organizationId) :
    directory.Joins next member := by
  have kept : ∀ old ∈ directory.members,
      old.userId = member.userId →
        old.organizationId = member.organizationId →
          directory.Joins next member := by
    intro old stored user place
    have apart := outside old stored
    simp [Directory.isMember, user, place] at apart
  have rewritten : ∀ (among : Member → Bool)
      (change : Member → Member),
      member ∈ updateWhere among change directory.members →
        (∀ old, (change old).userId = old.userId) →
          (∀ old, (change old).organizationId = old.organizationId) →
            directory.Joins next member := by
    intro among change listed user place
    obtain ⟨old, stored, made⟩ := List.mem_map.mp listed
    split at made
    · exact kept old stored (made ▸ (user old).symm) (made ▸ (place old).symm)
    · exact kept old stored (by rw [made]) (by rw [made])
  cases effect with
  | createGroup | updateGroup | replaceUserPolicies | createInvite
    | cancelInvite | listInvites =>
      exact kept member present rfl rfl
  | removeMember =>
    exact kept member (List.mem_filter.mp present).1 rfl rfl
  | deleteGroup | assignGroup | updateMemberRole =>
    exact rewritten _ _ present (fun _ => rfl) (fun _ => rfl)
  | acceptInvite | addMember =>
    rcases List.mem_append.mp present with old | new
    · exact kept member old rfl rfl
    · cases List.mem_singleton.mp new
      exact ⟨rfl, rfl, rfl, rfl⟩

/-- The state after a call that removes a member and the calls since. -/
def sinceRemoval (world : GroupWorld) (directory : Directory)
    (now actorId organizationId userId : Int) (later : List GroupRequest) :
    Directory :=
  serveAll (serveGroups world) directory
    (⟨now, .removeMember actorId organizationId userId⟩ :: later)

/-- A call that adds the removed user again, with a group, gives the user the
actions of that group and no others exactly when the overrides from before are
inert. -/
theorem rejoined_actions_iff (world : GroupWorld) (directory : Directory)
    (now actorId organizationId userId : Int) (later : List GroupRequest)
    (outside : (sinceRemoval world directory now actorId organizationId userId
      later).Outside userId organizationId)
    {request : GroupRequest} {next : Directory}
    (added : request.perform world (sinceRemoval world directory now actorId
      organizationId userId later) = .ok next)
    {member : Member} (present : member ∈ next.members)
    (own : Directory.isMember userId organizationId member = true)
    {groupId : Int} (assigned : member.groupId = some groupId) :
    (∀ action, action ∈ next.effectiveActions userId organizationId ↔
      action ∈ next.groupActions groupId) ↔
        (sinceRemoval world directory now actorId organizationId userId
          later).Inert userId organizationId groupId := by
  have place : member.userId = userId ∧
      member.organizationId = organizationId := by
    simpa [Directory.isMember] using own
  have joins := (Effect.of_perform added).joins present
    (by rw [place.1, place.2]; exact outside)
  exact joins.effectiveActions_iff outside own assigned

/-- Cay is removed and then invited into the group that may only read. -/
def invitedBack : Directory :=
  sinceRemoval openWorld oneTenant 0 1 1 3
    [⟨0, .createInvite 1 1 "cay@example.org" "MEMBER" 2 (some "token")⟩]

theorem rejoined_actions_iff_invitedBack :
    let next := serveGroups openWorld invitedBack ⟨0, .acceptInvite 3 "token"⟩
    ∀ action, action ∈ next.effectiveActions 3 1 ↔
      action ∈ next.groupActions 2 := by
  intro next
  have present : (⟨4, .member, 3, 1, some 2⟩ : Member) ∈ next.members := by
    decide +kernel
  have added : GroupRequest.perform openWorld invitedBack
      ⟨0, .acceptInvite 3 "token"⟩ = .ok next := by
    decide +kernel
  refine (rejoined_actions_iff openWorld oneTenant 0 1 1 3 _ ?_ added present
    rfl rfl).mpr ?_
  · unfold Directory.Outside
    decide +kernel
  · exact ⟨by decide +kernel, by decide +kernel⟩

/-- Cay, to whom the deletion of projects was granted, is removed and added
again, and may still delete them, which the group does not allow. -/
theorem override_survives_removal :
    let granted := serveGroups openWorld oneTenant
      ⟨0, .replaceUserPolicies 1 1 3 [⟨2, "grant"⟩]⟩
    let removed := sinceRemoval openWorld granted 0 1 1 3 []
    let next := serveGroups openWorld removed
      ⟨0, .addMember 1 1 "cay@example.org" none "MEMBER"⟩
    removed.role 3 1 = none ∧ next.role 3 1 = some .member ∧
      next.groupActions 1 = [] ∧
      next.effectiveActions 3 1 = ["project:delete"] := by
  decide +kernel

end OpenOxide.Access
