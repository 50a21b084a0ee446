import OpenOxide.Access.Groups

/-!
# Delegation does not create permissions

A call of an unprivileged actor hands on only actions that are effective for the
actor.  By induction over a sequence of calls, what is effective for a member
after it was effective at the start for the member or for one of the actors,
provided that nothing hidden comes to light:

* `replace_user_policies` compares only the new entries with the actions of the
  actor, so a denial can be dropped by anyone who may manage the target;
* `accept_invite` takes invitations that were made before the sequence, with the
  role and the group that an administrator has given them;
* `update_group` changes a group in every organization that holds it.

`careful` excludes these three.
-/

namespace OpenOxide.Access

open Relational Concurrency

variable {action : String} {groupId userId organizationId : Int}
  {directory : Directory}

namespace Directory

theorem mem_groupActions : action ∈ directory.groupActions groupId ↔
      ∃ entry ∈ directory.groupPolicies, entry.groupId = groupId ∧
        action ∈ directory.policyActions entry.policyId := by
  simp [groupActions, and_assoc]

theorem mem_memberActions :
    action ∈ directory.memberActions userId organizationId ↔
      ∃ member ∈ directory.members,
        isMember userId organizationId member = true ∧
          ∃ groupId, member.groupId = some groupId ∧
            action ∈ directory.groupActions groupId := by
  simp only [memberActions, List.mem_flatMap, List.mem_filter, and_assoc]
  constructor
  · rintro ⟨member, present, own, listed⟩
    cases assigned : member.groupId with
    | none => simp [assigned] at listed
    | some groupId =>
      exact ⟨member, present, own, groupId, assigned,
        by simpa [assigned] using listed⟩
  · rintro ⟨member, present, own, groupId, assigned, listed⟩
    exact ⟨member, present, own, by simpa [assigned] using listed⟩

theorem mem_overrides {effect : PolicyEffect} :
    action ∈ directory.overrides userId organizationId effect ↔
      ∃ entry ∈ directory.userPolicies, entry.userId = userId ∧
        entry.orgId = organizationId ∧ entry.effect = effect ∧
          action ∈ directory.policyActions entry.policyId := by
  simp [overrides, and_assoc]

theorem mem_effectiveActions :
    action ∈ directory.effectiveActions userId organizationId ↔
      (action ∈ directory.memberActions userId organizationId ∨
        action ∈ directory.overrides userId organizationId .grant) ∧
        action ∉ directory.overrides userId organizationId .deny := by
  simp [effectiveActions, List.mem_eraseDups, or_and_right]

/-- What the user may do: everything with a privileged role, and otherwise the
effective actions. -/
def effectivelyAllowed (directory : Directory) (userId organizationId : Int)
    (action : String) : Bool :=
  directory.actorIsPrivileged userId organizationId ||
    (directory.effectiveActions userId organizationId).contains action

/-- The foreign keys and the uniqueness of identifiers, as far as they matter
here. -/
structure Linked (directory : Directory) : Prop where
  policies : directory.policies.Pairwise fun first second =>
    first.id ≠ second.id
  groups : ∀ group ∈ directory.groups, group.id < directory.nextGroup
  members : ∀ member ∈ directory.members, ∀ groupId,
    member.groupId = some groupId → groupId < directory.nextGroup
  groupPolicies : ∀ entry ∈ directory.groupPolicies,
    entry.groupId < directory.nextGroup
  invites : ∀ invite ∈ directory.invites,
    invite.id < directory.nextInvite ∧ invite.groupId < directory.nextGroup

theorem Linked.policyActions_eq (linked : directory.Linked) {policy : Policy}
    (present : policy ∈ directory.policies)
    (listed : action ∈ directory.policyActions policy.id) :
    action = policy.action := by
  simp only [policyActions, List.mem_map, List.mem_filter, beq_iff_eq]
    at listed
  obtain ⟨other, ⟨stored, same⟩, rfl⟩ := listed
  by_contra different
  have distinct : other ≠ policy := by
    intro equal
    exact different (congrArg Policy.action equal)
  have symmetric : Std.Symm fun first second : Policy =>
      first.id ≠ second.id := ⟨fun _ _ unequal => unequal.symm⟩
  exact linked.policies.forall stored present distinct same

theorem Linked.policyIdOf_ok (linked : directory.Linked)
    {requested action : String} {policyId : Int}
    (resolved : directory.policyIdOf requested = .ok policyId)
    (listed : action ∈ directory.policyActions policyId) :
    action = requested := by
  unfold policyIdOf at resolved
  split at resolved
  · rename_i policy found
    simp only [Except.ok.injEq] at resolved
    subst resolved
    have named := List.find?_some found
    rw [linked.policyActions_eq (List.mem_of_find?_eq_some found) listed]
    exact beq_iff_eq.mp named
  · cases resolved

/-- What an entry of a body is parsed into. -/
theorem parsedPolicy_ok {entry : UserPolicyEntry}
    {parsed : (Int × PolicyEffect) × String}
    (resolved : directory.parsedPolicy entry = .ok parsed) :
    PolicyEffect.ofText entry.effect = some parsed.1.2 ∧
      parsed.1.1 = entry.policyId ∧
        ∃ policy ∈ directory.policies, policy.id = entry.policyId ∧
          policy.action = parsed.2 := by
  unfold parsedPolicy at resolved
  split at resolved
  · cases resolved
  · rename_i effect known
    split at resolved
    · cases resolved
    · rename_i policy found
      simp only [Except.ok.injEq] at resolved
      subst resolved
      have named := List.find?_some found
      exact ⟨known, rfl, policy, List.mem_of_find?_eq_some found,
        beq_iff_eq.mp named, rfl⟩

/-- A membership keeps its role when the update leaves the key and the role
alone. -/
theorem role_updateWhere {next : Directory} {hits : Member → Bool}
    {change : Member → Member}
    (updated : next.members = updateWhere hits change directory.members)
    (kept : ∀ member, (change member).userId = member.userId ∧
      (change member).organizationId = member.organizationId ∧
      (change member).role = member.role) (userId organizationId : Int) :
    next.role userId organizationId =
      directory.role userId organizationId := by
  have row : ∀ member, Member.role
      (if hits member then change member else member) = member.role := by
    intro member
    split
    · exact (kept member).2.2
    · rfl
  have key : ∀ member, isMember userId organizationId
      (if hits member then change member else member) =
        isMember userId organizationId member := by
    intro member
    split
    · simp [isMember, (kept member).1, (kept member).2.1]
    · rfl
  unfold role
  rw [updated, updateWhere, List.find?_map, Option.map_map]
  simp only [Function.comp_def, row, key]

end Directory

namespace GroupCall

def actor : GroupCall → Int
  | .createGroup actorId .. => actorId
  | .updateGroup actorId .. => actorId
  | .deleteGroup actorId .. => actorId
  | .assignGroup actorId .. => actorId
  | .replaceUserPolicies actorId .. => actorId
  | .createInvite actorId .. => actorId
  | .cancelInvite actorId .. => actorId
  | .acceptInvite userId _ => userId
  | .listInvites actorId .. => actorId
  | .addMember actorId .. => actorId
  | .updateMemberRole actorId .. => actorId
  | .removeMember actorId .. => actorId

/-- The organization for which the actor calls; whoever accepts an invitation is
not in its organization yet. -/
def organization : GroupCall → Option Int
  | .createGroup _ organizationId .. => some organizationId
  | .updateGroup _ organizationId .. => some organizationId
  | .deleteGroup _ organizationId _ => some organizationId
  | .assignGroup _ organizationId .. => some organizationId
  | .replaceUserPolicies _ organizationId .. => some organizationId
  | .createInvite _ organizationId .. => some organizationId
  | .cancelInvite _ organizationId _ => some organizationId
  | .acceptInvite .. => none
  | .listInvites _ organizationId => some organizationId
  | .addMember _ organizationId .. => some organizationId
  | .updateMemberRole _ organizationId .. => some organizationId
  | .removeMember _ organizationId _ => some organizationId

/-- The actor is neither a platform owner nor an administrator of the
organization. -/
def Unprivileged (directory : Directory) (call : GroupCall) : Prop :=
  directory.isPlatformOwner call.actor = false ∧
    ∀ organizationId, call.organization = some organizationId →
      directory.role call.actor organizationId ≠ some .admin

end GroupCall

/-- The replacement leaves hidden what the group of the target carries and a
denial hides, unless it is effective for the actor. -/
def keepsHidden (directory : Directory) (actorId organizationId userId : Int)
    (policies : List UserPolicyEntry) : Bool :=
  (directory.memberActions userId organizationId).all fun action =>
    !(directory.overrides userId organizationId .deny).contains action ||
      (directory.effectiveActions actorId organizationId).contains action ||
      policies.any fun entry =>
        PolicyEffect.ofText entry.effect == some .deny &&
          (directory.policyActions entry.policyId).contains action

/-- No membership and no invitation of another organization names the group. -/
def heldOnlyIn (directory : Directory) (organizationId groupId : Int) : Bool :=
  (directory.members.all fun member => member.groupId != some groupId ||
      member.organizationId == organizationId) &&
    directory.invites.all fun invite => invite.groupId != groupId ||
      invite.organizationId == organizationId

/-- The condition on a call of a sequence whose invitations are numbered from
`firstInvite` on. -/
def careful (world : GroupWorld) (firstInvite : Int) (directory : Directory)
    (request : GroupRequest) : Bool :=
  match request.call with
  | .replaceUserPolicies actorId organizationId userId policies =>
    keepsHidden directory actorId organizationId userId policies
  | .acceptInvite _ token =>
    (directory.findPendingByToken request.now (world.hashToken token)).all
      fun invite => decide (firstInvite ≤ invite.id)
  | .updateGroup _ organizationId groupId _ _ =>
    heldOnlyIn directory organizationId groupId
  | _ => true

/-- Relative to a start, the privileges are the old ones, and what is effective
was effective before or is within reach: effective for one of the actors at the
start. -/
structure WithinReach (start : Directory) (Reach : Int → String → Prop)
    (directory : Directory) : Prop where
  users : directory.users = start.users
  linked : directory.Linked
  numbered : start.nextInvite ≤ directory.nextInvite
  admins : ∀ userId organizationId,
    directory.role userId organizationId = some .admin →
      start.role userId organizationId = some .admin
  visible : ∀ userId organizationId,
    ∀ action ∈ directory.effectiveActions userId organizationId,
      action ∈ start.effectiveActions userId organizationId ∨
        Reach organizationId action
  invited : ∀ invite ∈ directory.invites, start.nextInvite ≤ invite.id →
    invite.role = .member ∧
      ∀ action ∈ directory.groupActions invite.groupId,
        Reach invite.organizationId action

namespace WithinReach

variable {start next : Directory} {Reach : Int → String → Prop}

theorem initial (linked : start.Linked) : WithinReach start Reach start where
  users := rfl
  linked := linked
  numbered := Int.le_refl _
  admins _ _ admin := admin
  visible _ _ _ effective := .inl effective
  invited invite present numbered :=
    absurd (linked.invites invite present).1 (Int.not_lt.mpr numbered)

theorem memberActions_of_group {member : Member}
    (present : member ∈ directory.members)
    (assigned : member.groupId = some groupId)
    (listed : action ∈ directory.groupActions groupId) :
    action ∈ directory.memberActions member.userId member.organizationId :=
  Directory.mem_memberActions.mpr ⟨member, present,
    by simp [Directory.isMember], groupId, assigned, listed⟩

section

variable (within : WithinReach start Reach directory)

include within

theorem unprivileged {actorId : Int}
    (owner : start.isPlatformOwner actorId = false)
    (admin : start.role actorId organizationId ≠ some .admin) :
    directory.actorIsPrivileged actorId organizationId = false := by
  have same : directory.isPlatformOwner actorId = false := by
    unfold Directory.isPlatformOwner Directory.userById at owner ⊢
    rwa [within.users]
  have role : directory.role actorId organizationId ≠ some .admin := by
    intro now
    exact admin (within.admins actorId organizationId now)
  simp [Directory.actorIsPrivileged, same, role]

theorem delegated {actorId : Int}
    (actor : ∀ action ∈ start.effectiveActions actorId organizationId,
      Reach organizationId action) (unprivileged :
      directory.actorIsPrivileged actorId organizationId = false)
    (delegates : directory.Delegates actorId organizationId action) :
    Reach organizationId action := by
  rcases delegates with privileged | effective
  · rw [unprivileged] at privileged
    cases privileged
  · rcases within.visible actorId organizationId action effective with
      before | reach
    · exact actor action before
    · exact reach

/-- While the overrides stay, effective actions come from groups only. -/
theorem visible_of_members (policies : next.policies = directory.policies)
    (overrides : next.userPolicies = directory.userPolicies)
    (members : ∀ member ∈ next.members, ∀ groupId,
      member.groupId = some groupId → ∀ action ∈ next.groupActions groupId,
        action ∈ directory.memberActions member.userId member.organizationId ∨
          Reach member.organizationId action) :
    ∀ userId organizationId,
      ∀ action ∈ next.effectiveActions userId organizationId,
        action ∈ start.effectiveActions userId organizationId ∨
          Reach organizationId action := by
  intro userId organizationId action effective
  have same : ∀ effect, next.overrides userId organizationId effect =
      directory.overrides userId organizationId effect := by
    intro effect
    simp only [Directory.overrides, Directory.policyActions, policies,
      overrides]
  obtain ⟨source, allowed⟩ := Directory.mem_effectiveActions.mp effective
  rw [same] at source allowed
  rcases source with carried | granted
  · obtain ⟨member, present, own, groupId, assigned, listed⟩ :=
      Directory.mem_memberActions.mp carried
    simp only [Directory.isMember, Bool.and_eq_true, beq_iff_eq] at own
    obtain ⟨rfl, rfl⟩ := own
    rcases members member present groupId assigned action listed with
      old | reach
    · exact within.visible _ _ action
        (Directory.mem_effectiveActions.mpr ⟨.inl old, allowed⟩)
    · exact .inr reach
  · exact within.visible _ _ action
      (Directory.mem_effectiveActions.mpr ⟨.inr granted, allowed⟩)

theorem admins_updateWhere {hits : Member → Bool} {change : Member → Member}
    (updated : next.members = updateWhere hits change directory.members)
    (kept : ∀ member, (change member).userId = member.userId ∧
      (change member).organizationId = member.organizationId ∧
      (change member).role = member.role) (userId organizationId : Int)
    (admin : next.role userId organizationId = some .admin) :
    start.role userId organizationId = some .admin := by
  rw [Directory.role_updateWhere updated kept] at admin
  exact within.admins userId organizationId admin

/-- A change of the invitations that keeps every row but its status. -/
theorem of_statuses (hits : OrganizationInvite → Bool) (status : InviteStatus) :
    WithinReach start Reach { directory with
      invites := updateWhere hits (fun invite => { invite with status })
        directory.invites } := by
  have row : ∀ invite ∈ updateWhere hits
      (fun invite => { invite with status }) directory.invites,
      ∃ old ∈ directory.invites, invite.id = old.id ∧
        invite.role = old.role ∧ invite.groupId = old.groupId ∧
        invite.organizationId = old.organizationId := by
    intro invite present
    obtain ⟨old, kept, rfl⟩ := mem_updateWhere.mp present
    refine ⟨old, kept, ?_⟩
    split <;> simp
  refine ⟨within.users, { within.linked with invites := ?_ }, within.numbered,
    within.admins, within.visible, ?_⟩
  · intro invite present
    obtain ⟨old, kept, id, _, group, _⟩ := row invite present
    rw [id, group]
    exact within.linked.invites old kept
  · intro invite present numbered
    obtain ⟨old, kept, id, role, group, organization⟩ := row invite present
    rw [role, group, organization]
    exact within.invited old kept (id ▸ numbered)

variable {world : GroupWorld} {now actorId : Int} {name : String}
  {actions : List String}

/-- A new group is nobody's, so its policies show nowhere. -/
theorem createGroup (effect : Effect world directory now
      (.createGroup actorId organizationId name actions) next) :
    WithinReach start Reach next := by
  have linked := within.linked
  have counted : ∀ groupId, groupId < directory.nextGroup →
      groupId < directory.nextGroup + 1 := by
    intro groupId older
    omega
  have older : ∀ groupId, groupId < directory.nextGroup → ∀ action,
      action ∈ next.groupActions groupId →
        action ∈ directory.groupActions groupId := by
    cases effect
    intro groupId older action listed
    obtain ⟨entry, stored, own, carried⟩ :=
      Directory.mem_groupActions.mp listed
    rcases List.mem_append.mp stored with old | new
    · exact Directory.mem_groupActions.mpr ⟨entry, old, own, carried⟩
    · obtain ⟨policyId, _, rfl⟩ := List.mem_map.mp new
      exact absurd own (Int.ne_of_gt older)
  cases effect
  refine ⟨within.users, ⟨linked.policies, ?_, ?_, ?_, ?_⟩, within.numbered,
    within.admins, ?_, ?_⟩
  · refine forall_mem_insert ?_ (Int.lt_succ _)
    intro other old
    exact counted _ (linked.groups other old)
  · intro member present groupId assigned
    exact counted _ (linked.members member present groupId assigned)
  · intro entry present
    rcases List.mem_append.mp present with old | new
    · exact counted _ (linked.groupPolicies entry old)
    · obtain ⟨policyId, _, rfl⟩ := List.mem_map.mp new
      exact Int.lt_succ _
  · intro invite present
    obtain ⟨id, groupId⟩ := linked.invites invite present
    exact ⟨id, counted _ groupId⟩
  · refine within.visible_of_members rfl rfl ?_
    intro member present groupId assigned action listed
    have before := linked.members member present groupId assigned
    exact .inl (memberActions_of_group present assigned
      (older groupId before action listed))
  · intro invite present numbered
    obtain ⟨role, reach⟩ := within.invited invite present numbered
    refine ⟨role, ?_⟩
    intro action listed
    exact reach action (older _ (linked.invites invite present).2 action listed)

/-- The edited group carries actions within reach, and only its own
organization holds it. -/
theorem updateGroup (effect : Effect world directory now
      (.updateGroup actorId organizationId groupId name actions) next)
    (reach : ∀ action,
      directory.Delegates actorId organizationId action →
        Reach organizationId action)
    (held : heldOnlyIn directory organizationId groupId = true) :
    WithinReach start Reach next := by
  have linked := within.linked
  simp only [heldOnlyIn, Bool.and_eq_true, List.all_eq_true, Bool.or_eq_true,
    bne_iff_ne, beq_iff_eq] at held
  have actions : ∀ other, ∀ action ∈ next.groupActions other,
      action ∈ directory.groupActions other ∨
        other = groupId ∧ Reach organizationId action := by
    cases effect with | updateGroup delegated resolved own =>
    intro other action listed
    obtain ⟨entry, stored, same, carried⟩ :=
      Directory.mem_groupActions.mp listed
    rcases List.mem_append.mp stored with old | new
    · exact .inl (Directory.mem_groupActions.mpr
        ⟨entry, (List.mem_filter.mp old).1, same, carried⟩)
    · obtain ⟨policyId, chosen, rfl⟩ := List.mem_map.mp new
      obtain ⟨requested, asked, named⟩ :=
        (mapM_ok_mem resolved).1 policyId chosen
      rw [linked.policyIdOf_ok named carried]
      exact .inr ⟨same.symm, reach requested (delegated requested asked)⟩
  cases effect with | updateGroup delegated resolved own =>
  refine ⟨within.users, ⟨linked.policies, ?_, linked.members, ?_,
    linked.invites⟩, within.numbered, within.admins, ?_, ?_⟩
  · intro group present
    obtain ⟨old, kept, rfl⟩ := mem_updateWhere.mp present
    have before := linked.groups old kept
    split <;> exact before
  · intro entry present
    rcases List.mem_append.mp present with old | new
    · exact linked.groupPolicies entry (List.mem_filter.mp old).1
    · obtain ⟨policyId, _, rfl⟩ := List.mem_map.mp new
      obtain ⟨group, stored, named⟩ := List.any_eq_true.mp own
      simp only [Directory.isOwnGroup, Bool.and_eq_true, beq_iff_eq] at named
      rw [← named.1.1]
      exact linked.groups group stored
  · refine within.visible_of_members rfl rfl ?_
    intro member present other assigned action listed
    rcases actions other action listed with old | ⟨rfl, reached⟩
    · exact .inl (memberActions_of_group present assigned old)
    · rcases held.1 member present with free | inside
      · exact absurd assigned free
      · exact .inr (inside ▸ reached)
  · intro invite present numbered
    obtain ⟨role, before⟩ := within.invited invite present numbered
    refine ⟨role, ?_⟩
    intro action listed
    rcases actions _ action listed with old | ⟨same, reached⟩
    · exact before action old
    · rcases held.2 invite present with free | inside
      · exact absurd same free
      · exact inside ▸ reached

theorem deleteGroup {world : GroupWorld} {now actorId : Int}
    (effect : Effect world directory now
      (.deleteGroup actorId organizationId groupId) next) :
    WithinReach start Reach next := by
  have linked := within.linked
  have row : ∀ member ∈ next.members, ∀ other,
      member.groupId = some other → member ∈ directory.members := by
    cases effect
    intro member present other assigned
    obtain ⟨old, kept, ⟨_, rfl⟩ | ⟨_, rfl⟩⟩ :=
      cases_of_mem_updateWhere present
    · cases assigned
    · exact kept
  cases effect
  refine ⟨within.users, ⟨linked.policies, ?_, ?_, linked.groupPolicies, ?_⟩,
    within.numbered, ?_, ?_, ?_⟩
  · intro group present
    exact linked.groups group (List.mem_filter.mp present).1
  · intro member present other assigned
    exact linked.members member (row member present other assigned) other
      assigned
  · intro invite present
    exact linked.invites invite (List.mem_filter.mp present).1
  · exact within.admins_updateWhere rfl fun _ => ⟨rfl, rfl, rfl⟩
  · refine within.visible_of_members rfl rfl ?_
    intro member present other assigned action listed
    exact .inl (memberActions_of_group (row member present other assigned)
      assigned listed)
  · intro invite present numbered
    exact within.invited invite (List.mem_filter.mp present).1 numbered

theorem assignGroup (effect : Effect world directory now
      (.assignGroup actorId organizationId userId groupId) next)
    (reach : ∀ action, directory.Delegates actorId organizationId action →
      Reach organizationId action) :
    WithinReach start Reach next := by
  have linked := within.linked
  cases effect with | assignGroup delegated valid =>
  refine ⟨within.users, { linked with members := ?_ }, within.numbered, ?_, ?_,
    within.invited⟩
  · intro member present other assigned
    obtain ⟨old, kept, ⟨_, rfl⟩ | ⟨_, rfl⟩⟩ :=
      cases_of_mem_updateWhere present
    · cases assigned
      obtain ⟨group, stored, named⟩ := List.any_eq_true.mp valid
      simp only [Bool.and_eq_true, beq_iff_eq] at named
      rw [← named.1]
      exact linked.groups group stored
    · exact linked.members member kept other assigned
  · exact within.admins_updateWhere rfl fun _ => ⟨rfl, rfl, rfl⟩
  · refine within.visible_of_members rfl rfl ?_
    intro member present other assigned action listed
    obtain ⟨old, kept, ⟨hit, rfl⟩ | ⟨_, rfl⟩⟩ :=
      cases_of_mem_updateWhere present
    · cases assigned
      simp only [Directory.isMember, Bool.and_eq_true, beq_iff_eq] at hit
      exact .inr (hit.2 ▸ reach action (delegated action listed))
    · exact .inl (memberActions_of_group kept assigned listed)

theorem createInvite (invite : OrganizationInvite)
    (id : invite.id = directory.nextInvite)
    (role : invite.role = .member)
    (existing : directory.hasGroup invite.groupId = true)
    (reach : ∀ action ∈ directory.groupActions invite.groupId,
      Reach invite.organizationId action) :
    WithinReach start Reach { directory with
      invites := directory.invites ++ [invite]
      nextInvite := directory.nextInvite + 1 } := by
  have linked := within.linked
  refine ⟨within.users, { linked with invites := ?_ },
    Int.le_trans within.numbered (Int.le_of_lt (Int.lt_succ _)),
    within.admins, within.visible, ?_⟩
  · obtain ⟨group, stored, same⟩ := List.any_eq_true.mp existing
    refine forall_mem_insert ?_ ⟨id ▸ Int.lt_succ _,
      beq_iff_eq.mp same ▸ linked.groups group stored⟩
    intro other old
    obtain ⟨earlier, groupId⟩ := linked.invites other old
    exact ⟨Int.lt_add_one_of_le (Int.le_of_lt earlier), groupId⟩
  · exact forall_mem_insert within.invited fun _ => ⟨role, reach⟩

/-- A member who joins through an invitation made in the sequence. -/
theorem acceptInvite {invite : OrganizationInvite}
    (present : invite ∈ directory.invites)
    (numbered : start.nextInvite ≤ invite.id) :
    WithinReach start Reach { directory with
      members := directory.members ++
        [⟨directory.nextMember, invite.role, userId, invite.organizationId,
          some invite.groupId⟩]
      nextMember := directory.nextMember + 1
      invites := updateWhere (Directory.isPending invite.id)
        (fun invite => { invite with status := .accepted })
        directory.invites } := by
  obtain ⟨role, reach⟩ := within.invited invite present numbered
  have updated := within.of_statuses (Directory.isPending invite.id) .accepted
  have linked := updated.linked
  refine ⟨updated.users, { linked with members := ?_ }, updated.numbered, ?_,
    ?_, updated.invited⟩
  · refine forall_mem_insert linked.members ?_
    intro groupId assigned
    cases assigned
    exact (within.linked.invites invite present).2
  · intro user place admin
    apply within.admins user place
    unfold Directory.role at admin ⊢
    rw [List.find?_append] at admin
    cases found : directory.members.find? (Directory.isMember user place) with
    | some member => simpa [found] using admin
    | none =>
      rw [found, Option.none_or, List.find?_singleton] at admin
      split at admin
      · simp [role] at admin
      · cases admin
  · refine within.visible_of_members rfl rfl ?_
    refine forall_mem_insert ?_ ?_
    · intro member old groupId assigned action listed
      exact .inl (memberActions_of_group old assigned listed)
    · intro groupId assigned action listed
      cases assigned
      exact .inr (reach action listed)

/-- New overrides whose actions are within reach, and which hide what was
hidden unless it is within reach. -/
theorem replaceUserPolicies
    {entries : List (Int × PolicyEffect)}
    (granted : ∀ entry ∈ entries,
      ∀ action ∈ directory.policyActions entry.1, Reach organizationId action)
    (hidden : ∀ action ∈ directory.memberActions userId organizationId,
      action ∈ directory.overrides userId organizationId .deny →
        Reach organizationId action ∨
          ∃ entry ∈ entries, entry.2 = .deny ∧
            action ∈ directory.policyActions entry.1)
    (made : next = { directory with
      userPolicies := (directory.userPolicies.filter fun entry =>
        !(entry.userId == userId && entry.orgId == organizationId)) ++
          entries.map fun entry =>
            ⟨userId, organizationId, entry.1, entry.2⟩ }) :
    WithinReach start Reach next := by
  have rows : ∀ user place, ¬(user = userId ∧ place = organizationId) →
      ∀ effect action, action ∈ next.overrides user place effect ↔
        action ∈ directory.overrides user place effect := by
    subst made
    intro user place target effect action
    rw [Directory.mem_overrides, Directory.mem_overrides]
    constructor
    · rintro ⟨row, stored, own, there, rest⟩
      rcases List.mem_append.mp stored with old | new
      · exact ⟨row, (List.mem_filter.mp old).1, own, there, rest⟩
      · obtain ⟨entry, _, rfl⟩ := List.mem_map.mp new
        exact absurd ⟨own.symm, there.symm⟩ target
    · rintro ⟨row, stored, own, there, rest⟩
      refine ⟨row, List.mem_append_left _ (List.mem_filter.mpr ⟨stored, ?_⟩),
        own, there, rest⟩
      rw [own, there]
      simp only [Bool.not_eq_true', Bool.and_eq_false_iff, beq_eq_false_iff_ne]
      exact not_and_or.mp target
  subst made
  refine ⟨within.users, { within.linked with }, within.numbered,
    within.admins, ?_, within.invited⟩
  intro user place action effective
  obtain ⟨source, allowed⟩ := Directory.mem_effectiveActions.mp effective
  by_cases target : user = userId ∧ place = organizationId
  · obtain ⟨rfl, rfl⟩ := target
    rcases source with carried | listed
    · by_cases denied : action ∈ directory.overrides user place .deny
      · rcases hidden action carried denied with reach | ⟨entry, chosen, effect,
          listed⟩
        · exact .inr reach
        · apply absurd _ allowed
          apply Directory.mem_overrides.mpr
          exact ⟨⟨user, place, entry.1, entry.2⟩, List.mem_append_right _
            (List.mem_map.mpr ⟨entry, chosen, rfl⟩), rfl, rfl, effect, listed⟩
      · exact within.visible user place action
          (Directory.mem_effectiveActions.mpr ⟨.inl carried, denied⟩)
    · obtain ⟨row, stored, own, there, _, carried⟩ :=
        Directory.mem_overrides.mp listed
      rcases List.mem_append.mp stored with old | new
      · have kept := (List.mem_filter.mp old).2
        simp [own, there] at kept
      · obtain ⟨entry, chosen, rfl⟩ := List.mem_map.mp new
        exact .inr (granted entry chosen action carried)
  · rw [rows user place target] at source allowed
    exact within.visible user place action
      (Directory.mem_effectiveActions.mpr ⟨source, allowed⟩)

end

end WithinReach

/-- One careful call of an unprivileged actor. -/
theorem withinReach_effect {world : GroupWorld}
    {start next : Directory} {request : GroupRequest}
    {Reach : Int → String → Prop} (within : WithinReach start Reach directory)
    (unprivileged : request.call.Unprivileged start)
    (actor : ∀ organizationId, ∀ action ∈
      start.effectiveActions request.call.actor organizationId,
        Reach organizationId action)
    (safe : careful world start.nextInvite directory request = true)
    (effect : Effect world directory request.now request.call next) :
    WithinReach start Reach next := by
  obtain ⟨now, call⟩ := request
  obtain ⟨owner, admin⟩ := unprivileged
  have plain : ∀ organizationId, call.organization = some organizationId →
      directory.actorIsPrivileged call.actor organizationId = false := by
    intro organizationId place
    exact within.unprivileged owner (admin organizationId place)
  have reach : ∀ organizationId, call.organization = some organizationId →
      ∀ action, directory.Delegates call.actor organizationId action →
        Reach organizationId action := by
    intro organizationId place action delegates
    exact within.delegated (actor organizationId) (plain organizationId place)
      delegates
  have whole := effect
  cases effect with
  | createGroup => exact within.createGroup whole
  | updateGroup => exact within.updateGroup whole (reach _ rfl) safe
  | deleteGroup => exact within.deleteGroup whole
  | assignGroup => exact within.assignGroup whole (reach _ rfl)
  | @replaceUserPolicies actorId organizationId userId policies parsed resolved
      delegated =>
      refine within.replaceUserPolicies ?_ ?_ rfl
      · intro entry chosen action carried
        obtain ⟨full, listed, rfl⟩ := List.mem_map.mp chosen
        obtain ⟨source, _, read⟩ := (mapM_ok_mem resolved).1 full listed
        obtain ⟨_, id, policy, stored, same, named⟩ :=
          Directory.parsedPolicy_ok read
        rw [id, ← same] at carried
        rw [within.linked.policyActions_eq stored carried, named]
        exact reach organizationId rfl _
          (delegated _ (List.mem_map.mpr ⟨full, listed, rfl⟩))
      · intro action carried denied
        simp only [careful, keepsHidden, List.all_eq_true, Bool.or_eq_true,
          Bool.not_eq_true', List.contains_eq_mem, decide_eq_true_eq,
          decide_eq_false_iff_not, List.any_eq_true, Bool.and_eq_true,
          beq_iff_eq] at safe
        rcases safe action carried with (free | effective) | ⟨source, asked,
          effect, listed⟩
        · exact absurd denied free
        · exact .inl (reach organizationId rfl action (.inr effective))
        · obtain ⟨full, kept, read⟩ := (mapM_ok_mem resolved).2 source asked
          obtain ⟨parsedEffect, id, _⟩ := Directory.parsedPolicy_ok read
          rw [effect, Option.some.injEq] at parsedEffect
          exact .inr ⟨full.1, List.mem_map.mpr ⟨full, kept, rfl⟩,
            parsedEffect.symm, id ▸ listed⟩
  | @createInvite _ organizationId _ _ _ _ _ role administered delegated
      existing =>
      have member : role = .member := by
        cases role with
        | admin =>
          have privileged := administered rfl
          have not := plain organizationId rfl
          exact absurd privileged (Bool.eq_false_iff.mp not)
        | member => rfl
      refine within.createInvite _ rfl member existing ?_
      intro action listed
      exact reach organizationId rfl action (delegated action listed)
  | cancelInvite | listInvites => exact within.of_statuses _ _
  | acceptInvite found outside existing =>
    refine within.acceptInvite (List.mem_of_find?_eq_some found) ?_
    simpa [careful, found] using safe
  | @addMember _ organizationId _ _ _ _ _ privileged
  | @updateMemberRole _ organizationId _ _ _ privileged
  | @removeMember _ organizationId _ privileged =>
    exact absurd privileged (Bool.eq_false_iff.mp (plain organizationId rfl))

/-- After every sequence of careful calls by unprivileged actors, whoever is
effectively allowed an action was so at the start, or one of the actors had the
action among the effective ones. -/
theorem delegation_never_escalates (world : GroupWorld) {start : Directory}
    {requests : List GroupRequest} (linked : start.Linked)
    (unprivileged : ∀ request ∈ requests, request.call.Unprivileged start)
    (safe : AllMeet (serveGroups world)
      (fun directory request =>
        careful world start.nextInvite directory request = true)
      start requests)
    (userId organizationId : Int) (action : String)
    (allowed : (serveAll (serveGroups world) start requests).effectivelyAllowed
      userId organizationId action = true) :
    start.effectivelyAllowed userId organizationId action = true ∨
      ∃ request ∈ requests, action ∈
        start.effectiveActions request.call.actor organizationId := by
  let Reach (organizationId : Int) (action : String) : Prop :=
    ∃ request ∈ requests, action ∈
      start.effectiveActions request.call.actor organizationId
  have meets : AllMeet (serveGroups world)
      (fun directory request => request ∈ requests ∧
        careful world start.nextInvite directory request = true)
      start requests := by
    apply safe.imp
    intro directory request member safe
    exact ⟨member, safe⟩
  have within : WithinReach start Reach
      (serveAll (serveGroups world) start requests) := by
    apply meets.invariant (WithinReach start Reach) (.initial linked)
    rintro directory request within ⟨member, safe⟩
    apply serveGroups_keeps within
    intro next effect
    apply withinReach_effect within (unprivileged request member) _ safe effect
    intro place action effective
    exact ⟨request, member, effective⟩
  unfold Directory.effectivelyAllowed at allowed ⊢
  rw [Bool.or_eq_true] at allowed ⊢
  rcases allowed with privileged | effective
  · left
    left
    by_contra plain
    have denied := Bool.eq_false_iff.mpr plain
    simp only [Directory.actorIsPrivileged, Bool.or_eq_false_iff,
      beq_eq_false_iff_ne] at denied
    have still := within.unprivileged denied.1 denied.2
    rw [still] at privileged
    cases privileged
  · simp only [List.contains_eq_mem, decide_eq_true_eq] at effective ⊢
    rcases within.visible userId organizationId action effective with
      before | reach
    · exact .inl (.inr before)
    · exact .inr reach

/-- An organization with an administrator, Ann, and two members: Bob, whose
group may read, and Cay, whose group may also delete, which is denied to Cay. -/
def oneTenant : Directory where
  users := [⟨1, some "ann@example.org", some "Ann", none, "", "hash",
      some .member, 1⟩,
    ⟨2, some "bob@example.org", some "Bob", none, "", "hash", some .member, 1⟩,
    ⟨3, some "cay@example.org", some "Cay", none, "", "hash", some .member, 1⟩]
  nextUser := 4
  organizations := [⟨1, "Ann's Organization", none, "ann-organization", 1⟩]
  nextOrganization := 2
  members := [⟨1, .admin, 1, 1, none⟩, ⟨2, .member, 2, 1, some 2⟩,
    ⟨3, .member, 3, 1, some 3⟩]
  nextMember := 4
  groups := [⟨1, "owner", false, none⟩, ⟨2, "readers", false, some 1⟩,
    ⟨3, "cleaners", false, some 1⟩]
  nextGroup := 4
  policies := [⟨1, "project:read"⟩, ⟨2, "project:delete"⟩]
  groupPolicies := [⟨2, 1⟩, ⟨3, 1⟩, ⟨3, 2⟩]
  userPolicies := [⟨3, 1, 2, .deny⟩]
  invites := []
  nextInvite := 1

/-- Bob founds a group, moves Cay into it and replaces Cay's overrides, whose
denial then hides nothing. -/
def handOn : List GroupRequest :=
  [⟨0, .createGroup 2 1 "helpers" ["project:read"]⟩,
    ⟨0, .assignGroup 2 1 3 4⟩,
    ⟨0, .replaceUserPolicies 2 1 3 [⟨1, "grant"⟩]⟩]

theorem delegation_never_escalates_handOn :
    (serveAll (serveGroups openWorld) oneTenant handOn).effectivelyAllowed 3 1
        "project:read" = true ∧
      (oneTenant.effectivelyAllowed 3 1 "project:read" = true ∨
        ∃ request ∈ handOn, "project:read" ∈
          oneTenant.effectiveActions request.call.actor 1) := by
  have allowed : (serveAll (serveGroups openWorld) oneTenant
      handOn).effectivelyAllowed 3 1 "project:read" = true := by
    decide +kernel
  refine ⟨allowed, delegation_never_escalates openWorld
    ⟨by decide, by decide, by decide, by decide, by decide⟩ ?_
    (by decide +kernel) 3 1 "project:read" allowed⟩
  intro request member
  have actor : request.call.actor = 2 ∧ request.call.organization = some 1 := by
    revert request
    decide
  refine ⟨by rw [actor.1]; decide, ?_⟩
  intro organizationId place
  rw [actor.2, Option.some.injEq] at place
  rw [actor.1, ← place]
  decide

/-- Bob, who may only read, drops the denial of Cay, who may then delete. -/
theorem dropped_denial_escalates :
    oneTenant.actorIsPrivileged 2 1 = false ∧
      oneTenant.effectivelyAllowed 2 1 "project:delete" = false ∧
      oneTenant.effectivelyAllowed 3 1 "project:delete" = false ∧
      (serveAll (serveGroups openWorld) oneTenant
        [⟨0, .replaceUserPolicies 2 1 3 []⟩]).effectivelyAllowed 3 1
          "project:delete" = true := by
  decide +kernel

end OpenOxide.Access
